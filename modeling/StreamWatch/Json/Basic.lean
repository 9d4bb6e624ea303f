/-
**Document values.**

A value as documents and settings carry it. Whole numbers and numbers with a fraction or an exponent
are kept apart, since a reader of a whole number refuses the latter. The members of an object stand
in ascending order of their names, each name once.
-/

import StreamWatch.Number.Binary64

namespace StreamWatch

/-- A document value. -/
inductive Json where
  | null
  | bool (value : Bool)
  | int (value : Int)
  | real (value : Binary64)
  | str (value : String)
  | list (items : List Json)
  | object (members : List (String × Json))
deriving Inhabited, Repr

namespace Json

/-- Puts a member in its place by name; a member of that name gives way to it. -/
def putMember (name : String) (value : Json) : List (String × Json) → List (String × Json)
  | [] => [(name, value)]
  | (other, old) :: rest =>
    if name = other then (name, value) :: rest
    else if name < other then (name, value) :: (other, old) :: rest
    else (other, old) :: putMember name value rest

/-- An object with these members, the last one counting where a name is repeated. -/
def ofMembers (members : List (String × Json)) : Json :=
  .object (members.foldl (fun sorted (name, value) => putMember name value sorted) [])

/-- The member of a name, when the value is an object that has one. -/
def member? (name : String) : Json → Option Json
  | object members => members.lookup name
  | _ => none

/-- The text, when the value is a text. -/
def text? : Json → Option String
  | str value => some value
  | _ => none

/-- The truth value, when the value is one. -/
def bool? : Json → Option Bool
  | bool value => some value
  | _ => none

/-- The items, when the value is a list. -/
def list? : Json → Option (List Json)
  | list items => some items
  | _ => none

/-- The whole number, when the value is one of 64 bits without a sign. -/
def word? : Json → Option UInt64
  | int value => if 0 ≤ value ∧ value < Number.wordBound then some (UInt64.ofNat value.toNat) else none
  | _ => none

/-- The whole number, when the value is one of 64 bits with a sign. -/
def signedWord? : Json → Option Int
  | int value => if Number.isSigned value then some value else none
  | _ => none

/-- A value that may be absent, written as nothing when it is. -/
def ofOption {α : Type} (encode : α → Json) : Option α → Json
  | some value => encode value
  | none => null

/-- A natural number as a value. -/
def ofNat (n : Nat) : Json := int n

/-- Looking for the name just put finds what was put. -/
theorem lookup_putMember_self (name : String) (value : Json) (members : List (String × Json)) :
    (putMember name value members).lookup name = some value := by
  induction members with
  | nil => simp [putMember]
  | cons head rest ih =>
    obtain ⟨other, old⟩ := head
    rw [putMember]
    split
    · simp
    · next differs =>
      split
      · simp
      · have : (name == other) = false := by simpa using differs
        rw [List.lookup_cons, this]; exact ih

/-- Looking for any other name finds what was there. -/
theorem lookup_putMember_of_ne {name other : String} (differ : other ≠ name) (value : Json)
    (members : List (String × Json)) : (putMember name value members).lookup other = members.lookup other := by
  have apart : (other == name) = false := beq_eq_false_iff_ne.mpr differ
  induction members with
  | nil => rw [putMember, List.lookup_cons, apart]
  | cons head rest ih =>
    obtain ⟨first, old⟩ := head
    rw [putMember]
    split
    · next same => rw [List.lookup_cons, List.lookup_cons, ← same, apart]
    · split
      · rw [List.lookup_cons, apart]
      · rw [List.lookup_cons, List.lookup_cons, ih]

end Json
end StreamWatch
