/-
**Reading typed values out of document values.**

A record is read from an object by the names of its members, or from a list by the order of its fields.
Members of unknown names are let pass. A fault in a member counts before every fault in a later member,
and an absent member counts after all of them.

* `Fields.read_pure`, `Fields.read_seq`: what a record of several fields reads.
-/

import StreamWatch.Json.Basic
import StreamWatch.Time.Duration.Text
import StreamWatch.Time.Instant.Text

namespace StreamWatch

/-- Why a document value is not the typed value asked for. -/
inductive DecodeError where
  | mistyped (expected : String)
  | outOfRange (expected : String)
  | missing (field : String)
  | repeated (field : String)
  | unknownVariant (name : String)
  | tooManyItems
  | badInstant (fault : ClockFault)
  | negativeDuration (seconds : Int)
  | badDuration (text : String) (fault : Duration.Fault)
deriving DecidableEq, Repr

/-- What is wrong, in words. -/
def DecodeError.message : DecodeError → String
  | mistyped expected => s!"expected {expected}"
  | outOfRange expected => s!"number out of range, expected {expected}"
  | missing field => s!"missing field {field}"
  | repeated field => s!"duplicate field {field}"
  | unknownVariant name => s!"unknown variant {name}"
  | tooManyItems => "too many items"
  | badInstant fault => fault.message
  | negativeDuration seconds => s!"Negative duration: {seconds}"
  | badDuration text fault =>
    let reason := fault.message
    s!"Invalid duration '{text}': {reason}"

namespace Json

/-- A reader of one typed value. -/
abbrev Decoder (α : Type) := Json → Except DecodeError α

namespace Decoder

/-- Any value, unchanged. -/
def any : Decoder Json := .ok

/-- A truth value. -/
def bool : Decoder Bool
  | .bool value => .ok value
  | _ => .error (.mistyped "a truth value")

/-- A text. -/
def string : Decoder String
  | .str value => .ok value
  | _ => .error (.mistyped "a text")

/-- A whole number of at least `low` and below `high`. -/
def integer (low high : Int) (expected : String) : Decoder Int
  | .int value => if low ≤ value ∧ value < high then .ok value else .error (.outOfRange expected)
  | _ => .error (.mistyped expected)

/-- A whole number of 64 bits with a sign. -/
def signedWord : Decoder Int := integer (-Number.signedBound) Number.signedBound "a signed number of 64 bits"

/-- A natural number of 64 bits. -/
def natural : Decoder Nat := fun value =>
  (integer 0 Number.wordBound "a number of 64 bits" value).map Int.toNat

/-- A natural number of 64 bits as a word. -/
def word : Decoder UInt64 := fun value => (natural value).map UInt64.ofNat

/-- A natural number of 32 bits as a word. -/
def halfWord : Decoder UInt32 := fun value =>
  (integer 0 Number.halfBound "a number of 32 bits" value).map fun n => UInt32.ofNat n.toNat

/-- A number with or without a fraction. -/
def real : Decoder Binary64
  | .real value => .ok value
  | .int value => .ok (Binary64.ofInt value)
  | _ => .error (.mistyped "a number")

/-- A list of values of one type. -/
def list {α : Type} (item : Decoder α) : Decoder (List α)
  | .list items => items.mapM item
  | _ => .error (.mistyped "a list")

/-- The members of an object, unchanged. -/
def members : Decoder (List (String × Json))
  | .object members => .ok members
  | _ => .error (.mistyped "an object")

/-- A value that may be nothing. -/
def option {α : Type} (some? : Decoder α) : Decoder (Option α)
  | .null => .ok none
  | value => (some? value).map some

/-- One of several named variants, written as its name or as an object of its name and nothing. -/
def variant {α : Type} (variants : List (String × α)) : Decoder α := fun value =>
  let named (name : String) : Except DecodeError α :=
    match variants.lookup name with
    | some v => .ok v
    | none => .error (.unknownVariant name)
  match value with
  | .str name => named name
  | .object [(name, .null)] => named name
  | .object [(name, _)] => do
    let _ ← named name
    throw (.mistyped "nothing")
  | _ => .error (.mistyped "the name of a variant")

/-- A point in time. -/
def instant : Decoder Instant
  | .str text => (Instant.parse text).mapError .badInstant
  | _ => .error (.mistyped "a point in time")

/-- A length of time: a number of seconds or a written length. -/
def duration : Decoder Duration
  | .int seconds =>
    if seconds < 0 then
      if -Number.signedBound ≤ seconds then .error (.negativeDuration seconds)
      else .error (.mistyped "a length of time")
    else if seconds < Number.wordBound then .ok (Duration.ofSeconds seconds.toNat)
    else .error (.mistyped "a length of time")
  | .str text => (Duration.parse text).mapError (.badDuration text)
  | _ => .error (.mistyped "a length of time")

end Decoder

/-! ### Records -/

/-- Where the fields of a record come from. -/
inductive Source where
  | members (members : List (String × Json))
  | items (items : List Json)

/-- A fault with its place among the members; an absent member has the place after all of them. -/
structure Misfit where
  place : Nat
  error : DecodeError

/-- Fields of a record that stand next to each other: how many, and how they are read when the first
of them has a given number. -/
structure Fields (α : Type) where
  count : Nat
  read : (number : Nat) → Source → Except Misfit α

namespace Fields

/-- Two readings, of which the fault at the earlier place counts. -/
def both {α β : Type} (first : Except Misfit (α → β)) (second : Except Misfit α) :
    Except Misfit β :=
  match first, second with
  | .ok f, .ok x => .ok (f x)
  | .ok _, .error misfit => .error misfit
  | .error misfit, .ok _ => .error misfit
  | .error one, .error other => .error (if other.place < one.place then other else one)

instance : Applicative Fields where
  pure x := ⟨0, fun _ _ => .ok x⟩
  seq f x := ⟨f.count + (x ()).count, fun number source =>
    both (f.read number source) ((x ()).read (number + f.count) source)⟩

/-- The members of one field, with their places. -/
def occurrences (names : List String) (members : List (String × Json)) : List (Nat × Json) :=
  members.zipIdx.filterMap fun ((name, value), place) =>
    if names.contains name then some (place, value) else none

/-- A field known by one of several names. It says what an absent member stands for, and what an
absent item of a list stands for. -/
def field {α : Type} (names : List String) (decode : Decoder α)
    (absentMember absentItem : Option α) : Fields α where
  count := 1
  read number source :=
    let name := names.headD ""
    match source with
    | .members members =>
      match occurrences names members with
      | [] =>
        match absentMember with
        | some value => .ok value
        | none => .error ⟨members.length + number, .missing name⟩
      | (place, value) :: more =>
        match decode value, more with
        | .error error, _ => .error ⟨place, error⟩
        | .ok _, (again, _) :: _ => .error ⟨again, .repeated name⟩
        | .ok value, [] => .ok value
    | .items items =>
      match items[number]? with
      | some value => (decode value).mapError (⟨number, ·⟩)
      | none =>
        match absentItem with
        | some value => .ok value
        | none => .error ⟨items.length + number, .missing name⟩

/-- A field that has to be there. -/
def required {α : Type} (name : String) (decode : Decoder α) : Fields α :=
  field [name] decode none none

/-- A field that has a value of its own when it is absent. -/
def withDefault {α : Type} (name : String) (decode : Decoder α) (value : α) : Fields α :=
  field [name] decode (some value) (some value)

/-- A field that may be absent or nothing; a list has to have an item for it. -/
def optional {α : Type} (name : String) (decode : Decoder α) : Fields (Option α) :=
  field [name] decode.option (some none) none

/-- The record of an object or a list; a list has no more items than the record has fields. -/
def decode {α : Type} (fields : Fields α) : Decoder α
  | .object members => (fields.read 0 (.members members)).mapError (·.error)
  | .list items =>
    match fields.read 0 (.items items) with
    | .error misfit => .error misfit.error
    | .ok value => if fields.count < items.length then .error .tooManyItems else .ok value
  | _ => .error (.mistyped "an object")

@[simp] theorem read_pure {α : Type} (x : α) (number : Nat) (source : Source) :
    (pure x : Fields α).read number source = .ok x := rfl

@[simp] theorem read_seq {α β : Type} (f : Fields (α → β)) (x : Fields α) (number : Nat)
    (source : Source) :
    (f <*> x).read number source =
      both (f.read number source) (x.read (number + f.count) source) := rfl

end Fields

/-- A map from texts to values of one type. -/
def Decoder.mapping {α : Type} (item : Decoder α) : Decoder (List (String × α))
  | .object members => members.mapM fun (name, value) => (item value).map (name, ·)
  | _ => .error (.mistyped "an object")

end Json
end StreamWatch
