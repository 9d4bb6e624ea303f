/-
**Reading documents loosely.**

A member that is missing or of another type than asked for is taken as nothing, or as what is said here to stand
for nothing: the empty text, zero, no items, false.
-/

import StreamWatch.Json.Basic

namespace StreamWatch.Json.Loose

/-- The member of a name, or nothing. -/
def member (value : Json) (name : String) : Json := (value.member? name).getD .null

/-- The text of a name. -/
def text? (value : Json) (name : String) : Option String := (member value name).text?

/-- The text of a name, or the empty one. -/
def text (value : Json) (name : String) : String := (text? value name).getD ""

/-- The natural number of a name. -/
def nat? (value : Json) (name : String) : Option Nat := (member value name).word?.map (·.toNat)

/-- The natural number of a name, or zero. -/
def nat (value : Json) (name : String) : Nat := (nat? value name).getD 0

/-- The low 32 bits of the natural number of a name, or zero. -/
def halfWord (value : Json) (name : String) : UInt32 := UInt32.ofNat (nat value name)

/-- The whole number of a name. -/
def int? (value : Json) (name : String) : Option Int := (member value name).signedWord?

/-- The whole number of a name, or zero. -/
def int (value : Json) (name : String) : Int := (int? value name).getD 0

/-- The truth value of a name, or another. -/
def flagOr (standard : Bool) (value : Json) (name : String) : Bool :=
  ((member value name).bool?).getD standard

/-- The truth value of a name, or false. -/
def flag (value : Json) (name : String) : Bool := flagOr false value name

/-- The items of a name, or none. -/
def items (value : Json) (name : String) : List Json := ((member value name).list?).getD []

/-- The whole numbers among the items of a name. -/
def ids (value : Json) (name : String) : List Int := (items value name).filterMap (·.signedWord?)

/-- The members of a name, or none. -/
def members (value : Json) (name : String) : List (String × Json) :=
  match member value name with
  | .object members => members
  | _ => []

end StreamWatch.Json.Loose
