/-
**Whole numbers written in decimal.**

A written number is one or more ASCII digits after an optional sign. Nothing else is accepted: no
blanks, no separators, no other digits. Every reader has a bound, and a number beyond it is refused.

* `digitsValueFrom?_append`: a text in two parts is read as its first part, then the second after it.
-/

import StreamWatch.Number.Width

namespace StreamWatch.Number

/-- The value of an ASCII digit. -/
def digitValue? (c : Char) : Option Nat :=
  if '0' ≤ c ∧ c ≤ '9' then some (c.toNat - '0'.toNat) else none

/-- Whether a character is an ASCII digit. -/
def isDigit (c : Char) : Bool :=
  (digitValue? c).isSome

/-- The value of digits read after a number already read. -/
def digitsValueFrom? : (value : Nat) → List Char → Option Nat
  | value, [] => some value
  | value, c :: rest =>
    match digitValue? c with
    | some d => digitsValueFrom? (value * 10 + d) rest
    | none => none

/-- The value of a text of one or more digits. -/
def digitsValue? : List Char → Option Nat
  | [] => none
  | text => digitsValueFrom? 0 text

/-- A natural number below the bound, with at most one plus sign before it. -/
def natural? (bound : Nat) (text : List Char) : Option Nat :=
  let digits := match text with
    | '+' :: rest => rest
    | _ => text
  (digitsValue? digits).filter (· < bound)

/-- An integer of at least `low` and below `high`, with at most one sign before it. -/
def integer? (low high : Int) (text : List Char) : Option Int :=
  let value := match text with
    | '-' :: rest => (digitsValue? rest).map fun n => -(n : Int)
    | '+' :: rest => (digitsValue? rest).map Int.ofNat
    | _ => (digitsValue? text).map Int.ofNat
  value.filter fun n => low ≤ n ∧ n < high

/-- A number of 64 bits. -/
def word? (text : List Char) : Option UInt64 :=
  (natural? wordBound text).map UInt64.ofNat

/-- A signed number of 64 bits. -/
def signedWord? (text : List Char) : Option Int :=
  integer? (-signedBound) signedBound text

/-- The number with at least `width` digits, filled up with zeros in front. -/
def padded (width n : Nat) : String :=
  let digits := toString n
  String.ofList (List.replicate (width - digits.length) '0') ++ digits

theorem digitsValueFrom?_append (value : Nat) (front back : List Char) :
    digitsValueFrom? value (front ++ back) =
      (digitsValueFrom? value front).bind fun v => digitsValueFrom? v back := by
  induction front generalizing value with
  | nil => simp [digitsValueFrom?]
  | cons c rest ih =>
    simp only [List.cons_append, digitsValueFrom?]
    cases digitValue? c with
    | none => simp
    | some d => simpa using ih _

end StreamWatch.Number
