/-
**The words of a settings file: numbers, truth values and dates.**

A word is read as a whole. A date, a time of day or both stand for an object with one member that holds their
normal form.
-/

import StreamWatch.Json.Basic
import StreamWatch.Number.Real
import StreamWatch.Time.Calendar

namespace StreamWatch.Toml

open Number

/-- Digits of one kind without the underscores that may stand between two of them. -/
def ungrouped? (isDigit : Char → Bool) : List Char → Option (List Char)
  | [] => none
  | [c] => if isDigit c then some [c] else none
  | c :: '_' :: rest => if isDigit c then (ungrouped? isDigit rest).map (c :: ·) else none
  | c :: rest => if isDigit c then (ungrouped? isDigit rest).map (c :: ·) else none

/-- The value of a digit of a base up to sixteen. -/
def baseDigit? (base : Nat) (c : Char) : Option Nat :=
  let value : Option Nat :=
    if '0' ≤ c ∧ c ≤ '9' then some (c.toNat - '0'.toNat)
    else if 'a' ≤ c ∧ c ≤ 'f' then some (c.toNat - 'a'.toNat + 10)
    else if 'A' ≤ c ∧ c ≤ 'F' then some (c.toNat - 'A'.toNat + 10)
    else none
  value.filter (· < base)

/-- A whole number that fits 64 bits with a sign. -/
def fitting? (n : Int) : Option Json :=
  if isSigned n then some (.int n) else none

/-- Digits of a base. -/
def based? (base : Nat) (digits : List Char) : Option Json := do
  let digits ← ungrouped? (fun c => (baseDigit? base c).isSome) digits
  fitting? (digits.foldl (fun n c => n * base + (baseDigit? base c).getD 0) 0)

/-- Decimal digits that begin with a zero only when that is all. -/
def wholeDigits? (text : List Char) : Option (List Char) := do
  match ← ungrouped? isDigit text with
  | '0' :: _ :: _ => none
  | digits => some digits

/-- The sign of a word and what follows it. -/
def signed : List Char → Bool × List Char
  | '-' :: rest => (true, rest)
  | '+' :: rest => (false, rest)
  | text => (false, text)

/-- A decimal number with a fraction or an exponent, or one of the words for infinity and no number. -/
def fractional? (text : List Char) : Option Json := do
  let (negative, text) := signed text
  let sign (x : Binary64) : Json := .real (if negative then x.negate else x)
  if text = "inf".toList then some (sign .infinity)
  else if text = "nan".toList then some (sign .notANumber)
  else
    let isMark (c : Char) : Bool := c == '.' || c == 'e' || c == 'E'
    let whole ← wholeDigits? (text.takeWhile fun c => !isMark c)
    let (fraction, rest) ← match text.dropWhile fun c => !isMark c with
      | '.' :: rest => do
        let isExponent (c : Char) : Bool := c == 'e' || c == 'E'
        let fraction ← ungrouped? isDigit (rest.takeWhile fun c => !isExponent c)
        pure (fraction, rest.dropWhile fun c => !isExponent c)
      | rest => pure ([], rest)
    let exponent : Int ← match rest with
      | [] => if fraction.isEmpty then none else pure 0
      | _ :: rest => do
        let (below, digits) := signed rest
        let n ← digitsValue? (← ungrouped? isDigit digits)
        pure (if below then -(n : Int) else n)
    let x := nearestScaled (← digitsValue? (whole ++ fraction)) (exponent - fraction.length)
    if x.isFinite then some (sign x) else none

/-- A number. -/
def number? (text : List Char) : Option Json :=
  match text with
  | '0' :: 'x' :: digits => based? 16 digits
  | '0' :: 'o' :: digits => based? 8 digits
  | '0' :: 'b' :: digits => based? 2 digits
  | _ =>
    let (negative, digits) := signed text
    match (wholeDigits? digits).bind digitsValue? with
    | some n => fitting? (if negative then -(n : Int) else n)
    | none => fractional? text

/-! ### Dates -/

/-- A number of so many digits, of at least `low` and at most `high`. -/
def fixed? (width low high : Nat) (text : List Char) : Option (Nat × List Char) := do
  let digits := text.take width
  if digits.length < width then none
  let n ← digitsValue? digits
  if low ≤ n ∧ n ≤ high then some (n, text.drop width) else none

/-- One given character. -/
def mark? (c : Char) : List Char → Option (List Char)
  | d :: rest => if c = d then some rest else none
  | [] => none

/-- A date and what follows it. -/
def date? (text : List Char) : Option (String × List Char) := do
  let (year, rest) ← fixed? 4 0 9999 text
  let (month, rest) ← fixed? 2 1 12 (← mark? '-' rest)
  let (day, rest) ← fixed? 2 1 31 (← mark? '-' rest)
  if monthLength year month < day then none
  else some (padded 4 year ++ "-" ++ padded 2 month ++ "-" ++ padded 2 day, rest)

/-- The part of a second after a point, to nine digits and without zeros at its end. -/
def secondPart? : List Char → Option (String × List Char)
  | '.' :: rest =>
    match rest.takeWhile isDigit with
    | [] => none
    | digits =>
      let kept := ((digits.take 9).reverse.dropWhile (· == '0')).reverse
      some (if kept.isEmpty then "" else String.ofList ('.' :: kept), rest.dropWhile isDigit)
  | text => some ("", text)

/-- A time of day and what follows it. -/
def time? (text : List Char) : Option (String × List Char) := do
  let (hour, rest) ← fixed? 2 0 23 text
  let (minute, rest) ← fixed? 2 0 59 (← mark? ':' rest)
  let (second, rest) ← fixed? 2 0 60 (← mark? ':' rest)
  let (part, rest) ← secondPart? rest
  some (padded 2 hour ++ ":" ++ padded 2 minute ++ ":" ++ padded 2 second ++ part, rest)

/-- An offset from universal time that ends a word, or the end of the word. -/
def offset? : List Char → Option String
  | [] => some ""
  | ['Z'] | ['z'] => some "Z"
  | sign :: rest => do
    if sign ≠ '+' ∧ sign ≠ '-' then none
    let (hour, rest) ← fixed? 2 0 23 rest
    let (minute, rest) ← fixed? 2 0 59 (← mark? ':' rest)
    if rest.isEmpty then some (String.ofList [sign] ++ padded 2 hour ++ ":" ++ padded 2 minute) else none

/-- The name of the member that holds the normal form of a date. -/
def dateMember : String := "$__toml_private_datetime"

/-- A date, a time of day, or both. -/
def moment? (text : List Char) : Option Json := do
  let form ← match date? text with
    | none =>
      let (time, rest) ← time? text
      if rest.isEmpty then pure time else none
    | some (date, []) => pure date
    | some (date, c :: rest) =>
      if c = 'T' ∨ c = 't' ∨ c = ' ' then do
        let (time, rest) ← time? rest
        pure (date ++ "T" ++ time ++ (← offset? rest))
      else none
  pure (.object [(dateMember, .str form)])

/-- What a word stands for. -/
def word? (text : List Char) : Option Json :=
  if text = "true".toList then some (.bool true)
  else if text = "false".toList then some (.bool false)
  else number? text <|> moment? text

end StreamWatch.Toml
