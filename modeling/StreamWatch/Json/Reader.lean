/-
**Reading document values from text.**

The reader takes the whole text as one value with blanks around it, or nothing. Objects keep the last
member of a repeated name. Containers may be nested less than 128 deep.

A number with a fraction or an exponent, or beyond 64 bits, is read by scaling a significand of at most
64 bits by a power of ten in machine arithmetic; digits that no longer fit the significand are dropped.
-/

import StreamWatch.Json.Basic
import StreamWatch.Number.Real

namespace StreamWatch.Json

open StreamWatch.Number

/-- Skips the blanks a document may have between its parts. -/
def skipBlank (text : List Char) : List Char :=
  text.dropWhile fun c => c = ' ' ∨ c = '\t' ∨ c = '\n' ∨ c = '\r'

/-! ### Numbers -/

/-- A power of ten as the nearest machine number. -/
def powerOfTen (n : Nat) : Float := (nearestScaled 1 n).toFloat

/-- A significand times a power of ten in machine arithmetic, in steps of at most `10 ^ 308`; nothing
when the result is too large. -/
def scale? : (steps : Nat) → Float → (power : Int) → Option Float
  | 0, _, _ => some 0
  | steps + 1, x, power =>
    if power.natAbs ≤ 308 then
      if power < 0 then some (x / powerOfTen power.natAbs)
      else
        let product := x * powerOfTen power.natAbs
        if product.isInf then none else some product
    else if x == 0 then some x
    else if 0 ≤ power then none
    else scale? steps (x / powerOfTen 308) (power + 308)

/-- A signed real from its significand and its power of ten. -/
def realOfParts? (negative : Bool) (significand : Nat) (power : Int) : Option Json :=
  (scale? 4 (UInt64.ofNat significand).toFloat power).map fun x =>
    .real (Binary64.ofFloat (if negative then -x else x))

/-- The exponent after its letter, and the text after it. -/
def readExponent? (negative : Bool) (significand : Nat) (power : Int) (text : List Char) :
    Option (Json × List Char) :=
  let (minus, digits) := match text with
    | '-' :: rest => (true, rest)
    | '+' :: rest => (false, rest)
    | rest => (false, rest)
  let rest := digits.dropWhile isDigit
  match digitsValue? (digits.takeWhile isDigit) with
  | none => none
  | some n =>
    let value :=
      if n < signedHalfBound then
        let shifted : Int := if minus then power - n else power + n
        realOfParts? negative significand (max (-signedHalfBound) (min (signedHalfBound - 1) shifted))
      else if significand = 0 ∨ minus then realOfParts? negative 0 0
      else none
    value.map (·, rest)

/-- A real whose whole part and fraction are read: its exponent, when it has one. -/
def readScaled? (negative : Bool) (significand : Nat) (power : Int) (text : List Char) :
    Option (Json × List Char) :=
  match text with
  | 'e' :: rest => readExponent? negative significand power rest
  | 'E' :: rest => readExponent? negative significand power rest
  | _ => (realOfParts? negative significand power).map (·, text)

/-- Digits after a point. A digit that no longer fits the significand ends what counts. -/
def readFraction? (negative : Bool) :
    (significand : Nat) → (power : Int) → (any : Bool) → List Char → Option (Json × List Char)
  | significand, power, any, [] =>
    if any then readScaled? negative significand power [] else none
  | significand, power, any, c :: rest =>
    match digitValue? c with
    | some d =>
      if significand * 10 + d < wordBound then
        readFraction? negative (significand * 10 + d) (power - 1) true rest
      else readScaled? negative significand power (rest.dropWhile isDigit)
    | none => if any then readScaled? negative significand power (c :: rest) else none

/-- Digits of a whole part that no longer fit the significand: each only scales it. -/
def readLong? (negative : Bool) (significand : Nat) : (power : Int) → List Char →
    Option (Json × List Char)
  | power, '.' :: rest => readFraction? negative significand power false rest
  | power, c :: rest =>
    if isDigit c then readLong? negative significand (power + 1) rest
    else readScaled? negative significand power (c :: rest)
  | power, [] => readScaled? negative significand power []

/-- A whole part that is read: a whole number, unless a fraction or an exponent follows, or it is a
negative zero or below the least number of 64 bits. -/
def readWhole? (negative : Bool) (significand : Nat) (text : List Char) :
    Option (Json × List Char) :=
  match text with
  | '.' :: rest => readFraction? negative significand 0 false rest
  | 'e' :: rest => readExponent? negative significand 0 rest
  | 'E' :: rest => readExponent? negative significand 0 rest
  | _ =>
    if !negative then some (.int significand, text)
    else if significand = 0 ∨ signedBound < significand then
      (realOfParts? true significand 0).map (·, text)
    else some (.int (-(significand : Int)), text)

/-- The digits of a whole part. -/
def readDigits? (negative : Bool) : (significand : Nat) → List Char → Option (Json × List Char)
  | significand, [] => readWhole? negative significand []
  | significand, c :: rest =>
    match digitValue? c with
    | some d =>
      if significand * 10 + d < wordBound then readDigits? negative (significand * 10 + d) rest
      else readLong? negative significand 1 rest
    | none => readWhole? negative significand (c :: rest)

/-- A number without its sign; a zero in front of digits is refused. -/
def readMagnitude? (negative : Bool) : List Char → Option (Json × List Char)
  | '0' :: c :: rest => if isDigit c then none else readWhole? negative 0 (c :: rest)
  | c :: rest => if isDigit c then readDigits? negative 0 (c :: rest) else none
  | [] => none

/-! ### Texts -/

/-- The value of a hexadecimal digit. -/
def hexValue? (c : Char) : Option Nat :=
  if '0' ≤ c ∧ c ≤ '9' then some (c.toNat - '0'.toNat)
  else if 'a' ≤ c ∧ c ≤ 'f' then some (c.toNat - 'a'.toNat + 10)
  else if 'A' ≤ c ∧ c ≤ 'F' then some (c.toNat - 'A'.toNat + 10)
  else none

/-- The value of four hexadecimal digits. -/
def hexWord? (a b c d : Char) : Option Nat := do
  pure ((((← hexValue? a) * 16 + (← hexValue? b)) * 16 + (← hexValue? c)) * 16 + (← hexValue? d))

/-- The character a one-letter escape stands for. -/
def escaped? : Char → Option Char
  | '"' => some '"'
  | '\\' => some '\\'
  | '/' => some '/'
  | 'b' => some '\x08'
  | 'f' => some '\x0C'
  | 'n' => some '\n'
  | 'r' => some '\r'
  | 't' => some '\t'
  | _ => none

/-- The characters up to the closing quote, read so far in reverse, and the text after the quote. A
numbered escape is one character, or one half of a pair whose other half has to follow. -/
def readText? : (done : List Char) → List Char → Option (String × List Char)
  | done, '"' :: rest => some (String.ofList done.reverse, rest)
  | done, '\\' :: 'u' :: a :: b :: c :: d :: rest =>
    match hexWord? a b c d with
    | none => none
    | some unit =>
      if 0xDC00 ≤ unit ∧ unit ≤ 0xDFFF then none
      else if 0xD800 ≤ unit ∧ unit ≤ 0xDBFF then
        match rest with
        | '\\' :: 'u' :: e :: f :: g :: h :: rest =>
          match hexWord? e f g h with
          | none => none
          | some low =>
            if 0xDC00 ≤ low ∧ low ≤ 0xDFFF then
              readText? (Char.ofNat (0x10000 + (unit - 0xD800) * 0x400 + (low - 0xDC00)) :: done) rest
            else none
        | _ => none
      else readText? (Char.ofNat unit :: done) rest
  | done, '\\' :: c :: rest =>
    match escaped? c with
    | some e => readText? (e :: done) rest
    | none => none
  | done, c :: rest => if c.toNat < 0x20 then none else readText? (c :: done) rest
  | _, [] => none

/-! ### Values -/

mutual

/-- A value at the start of a text, and the text after it. The first number bounds the steps and the
second the depth of containers. -/
def readValue? : (fuel depth : Nat) → List Char → Option (Json × List Char)
  | 0, _, _ => none
  | fuel + 1, depth, text =>
    match text with
    | 'n' :: 'u' :: 'l' :: 'l' :: rest => some (.null, rest)
    | 't' :: 'r' :: 'u' :: 'e' :: rest => some (.bool true, rest)
    | 'f' :: 'a' :: 'l' :: 's' :: 'e' :: rest => some (.bool false, rest)
    | '"' :: rest => (readText? [] rest).map fun (value, rest) => (.str value, rest)
    | '-' :: rest => readMagnitude? true rest
    | '[' :: rest =>
      if depth ≤ 1 then none
      else match skipBlank rest with
        | ']' :: rest => some (.list [], rest)
        | rest => readItems? fuel (depth - 1) [] rest
    | '\x7b' :: rest =>
      if depth ≤ 1 then none
      else match skipBlank rest with
        | '\x7d' :: rest => some (.object [], rest)
        | rest => readMembers? fuel (depth - 1) [] rest
    | _ => readMagnitude? false text

/-- The items of a list from the next one on, those read so far in reverse. -/
def readItems? : (fuel depth : Nat) → List Json → List Char → Option (Json × List Char)
  | 0, _, _, _ => none
  | fuel + 1, depth, done, text =>
    match readValue? fuel depth (skipBlank text) with
    | none => none
    | some (item, rest) =>
      match skipBlank rest with
      | ',' :: rest => readItems? fuel depth (item :: done) rest
      | ']' :: rest => some (.list (item :: done).reverse, rest)
      | _ => none

/-- The members of an object from the next one on, those read so far in order. -/
def readMembers? : (fuel depth : Nat) → List (String × Json) → List Char →
    Option (Json × List Char)
  | 0, _, _, _ => none
  | fuel + 1, depth, done, text =>
    match skipBlank text with
    | '"' :: rest =>
      match readText? [] rest with
      | none => none
      | some (name, rest) =>
        match skipBlank rest with
        | ':' :: rest =>
          match readValue? fuel depth (skipBlank rest) with
          | none => none
          | some (value, rest) =>
            match skipBlank rest with
            | ',' :: rest => readMembers? fuel depth (putMember name value done) rest
            | '\x7d' :: rest => some (.object (putMember name value done), rest)
            | _ => none
        | _ => none
    | _ => none

end

/-- The document value a text is, when it is one. -/
def read? (text : String) : Option Json :=
  let characters := text.toList
  match readValue? (2 * characters.length + 2) 128 (skipBlank characters) with
  | some (value, rest) => if (skipBlank rest).isEmpty then some value else none
  | none => none

end StreamWatch.Json
