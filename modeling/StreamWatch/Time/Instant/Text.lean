/-
**Points in time written with their date, time of day and offset.**

A point is written in universal time, such as `2025-06-01T03:00:00Z`, with three, six or nine digits of a
second's part when it has one. It is read with any offset, and blanks are let pass between most of its
parts.
-/

import StreamWatch.Time.Instant
import StreamWatch.Number.Decimal
import StreamWatch.Text.Blank

namespace StreamWatch

open StreamWatch.Number StreamWatch.Text

/-- Why a text is no time of day or no point in time. -/
inductive ClockFault where
  | tooShort
  | invalid
  | outOfRange
  | trailing
deriving DecidableEq, Repr

/-- What is wrong, in words. -/
def ClockFault.message : ClockFault → String
  | tooShort => "premature end of input"
  | invalid => "input contains invalid characters"
  | outOfRange => "input is out of range"
  | trailing => "trailing input"

namespace Clock

/-- A parser of part of a clock text. -/
abbrev Parser (α : Type) := List Char → Except ClockFault (α × List Char)

/-- One or more digits, at most `width` of them. -/
def digits (width : Nat) : Parser Nat
  | [] => .error .tooShort
  | text =>
    let taken := (text.take width).takeWhile isDigit
    match digitsValue? taken with
    | some n => .ok (n, text.drop taken.length)
    | none => .error .invalid

/-- A number of at most `width` digits within bounds, blanks before it let pass. -/
def field (width low high : Nat) : Parser Nat := fun text => do
  let (n, rest) ← digits width (trimStart text)
  if low ≤ n ∧ n ≤ high then pure (n, rest) else throw .outOfRange

/-- One given character. -/
def mark (c : Char) : Parser Unit
  | [] => .error .tooShort
  | d :: rest => if c = d then .ok (⟨⟩, rest) else .error .invalid

/-- A year: at most four digits, or a sign and any number of them. -/
def year : Parser Int := fun text =>
  match trimStart text with
  | '-' :: rest => do
    let (n, rest) ← digits rest.length rest
    pure (-(n : Int), rest)
  | '+' :: rest => do
    let (n, rest) ← digits rest.length rest
    pure ((n : Int), rest)
  | text => do
    let (n, rest) ← digits 4 text
    pure ((n : Int), rest)

/-- The part of a second after a point, in nanoseconds; digits after the ninth say nothing. -/
def fraction : Parser Nat
  | '.' :: rest =>
    match rest.takeWhile isDigit with
    | [] => .error (if rest.isEmpty then .tooShort else .invalid)
    | found =>
      let nine := found.take 9
      .ok ((digitsValue? nine).getD 0 * tenTo (9 - nine.length), rest.drop found.length)
  | text => .ok (0, text)

/-- The offset from universal time in seconds. -/
def offset : Parser Int := fun text =>
  match text with
  | 'Z' :: rest => .ok (0, rest)
  | 'z' :: rest => .ok (0, rest)
  | [] => .error .tooShort
  | sign :: rest =>
    if sign = '+' ∨ sign = '-' ∨ sign = '\u2212' then do
      let two (text : List Char) : Except ClockFault (Nat × List Char) :=
        match text with
        | a :: b :: rest =>
          match digitsValue? [a, b] with
          | some n => .ok (n, rest)
          | none => .error .invalid
        | _ => .error .tooShort
      let (hours, rest) ← two rest
      let (minutes, rest) ← two (rest.dropWhile fun c => c = ':' ∨ isBlank c)
      if 60 ≤ minutes then throw .outOfRange
      let seconds : Int := hours * 3600 + minutes * 60
      pure (if sign = '+' then seconds else -seconds, rest)
    else .error .invalid

end Clock

namespace TimeOfDay

open Clock

/-- The time of day of a text of an hour and a minute, in seconds. -/
def parse (text : String) : Except ClockFault Nat := do
  let (hour, rest) ← field 2 0 23 (trim text.toList)
  let (_, rest) ← mark ':' rest
  let (minute, rest) ← field 2 0 59 rest
  if rest.isEmpty then pure (hour * 3600 + minute * 60) else throw .trailing

/-- A time of day with its seconds. -/
def format (seconds : Nat) : String :=
  padded 2 (seconds / 3600) ++ ":" ++ padded 2 (seconds / 60 % 60) ++ ":" ++ padded 2 (seconds % 60)

end TimeOfDay

namespace Instant

open Clock

/-- The offset itself, or the letters that stand for none. -/
def zone : Parser Int := fun text =>
  match text with
  | a :: b :: c :: rest =>
    if [a.toUpper, b.toUpper, c.toUpper] = ['U', 'T', 'C'] then .ok (0, rest) else offset text
  | _ => offset text

/-- The point in time of a text. -/
def parse (text : String) : Except ClockFault Instant := do
  let (y, rest) ← year text.toList
  let (_, rest) ← mark '-' (trimStart rest)
  let (m, rest) ← field 2 1 12 (trimStart rest)
  let (_, rest) ← mark '-' (trimStart rest)
  let (d, rest) ← field 2 1 31 rest
  let rest ← match rest with
    | [] => throw .tooShort
    | c :: rest => if c = 'T' ∨ c = 't' ∨ c = ' ' then pure rest else throw .invalid
  let (hour, rest) ← field 2 0 23 rest
  let (_, rest) ← mark ':' (trimStart rest)
  let (minute, rest) ← field 2 0 59 rest
  let (_, rest) ← mark ':' (trimStart rest)
  let (second, rest) ← field 2 0 60 rest
  let (nanos, rest) ← fraction rest
  let (shift, rest) ← zone (trimStart rest)
  if !(trimStart rest).isEmpty then throw .trailing
  let date : Date := ⟨y, m, d⟩
  if !date.isValid || shift.natAbs ≥ 86400 then throw .outOfRange
  let leap : Bool := second == 60
  let clock := hour * 3600 + minute * 60 + (if leap then 59 else second)
  let whole := date.toDay * daySeconds + clock
  let point := ofParts (whole - shift) (if leap then nanos + nanosPerSecond else nanos)
  if (ofParts whole 0).inRange && point.inRange then pure point else throw .outOfRange

/-- A year: four digits, or a sign and at least four when it has more or is negative. -/
def yearText (y : Int) : String :=
  if 0 ≤ y ∧ y ≤ 9999 then padded 4 y.toNat
  else (if y < 0 then "-" else "+") ++ padded 4 y.natAbs

/-- The part of a second, in the fewest of three, six and nine digits that tell it. -/
def fractionText (nanos : Nat) : String :=
  if nanos = 0 then ""
  else if nanos % 1000000 = 0 then "." ++ padded 3 (nanos / 1000000)
  else if nanos % 1000 = 0 then "." ++ padded 6 (nanos / 1000)
  else "." ++ padded 9 nanos

/-- The point in universal time. -/
def format (t : Instant) : String :=
  let date := Date.ofDay t.day
  let leap := nanosPerSecond ≤ t.nanos
  let clock := t.timeOfDay
  let second := clock % 60 + (if leap then 1 else 0)
  let nanos : Nat := if leap then t.nanos - nanosPerSecond else t.nanos
  yearText date.year ++ "-" ++ padded 2 date.month ++ "-" ++ padded 2 date.day ++ "T" ++
    padded 2 (clock / 3600) ++ ":" ++ padded 2 (clock / 60 % 60) ++ ":" ++ padded 2 second ++
    fractionText nanos ++ "Z"

end Instant
end StreamWatch
