/-
**Lengths of time written for people, such as `1h 30m`.**

A length is written as its parts from years down to nanoseconds, parts that are zero left out. A written
length is a series of numbers with a unit each, added up; a number may have a fraction as long as the
part it stands for is a whole number of the unit's counting steps.

Unlike the calendar's, a year here is 365.25 days and a month 30.44 days.
-/

import StreamWatch.Time.Duration
import StreamWatch.Number.Decimal
import StreamWatch.Text.Blank

namespace StreamWatch.Duration

open StreamWatch.Number StreamWatch.Text

/-- The seconds of a year of 365.25 days. -/
def secondsPerYear : Nat := 31557600

/-- The seconds of a month of 30.44 days. -/
def secondsPerMonth : Nat := 2630016

/-- The seconds of a day. -/
def secondsPerDay : Nat := 86400

/-! ### Writing -/

/-- The parts a length is written in, largest first, with their singular and plural unit. -/
def parts (d : Duration) : List (Nat × String × String) :=
  let seconds := d.seconds.toNat
  let afterYears := seconds % secondsPerYear
  let afterMonths := afterYears % secondsPerMonth
  let inDay := afterMonths % secondsPerDay
  let nanos : Nat := d.nanos
  [(seconds / secondsPerYear, "year", "years"),
   (afterYears / secondsPerMonth, "month", "months"),
   (afterMonths / secondsPerDay, "day", "days"),
   (inDay / 3600, "h", "h"),
   (inDay % 3600 / 60, "m", "m"),
   (inDay % 60, "s", "s"),
   (nanos / 1000000, "ms", "ms"),
   (nanos / 1000 % 1000, "us", "us"),
   (nanos % 1000, "ns", "ns")]

/-- A part as it is written. -/
def partText : Nat × String × String → String
  | (count, one, many) => toString count ++ (if count = 1 then one else many)

/-- The written form of a length. -/
def format (d : Duration) : String :=
  match d.parts.filter fun part => part.1 != 0 with
  | [] => "0s"
  | written => " ".intercalate (written.map partText)

/-! ### Reading -/

/-- Why a text is no length of time. Places are counted in bytes. -/
inductive Fault where
  | empty
  | numberExpected (place : Nat)
  | invalidCharacter (place : Nat)
  | unitNeeded (value : Nat)
  | unknownUnit (unit : String)
  | tooLarge
deriving DecidableEq, Repr

/-- What is wrong, in words. -/
def Fault.message : Fault → String
  | empty => "value was empty"
  | numberExpected place => s!"expected number at {place}"
  | invalidCharacter place => s!"invalid character at {place}"
  | unitNeeded value => s!"time unit needed, for example {value}sec or {value}ms"
  | unknownUnit unit => s!"unknown time unit \"{unit}\", supported units: ns, us/µs, ms, sec, min, " ++
      "hours, days, weeks, months, years (and few variations)"
  | tooLarge => "number is too large or cannot be represented without a lack of precision " ++
      "(values below 1ns are not supported)"

/-- Units of time. -/
inductive Unit where
  | nanosecond | microsecond | millisecond | second | minute | hour | day | week | month | year
deriving DecidableEq, Repr

/-- The unit of a name, the case of its letters mattering. -/
def Unit.ofName? (name : String) : Option Unit :=
  if name ∈ ["nanos", "nsec", "ns"] then some .nanosecond
  else if name ∈ ["usec", "us", "µs"] then some .microsecond
  else if name ∈ ["millis", "msec", "ms"] then some .millisecond
  else if name ∈ ["seconds", "second", "secs", "sec", "s"] then some .second
  else if name ∈ ["minutes", "minute", "min", "mins", "m"] then some .minute
  else if name ∈ ["hours", "hour", "hr", "hrs", "h"] then some .hour
  else if name ∈ ["days", "day", "d"] then some .day
  else if name ∈ ["weeks", "week", "wk", "wks", "w"] then some .week
  else if name ∈ ["months", "month", "M"] then some .month
  else if name ∈ ["years", "year", "yr", "yrs", "y"] then some .year
  else none

/-- One unit in nanoseconds, for units below a second. -/
def Unit.nanos? : Unit → Option Nat
  | nanosecond => some 1
  | microsecond => some 1000
  | millisecond => some 1000000
  | _ => none

/-- One unit in seconds, for units from a second on. -/
def Unit.seconds : Unit → Nat
  | minute => 60
  | hour => 3600
  | day => secondsPerDay
  | week => 7 * secondsPerDay
  | month => secondsPerMonth
  | year => secondsPerYear
  | _ => 1

/-- What a whole number of units adds, in seconds and nanoseconds. -/
def Unit.whole (unit : Unit) (n : Nat) : Nat × Nat :=
  match unit.nanos? with
  | some nanos => (0, n * nanos)
  | none => (n * unit.seconds, 0)

/-- The steps in which a fraction of a unit is counted: nanoseconds up to the minute, seconds above;
a fraction of a nanosecond counts for nothing and is refused. -/
def Unit.steps (unit : Unit) : Option (Nat × Bool) :=
  match unit with
  | nanosecond => none
  | microsecond => some (1000, true)
  | millisecond => some (1000000, true)
  | second => some (nanosPerSecond, true)
  | minute => some (60 * nanosPerSecond, true)
  | _ => some (unit.seconds, false)

/-- A fraction as its digits after the point and the power of ten below them. -/
structure Fraction where
  numerator : Nat
  denominator : Nat

/-- What a fraction of a unit adds, in seconds and nanoseconds. -/
def Unit.fraction (unit : Unit) (f : Fraction) : Except Fault (Nat × Nat) :=
  match unit.steps with
  | none => .error .tooLarge
  | some (size, inNanos) =>
    let scaled := f.numerator * size
    if scaled < wordBound ∧ scaled % f.denominator = 0 then
      .ok (if inNanos then (0, scaled / f.denominator) else (scaled / f.denominator, 0))
    else .error .tooLarge

/-- A length with seconds and nanoseconds added, each of which has to fit 64 bits. -/
def plus (d : Duration) : Nat × Nat → Except Fault Duration
  | (seconds, nanos) =>
    let total := d.nanos + nanos
    if seconds < wordBound ∧ total < wordBound then
      match ofNanos? ((d.seconds.toNat + seconds) * nanosPerSecond + total) with
      | some sum => .ok sum
      | none => .error .tooLarge
    else .error .tooLarge

/-- A length with a number of units added, and a fraction of one. -/
def plusUnits (d : Duration) (n : Nat) (f : Option Fraction) (name : String) :
    Except Fault Duration :=
  if name.isEmpty then .error (.unitNeeded n)
  else
    match Unit.ofName? name with
    | none => .error (.unknownUnit name)
    | some unit => do
      let sum ← d.plus (unit.whole n)
      match f with
      | none => pure sum
      | some f => sum.plus (← unit.fraction f)

/-- Whether a character can stand in the name of a unit. -/
def isUnitLetter (c : Char) : Bool :=
  ('a' ≤ c && c ≤ 'z') || ('A' ≤ c && c ≤ 'Z') || c == 'µ'

/-- Where the reader of a written length stands. -/
inductive Reading where
  /-- before a number; whether one was read before, and where the search for it began -/
  | start (first : Bool) (since : Nat)
  /-- in a number -/
  | number (n : Nat)
  /-- in the fraction of a number; the place after the last character that counted -/
  | fraction (n : Nat) (f : Fraction) (place : Nat)
  /-- in the name of a unit, read so far in reverse -/
  | unit (n : Nat) (f : Option Fraction) (name : List Char)

/-- A number with one more digit, as long as it fits 64 bits. -/
def pushDigit (n d : Nat) : Except Fault Nat :=
  if n * 10 + d < wordBound then .ok (n * 10 + d) else .error .tooLarge

/-- Takes one character at a place into account. -/
def Reading.step (sum : Duration) (place : Nat) (c : Char) :
    Reading → Except Fault (Duration × Reading)
  | .start first since =>
    match digitValue? c with
    | some d => .ok (sum, .number d)
    | none => if isBlank c then .ok (sum, .start first since) else .error (.numberExpected since)
  | .number n =>
    match digitValue? c with
    | some d => do pure (sum, .number (← pushDigit n d))
    | none =>
      if isBlank c then .ok (sum, .number n)
      else if isUnitLetter c then .ok (sum, .unit n none [c])
      else if c = '.' then .ok (sum, .fraction n ⟨0, 1⟩ place)
      else .error (.invalidCharacter place)
  | .fraction n f since =>
    match digitValue? c with
    | some d =>
      if f.denominator * 10 < wordBound then do
        pure (sum, .fraction n ⟨← pushDigit f.numerator d, f.denominator * 10⟩ (place + c.utf8Size))
      else .error .tooLarge
    | none =>
      if isBlank c then .ok (sum, .fraction n f (place + c.utf8Size))
      else if isUnitLetter c then
        if f.denominator = 1 then .error (.invalidCharacter since)
        else .ok (sum, .unit n (some f) [c])
      else .error (.invalidCharacter since)
  | .unit n f name =>
    match digitValue? c with
    | some d => do
      pure (← sum.plusUnits n f (String.ofList name.reverse), .number d)
    | none =>
      if isBlank c then do
        pure (← sum.plusUnits n f (String.ofList name.reverse), .start false (place + c.utf8Size))
      else if isUnitLetter c then .ok (sum, .unit n f (c :: name))
      else .error (.invalidCharacter place)

/-- What the end of the text means where the reader stands. -/
def Reading.finish (sum : Duration) : Reading → Except Fault Duration
  | .start true _ => .error .empty
  | .start false _ => .ok sum
  | .number n => sum.plusUnits n none ""
  | .fraction n f since =>
    if f.denominator = 1 then .error (.invalidCharacter since) else sum.plusUnits n (some f) ""
  | .unit n f name => sum.plusUnits n f (String.ofList name.reverse)

/-- Reads the rest of a written length. -/
def readFrom (sum : Duration) (place : Nat) (reading : Reading) :
    List Char → Except Fault Duration
  | [] => reading.finish sum
  | c :: rest =>
    match reading.step sum place c with
    | .error fault => .error fault
    | .ok (sum, reading) => readFrom sum (place + c.utf8Size) reading rest

/-- The length a text is written for; a lone zero needs no unit. -/
def parse (text : String) : Except Fault Duration :=
  if text = "0" then .ok zero else readFrom zero 0 (.start true 0) text.toList

end StreamWatch.Duration
