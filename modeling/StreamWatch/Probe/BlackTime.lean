/-
**How much of a sample is black.**

The black screen filter reports each black stretch on a line of its own as `black_duration:` and a number
of seconds. A sample is black when the stretches cover more than nine tenths of it.
-/

import StreamWatch.Number.Real
import StreamWatch.Text.Blank
import StreamWatch.Text.Digit

namespace StreamWatch.BlackTime

open Text Number

/-- What stands before a reading. -/
def label : List Char := "black_duration:".toList

/-- Whether a character can stand in a reading. -/
def isReading (c : Char) : Bool := c == '.' || isDecimalDigit c

/-- A reading at the start of a text, and the text after it. Blanks may follow the label. -/
def reading? (text : List Char) : Option (List Char × List Char) := do
  let rest := trimStart (← afterStart? label text)
  match rest.takeWhile isReading with
  | [] => none
  | digits => some (digits, rest.dropWhile isReading)

/-- The readings of a text, from left to right; none begins inside another. -/
def readingsWithin : (fuel : Nat) → List Char → List (List Char)
  | 0, _ => []
  | _, [] => []
  | fuel + 1, c :: rest =>
    match reading? (c :: rest) with
    | some (digits, after) => digits :: readingsWithin fuel after
    | none => readingsWithin fuel rest

/-- All readings of a text. -/
def readings (text : List Char) : List (List Char) := readingsWithin text.length text

/-- A reading in whole milliseconds; one that is no finite number is none at all. -/
def millis? (digits : List Char) : Option Nat := do
  let seconds ← real? digits
  if seconds.isFinite then some ((seconds.toFloat * 1000).round.toUInt64.toNat) else none

/-- The milliseconds of black that a text reports. The sum is taken in full; one of 64 bits is the same as long as it
stays below `Number.wordBound`. -/
def total (text : String) : Nat := ((readings text.toList).filterMap millis?).foldl Nat.add 0

/-- Whether so much black makes a sample black. -/
def isBlack (blackMillis sampleMillis : Nat) : Bool :=
  0 < sampleMillis && sampleMillis * 9 < blackMillis * 10

end StreamWatch.BlackTime
