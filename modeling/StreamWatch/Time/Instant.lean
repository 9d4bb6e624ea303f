/-
**Points in time.**

A point in time is a number of seconds since the start of 1970 in universal time and a part of a second.
The part may go beyond a second: then the point lies in the leap second that follows.

* `lt_iff`: points are ordered by their seconds and then by their parts of a second.
-/

import StreamWatch.Time.Calendar
import StreamWatch.Time.Duration

namespace StreamWatch

/-- The seconds of a day. -/
def daySeconds : Int := 86400

/-- A point in time. -/
structure Instant where
  seconds : Int
  nanos : Fin 2000000000
deriving DecidableEq, Repr

namespace Instant

/-- The start of 1970. -/
def epoch : Instant := ⟨0, 0⟩

instance : Inhabited Instant := ⟨epoch⟩

instance : LT Instant := ⟨fun a b => a.seconds < b.seconds ∨ (a.seconds = b.seconds ∧ a.nanos < b.nanos)⟩

instance : LE Instant := ⟨fun a b => a.seconds < b.seconds ∨ (a.seconds = b.seconds ∧ a.nanos ≤ b.nanos)⟩

instance (a b : Instant) : Decidable (a < b) :=
  inferInstanceAs (Decidable (a.seconds < b.seconds ∨ (a.seconds = b.seconds ∧ a.nanos < b.nanos)))

instance (a b : Instant) : Decidable (a ≤ b) :=
  inferInstanceAs (Decidable (a.seconds < b.seconds ∨ (a.seconds = b.seconds ∧ a.nanos ≤ b.nanos)))

/-- Points are ordered by their seconds and then by their parts of a second. -/
theorem lt_iff (a b : Instant) :
    a < b ↔ a.seconds < b.seconds ∨ (a.seconds = b.seconds ∧ a.nanos < b.nanos) := Iff.rfl

/-- A number of seconds after the start of 1970 and a number of nanoseconds below two thousand million. -/
def ofParts (seconds : Int) (nanos : Nat) : Instant := ⟨seconds, Fin.ofNat 2000000000 nanos⟩

/-- The number of the day the point lies in. -/
def day (t : Instant) : Int := t.seconds / daySeconds

/-- The seconds since the day began. -/
def timeOfDay (t : Instant) : Nat := (t.seconds % daySeconds).toNat

/-- The first second of a numbered day plus a number of seconds. -/
def ofDay (day : Int) (timeOfDay : Nat) : Instant := ⟨day * daySeconds + timeOfDay, 0⟩

/-- The point so many nanoseconds after the start of 1970. -/
def ofNanos (n : Int) : Instant :=
  ofParts (n / (nanosPerSecond : Int)) (n % (nanosPerSecond : Int)).toNat

/-- The first year that can be represented. -/
def firstYear : Int := -262143

/-- The last year that can be represented. -/
def lastYear : Int := 262142

/-- The last second that can be represented. -/
def lastSecond : Int := (Date.toDay ⟨lastYear, 12, 31⟩ + 1) * daySeconds - 1

/-- The first second that can be represented. -/
def firstSecond : Int := Date.toDay ⟨firstYear, 1, 1⟩ * daySeconds

/-- Whether the point can be represented. -/
def inRange (t : Instant) : Bool := firstSecond ≤ t.seconds && t.seconds ≤ lastSecond

/-- The point a whole number of seconds later, when it can be represented. A point in a leap second
first steps back to the second before. -/
def addSeconds? (t : Instant) (seconds : Nat) : Option Instant :=
  let nanos : Nat := if seconds ≠ 0 ∧ nanosPerSecond ≤ t.nanos then t.nanos - nanosPerSecond else t.nanos
  let later := ofParts (t.seconds + seconds) nanos
  if later.inRange then some later else none

/-- The seconds from one point to another, parts of a second left out. -/
def secondsSince (t earlier : Instant) : Int :=
  let nanos := (t.seconds - earlier.seconds) * nanosPerSecond + ((t.nanos : Nat) - (earlier.nanos : Nat) : Int)
  Int.tdiv nanos nanosPerSecond

end Instant
end StreamWatch
