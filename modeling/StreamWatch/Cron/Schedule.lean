/-
**The schedule a cron expression stands for.**

A schedule is the set of values each of its seven fields admits, in ascending order. A point in time is on
the schedule when all seven fields admit it, the day of the month and the day of the week both.

* `Expression.schedule?`: the schedule of an expression all of whose values are in range.
-/

import StreamWatch.Cron.Expression
import StreamWatch.Time.Instant

namespace StreamWatch.Cron

/-- The values a field can have, and the names some of them have. -/
structure Range where
  low : Nat
  high : Nat
  names : List (String × Nat) := []

namespace Range

/-- Whether a value is in range. -/
def holds (r : Range) (n : Nat) : Bool := r.low ≤ n && n ≤ r.high

/-- Seconds of a minute, and minutes of an hour. -/
def sixty : Range := ⟨0, 59, []⟩

/-- Hours of a day. -/
def hours : Range := ⟨0, 23, []⟩

/-- Days of a month. -/
def days : Range := ⟨1, 31, []⟩

/-- Months of a year. -/
def months : Range :=
  ⟨1, 12, [("jan", 1), ("january", 1), ("feb", 2), ("february", 2), ("mar", 3), ("march", 3),
    ("apr", 4), ("april", 4), ("may", 5), ("jun", 6), ("june", 6), ("jul", 7), ("july", 7),
    ("aug", 8), ("august", 8), ("sep", 9), ("september", 9), ("oct", 10), ("october", 10),
    ("nov", 11), ("november", 11), ("dec", 12), ("december", 12)]⟩

/-- Days of a week, from Sunday. -/
def weekdays : Range :=
  ⟨1, 7, [("sun", 1), ("sunday", 1), ("mon", 2), ("monday", 2), ("tue", 3), ("tues", 3),
    ("tuesday", 3), ("wed", 4), ("wednesday", 4), ("thu", 5), ("thurs", 5), ("thursday", 5),
    ("fri", 6), ("friday", 6), ("sat", 7), ("saturday", 7)]⟩

/-- The years that are looked at. -/
def years : Range := ⟨1970, 2100, []⟩

/-- The value of a name in any case. -/
def named? (r : Range) (name : String) : Option Nat :=
  r.names.lookup (String.ofList (name.toList.map Char.toLower))

end Range

/-- The first and the last value of a span, when both are in range and in order. A single value to be
thinned out goes on to the end of the range. -/
def Span.bounds? (r : Range) (thinned : Bool) : Span → Option (Nat × Nat)
  | .all => some (r.low, r.high)
  | .single n => if r.holds n then some (n, if thinned then r.high else n) else none
  | .between low high => if r.holds low ∧ r.holds high ∧ low ≤ high then some (low, high) else none
  | .named first last => do
    let low ← r.named? first
    let high ← r.named? last
    if low ≤ high then some (low, high) else none

/-- The first and the last value of a root and the distance between its values. -/
def Root.steps? (r : Range) : Root → Option (Nat × Nat × Nat)
  | .every span step => do
    let (low, high) ← span.bounds? r true
    if 1 ≤ step ∧ step ≤ r.high then some (low, high, step) else none
  | .plain span => (span.bounds? r false).map fun (low, high) => (low, high, 1)
  | .named word => (r.named? word).map fun n => (n, n, 1)

/-- The values of a field in ascending order, when all of its roots are in range. -/
def Field.values? (r : Range) (field : Field) : Option (List Nat) :=
  (field.mapM (Root.steps? r)).map fun roots =>
    (List.range' r.low (r.high + 1 - r.low)).filter fun n =>
      roots.any fun (low, high, step) => low ≤ n && n ≤ high && (n - low) % step == 0

/-- The values each field admits, in ascending order. -/
structure Schedule where
  seconds : List Nat
  minutes : List Nat
  hours : List Nat
  days : List Nat
  months : List Nat
  weekdays : List Nat
  years : List Nat
deriving DecidableEq, Repr

/-- The schedule of an expression all of whose values are in range. -/
def Expression.schedule? (e : Expression) : Option Schedule := do
  pure ⟨← Field.values? .sixty e.second, ← Field.values? .sixty e.minute,
    ← Field.values? .hours e.hour, ← Field.values? .days e.day, ← Field.values? .months e.month,
    ← Field.values? .weekdays e.weekday, ← Field.values? .years (e.year.getD [.plain .all])⟩

namespace Schedule

/-- Whether a time of day is on the schedule. -/
def admitsTime (s : Schedule) (timeOfDay : Nat) : Bool :=
  s.hours.contains (timeOfDay / 3600) && s.minutes.contains (timeOfDay / 60 % 60) &&
    s.seconds.contains (timeOfDay % 60)

/-- Whether a numbered day is on the schedule. -/
def admitsDay (s : Schedule) (day : Int) : Bool :=
  let date := Date.ofDay day
  0 ≤ date.year && s.years.contains date.year.toNat && s.months.contains date.month &&
    s.days.contains date.day && s.weekdays.contains (weekday day + 1)

/-- Whether a point in time is on the schedule. -/
def admits (s : Schedule) (t : Instant) : Bool :=
  t.nanos.val == 0 && s.admitsDay t.day && s.admitsTime t.timeOfDay

/-- The times of day on the schedule, in ascending order. -/
def times (s : Schedule) : List Nat :=
  s.hours.flatMap fun hour => s.minutes.flatMap fun minute => s.seconds.map fun second =>
    hour * 3600 + minute * 60 + second

/-- The first day on the schedule among so many days from one on. -/
def firstDay? (s : Schedule) : (count : Nat) → (day : Int) → Option Int
  | 0, _ => none
  | count + 1, day => if s.admitsDay day then some day else firstDay? s count (day + 1)

/-- The last day that is looked at. -/
def lastDay : Int := Date.toDay ⟨2100, 12, 31⟩

/-- The first point on the schedule from a time of a day on. -/
def firstFrom? (s : Schedule) (day : Int) (timeOfDay : Nat) : Option Instant :=
  let onFirstDay :=
    if s.admitsDay day then s.times.find? (timeOfDay ≤ ·) else none
  match onFirstDay with
  | some time => some (Instant.ofDay day time)
  | none => do
    let time ← s.times.head?
    let later ← s.firstDay? (lastDay - day).toNat (day + 1)
    pure (Instant.ofDay later time)

/-- The first point on the schedule after a point in time, up to the end of the last year. -/
def next? (s : Schedule) (after : Instant) : Option Instant := do
  let start ← after.addSeconds? 1
  if start.seconds < 0 then s.firstFrom? 0 0
  else if lastDay < start.day then none
  else s.firstFrom? start.day start.timeOfDay

end Schedule
end StreamWatch.Cron
