/-
**The next start, counted from any point in time.**

The next start comes after the point from which it is counted. Intervals are counted exactly. A time of day and a
cron expression name points on the clock, whatever point they are counted from; so the next start stays the same
until it is there, and it never moves back when it is counted from a later point.

* `ShowsTime`, `showsTime_of_parse`: what the text of a time of day shows;
* `Fires.rebase`: what a clock names it names from any earlier point;
* `next?_of_between`, `next?_mono`: the next start of a timing that goes by the clock;
* `next?_interval_eq_some_iff`: that of intervals;
* `nextDaily?_within`, `lt_of_nextDaily?_eq_none`: that of a time of day;
* `next?_timely`: all of it together.
-/

import StreamWatch.Proofs.Task.Timing

namespace StreamWatch

open Instant Number Text

/-! ### The text of a time of day -/

/-- A text shows an hour and a minute: digits with a colon between them, blanks let pass before both. -/
structure ShowsTime (text : String) (hour minute : Nat) : Prop where
  hour_lt : hour < 24
  minute_lt : minute < 60
  written : ∃ first second, trimStart (trim text.toList) = first ++ ':' :: second ∧
    digitsValue? first = some hour ∧ digitsValue? (trimStart second) = some minute

/-- What is read as a number are the digits in front. -/
theorem Clock.of_digits_eq_ok {width n : Nat} {text rest : List Char}
    (found : Clock.digits width text = .ok (n, rest)) :
    ∃ taken, text = taken ++ rest ∧ digitsValue? taken = some n := by
  cases text with
  | nil => exact nomatch found
  | cons c more =>
    unfold Clock.digits at found
    simp only at found
    generalize takenIs : ((c :: more).take width).takeWhile isDigit = taken at found
    have front : taken <+: c :: more :=
      takenIs ▸ (List.takeWhile_prefix isDigit).trans (List.take_prefix width (c :: more))
    split at found
    · next value read =>
      cases found
      exact ⟨taken, (List.prefix_iff_eq_append.mp front).symm, read⟩
    · exact nomatch found

theorem Clock.of_field_eq_ok {width low high n : Nat} {text rest : List Char}
    (found : Clock.field width low high text = .ok (n, rest)) :
    ∃ taken, trimStart text = taken ++ rest ∧ digitsValue? taken = some n := by
  obtain ⟨⟨value, after⟩, read, found⟩ := steps_of_bind_eq_ok found
  simp only at found
  split at found
  · cases found
    exact Clock.of_digits_eq_ok read
  · exact nomatch found

theorem Clock.of_mark_eq_ok {c : Char} {text rest : List Char} {found : Unit}
    (marked : Clock.mark c text = .ok (found, rest)) : text = c :: rest := by
  cases text with
  | nil => exact nomatch marked
  | cons d more =>
    rw [Clock.mark] at marked
    by_cases same : c = d
    · rw [if_pos same] at marked
      cases marked
      rw [same]
    · rw [if_neg same] at marked
      exact nomatch marked

/-- **A time of day is what its text shows**, in seconds. -/
theorem showsTime_of_parse {text : String} {clock : Nat} (read : TimeOfDay.parse text = .ok clock) :
    ∃ hour minute, ShowsTime text hour minute ∧ clock = hour * 3600 + minute * 60 := by
  obtain ⟨⟨hour, afterHour⟩, hourRead, read⟩ := steps_of_bind_eq_ok read
  obtain ⟨⟨_, afterMark⟩, marked, read⟩ := steps_of_bind_eq_ok read
  obtain ⟨⟨minute, rest⟩, minuteRead, read⟩ := steps_of_bind_eq_ok read
  simp only at read marked minuteRead
  have hourBound := Clock.le_of_field_eq_ok hourRead
  have minuteBound := Clock.le_of_field_eq_ok minuteRead
  obtain ⟨first, front, firstIs⟩ := Clock.of_field_eq_ok hourRead
  obtain ⟨second, back, secondIs⟩ := Clock.of_field_eq_ok minuteRead
  split at read
  · next ended =>
    cases read
    rw [List.isEmpty_iff.mp ended, List.append_nil] at back
    rw [Clock.of_mark_eq_ok marked] at front
    exact ⟨hour, minute, ⟨Nat.lt_succ_of_le hourBound, Nat.lt_succ_of_le minuteBound, first, afterMark, front,
      firstIs, back ▸ secondIs⟩, rfl⟩
  · exact nomatch read

namespace Timing

variable {timing : Timing} {base later t : Instant}

/-! ### Timings that go by the clock -/

/-- Whether a timing names points on the clock, and does not only count from another point. -/
def GoesByClock : Timing → Prop
  | daily _ | cron _ => True
  | manual | interval _ => False

/-- **What a clock names it names from any earlier point.** -/
theorem Fires.rebase (clock : timing.GoesByClock) (fires : timing.Fires base t) {other : Instant}
    (early : other < t) : timing.Fires other t := by
  cases timing with
  | manual | interval => exact clock.elim
  | daily time =>
    obtain ⟨shown, read, shows, whole, ranged, -⟩ := fires
    exact ⟨shown, read, shows, whole, ranged, early⟩
  | cron expression =>
    obtain ⟨schedule, read, on, -⟩ := fires
    exact ⟨schedule, read, on, early⟩

/-- What a timing names can be represented. -/
theorem Fires.ranged (fires : timing.Fires base t) : t.inRange = true := by
  cases timing with
  | manual => exact fires.elim
  | interval seconds =>
    obtain ⟨count, -, found⟩ := fires
    exact (addSeconds?_eq_some found).2
  | daily time =>
    obtain ⟨clock, -, -, -, ranged, -⟩ := fires
    exact ranged
  | cron expression =>
    obtain ⟨schedule, read, on, -⟩ := fires
    exact Cron.Schedule.inRange_of_admits (Cron.inOrder_parse read) on

/-- The next start is there, and no point before it at which the timing fires. -/
theorem first_of_next? (ranged : base.inRange = true) (next : timing.next? base = some t) :
    timing.Fires base t ∧ ∀ u, timing.Fires base u → t ≤ u := by
  have first := timing.isFirst_next? ranged
  rw [next] at first
  exact first

theorem inRange_of_between {first last : Instant} (firstRanged : first.inRange = true)
    (lastRanged : last.inRange = true) (after : first ≤ t) (before : t < last) : t.inRange = true := by
  rw [inRange_iff] at *
  rw [le_iff_val] at after
  rw [lt_iff_val] at before
  omega

/-- **The next start of a clock stays the same until it is there.** -/
theorem next?_of_between (clock : timing.GoesByClock) (ranged : base.inRange = true)
    (next : timing.next? base = some t) {between : Instant} (after : base ≤ between) (before : between < t) :
    timing.next? between = some t := by
  obtain ⟨fires, least⟩ := first_of_next? ranged next
  have first := timing.isFirst_next? (inRange_of_between ranged fires.ranged after before)
  cases found : timing.next? between with
  | none =>
    rw [found] at first
    exact absurd (fires.rebase clock before) (first t)
  | some u =>
    rw [found] at first
    have sooner : u ≤ t := first.2 t (fires.rebase clock before)
    have noSooner : t ≤ u := least u (first.1.rebase clock (Instant.lt_of_le_of_lt after first.1.after))
    exact congrArg some (Instant.le_antisymm sooner noSooner)

/-- **The next start of a clock never moves back**: counted from a later point it is no earlier, and where there is
none any more there is none later. -/
theorem next?_mono (clock : timing.GoesByClock) (ranged : base.inRange = true) (laterRanged : later.inRange = true)
    (after : base ≤ later) (next : timing.next? later = some t) : ∃ u, timing.next? base = some u ∧ u ≤ t := by
  obtain ⟨fires, -⟩ := first_of_next? laterRanged next
  have fires := fires.rebase clock (Instant.lt_of_le_of_lt after fires.after)
  have first := timing.isFirst_next? ranged
  cases found : timing.next? base with
  | none =>
    rw [found] at first
    exact absurd fires (first t)
  | some u =>
    rw [found] at first
    exact ⟨u, rfl, first.2 t fires⟩

/-! ### Intervals -/

/-- **The next start after an interval** is exactly that many seconds later with the same part of a second, and there
is none only when that cannot be represented. -/
theorem next?_interval_eq_some_iff {seconds : UInt64} (positive : seconds ≠ 0) :
    (interval seconds).next? base = some t ↔
      t.seconds = base.seconds + seconds.toNat ∧ t.nanos.val = base.nanos.val % nanosPerSecond ∧
        t.inRange = true := by
  have some : seconds.toNat ≠ 0 := fun zero => positive (UInt64.toNat_inj.mp zero)
  have part : (if seconds.toNat ≠ 0 ∧ nanosPerSecond ≤ base.nanos then base.nanos - nanosPerSecond else base.nanos) =
      base.nanos.val % nanosPerSecond := by
    have bound := base.nanos.isLt
    simp only [some, ne_eq, not_false_eq_true, true_and, nanosPerSecond] at *
    split <;> omega
  have small : base.nanos.val % nanosPerSecond < 2000000000 := by
    simp only [nanosPerSecond]
    omega
  unfold next?
  simp only [if_neg positive, addSeconds?]
  rw [part, Option.ite_none_right_eq_some]
  constructor
  · rintro ⟨ranged, same⟩
    obtain rfl := Option.some.inj same
    exact ⟨rfl, Nat.mod_eq_of_lt small, ranged⟩
  · rintro ⟨sameSeconds, sameNanos, ranged⟩
    have same : ofParts (base.seconds + seconds.toNat) (base.nanos.val % nanosPerSecond) = t := by
      obtain ⟨whole, nanos⟩ := t
      obtain rfl := sameSeconds
      have equal : Fin.ofNat 2000000000 (base.nanos.val % nanosPerSecond) = nanos :=
        Fin.ext ((Nat.mod_eq_of_lt small).trans sameNanos.symm)
      rw [ofParts, equal]
    rw [same]
    exact ⟨ranged, rfl⟩

/-! ### Times of day -/

/-- The next time of day comes within a day. -/
theorem nextDaily?_within {clock : Nat} (bound : clock < 86400) (next : nextDaily? clock base = some t) :
    t.seconds ≤ base.seconds + daySeconds := by
  have whole := seconds_eq base
  unfold nextDaily? at next
  simp only at next
  by_cases yetToCome : base < ofDay base.day clock
  · rw [if_pos yetToCome] at next
    cases next
    simp only [ofDay, daySeconds]
    omega
  · rw [if_neg yetToCome] at next
    have elapsed := (addSeconds?_eq_some next).1
    have passed := Instant.not_lt.mp yetToCome
    rw [le_iff_val] at passed
    simp only [ofDay, daySeconds] at *
    omega

/-- There is no next time of day only when the next day cannot be represented. -/
theorem lt_of_nextDaily?_eq_none {clock : Nat} (ranged : base.inRange = true) (bound : clock < 86400)
    (none : nextDaily? clock base = none) : lastSecond < (base.day + 1) * daySeconds := by
  unfold nextDaily? at none
  simp only at none
  by_cases yetToCome : base < ofDay base.day clock
  · rw [if_pos yetToCome] at none
    exact nomatch none
  · rw [if_neg yetToCome] at none
    have beyond := addSeconds?_eq_none (inRange_ofDay ranged bound) none
    simp only [ofDay, lastSecond, daySeconds] at *
    omega

/-! ### All timings -/

/-- **What the next start is**, counted from a point in time. -/
structure Timely (timing : Timing) (base : Instant) : Prop where
  /-- it comes later -/
  after : ∀ t, timing.next? base = some t → base < t
  /-- an interval is over exactly so many seconds later, unless that cannot be represented -/
  interval : ∀ seconds, timing = .interval seconds → ∀ t, timing.next? base = some t ↔
    t.seconds = base.seconds + seconds.toNat ∧ t.nanos.val = base.nanos.val % nanosPerSecond ∧ t.inRange = true
  /-- a time of day comes when a clock shows it, a day later at most, unless there is no next day -/
  daily : ∀ time, timing = .daily time → ∃ hour minute, ShowsTime time hour minute ∧
    (∀ t, timing.next? base = some t →
      t.timeOfDay = hour * 3600 + minute * 60 ∧ t.nanos.val = 0 ∧ t.seconds ≤ base.seconds + daySeconds) ∧
    (timing.next? base = none → lastSecond < (base.day + 1) * daySeconds)
  /-- a cron expression starts a task at the first point on its schedule -/
  cron : ∀ expression, timing = .cron expression → ∃ schedule, Cron.parse expression = .ok schedule ∧
    IsFirst (timing.next? base) fun t => schedule.admits t = true ∧ base < t
  /-- what a clock names stays the next start until it is there -/
  stays : timing.GoesByClock → ∀ t, timing.next? base = some t →
    ∀ between, base ≤ between → between < t → timing.next? between = some t
  /-- and it does not move back when it is counted from a later point -/
  mono : timing.GoesByClock → ∀ later, later.inRange = true → base ≤ later →
    ∀ t, timing.next? later = some t → ∃ u, timing.next? base = some u ∧ u ≤ t

theorem parse_of_check_daily {time : String} (usable : (daily time).check = .ok ⟨⟩) :
    ∃ clock, TimeOfDay.parse time = .ok clock := by
  cases read : TimeOfDay.parse time with
  | ok clock => exact ⟨clock, rfl⟩
  | error fault =>
    rw [check, read] at usable
    exact nomatch usable

theorem parse_of_check_cron {expression : String} (usable : (cron expression).check = .ok ⟨⟩) :
    ∃ schedule, Cron.parse expression = .ok schedule := by
  cases read : Cron.parse expression with
  | ok schedule => exact ⟨schedule, rfl⟩
  | error error =>
    rw [check, read] at usable
    exact nomatch usable

/-- **The next start of a timing that can be used** comes later, and as soon as it should, counted from any point
in time. -/
theorem next?_timely (timing : Timing) (base : Instant) (usable : timing.check = .ok ⟨⟩)
    (ranged : base.inRange = true) : Timely timing base where
  after t next := (first_of_next? ranged next).1.after
  interval seconds same t := by
    subst same
    refine next?_interval_eq_some_iff fun zero => ?_
    rw [check, if_pos zero] at usable
    exact nomatch usable
  daily time same := by
    subst same
    obtain ⟨clock, read⟩ := parse_of_check_daily usable
    obtain ⟨hour, minute, shows, clockIs⟩ := showsTime_of_parse read
    have bound := TimeOfDay.parse_lt read
    have nextIs : (daily time).next? base = nextDaily? clock base := by
      rw [next?, read]
      rfl
    refine ⟨hour, minute, shows, fun t next => ?_, fun none => ?_⟩
    · obtain ⟨⟨shown, same, time, whole, -, -⟩, -⟩ := first_of_next? ranged next
      cases read.symm.trans same
      exact ⟨time.trans clockIs, whole, nextDaily?_within bound (nextIs.symm.trans next)⟩
    · exact lt_of_nextDaily?_eq_none ranged bound (nextIs.symm.trans none)
  cron expression same := by
    obtain ⟨schedule, read⟩ := parse_of_check_cron (same ▸ usable)
    have named (t : Instant) : timing.Fires base t ↔ schedule.admits t = true ∧ base < t := by
      subst same
      constructor
      · rintro ⟨other, same, on⟩
        cases read.symm.trans same
        exact on
      · exact fun on => ⟨schedule, read, on⟩
    exact ⟨schedule, read, (timing.isFirst_next? ranged).congr named⟩
  stays clock t next between after before := next?_of_between clock ranged next after before
  mono clock later laterRanged after t next := next?_mono clock ranged laterRanged after next

/-- A day on which a clock shows three. -/
def threeOClock : Instant := ofDay 20000 10800

/-- Counted from three o'clock itself, the next start at three is that of the next day. -/
theorem next?_timely_threeOClock :
    (daily "03:00").check = .ok ⟨⟩ ∧ threeOClock.inRange = true ∧
      (daily "03:00").next? threeOClock = some (ofDay 20001 10800) ∧ Timely (daily "03:00") threeOClock :=
  ⟨rfl, by decide, rfl, next?_timely (daily "03:00") threeOClock rfl (by decide)⟩

end Timing
end StreamWatch
