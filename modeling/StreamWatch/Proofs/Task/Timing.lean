/-
**When a timing fires.**

A timing fires at points that are counted from another point: whole numbers of intervals after it, a
time of day on it or on any later day, or whatever later points a cron expression schedules.

* `Timing.Fires`, `fires_daily_iff`: the points at which a timing fires;
* `isFirst_next?`: the next start of a task is the first of them;
* `Fires.after`, `FiresBy.earlier`: they come after the point they are counted from, and when one comes
  up to some time, one does also when counting began earlier;
* `FiresBy.interval_elapsed`: intervals elapse as a whole.
-/

import StreamWatch.Proofs.Cron.Schedule
import StreamWatch.Proofs.Steps
import StreamWatch.Task.Timing

namespace StreamWatch

open Instant

/-! ### Reading a time of day -/

theorem Clock.le_of_field_eq_ok {width low high : Nat} {text : List Char} {read : Nat × List Char}
    (found : Clock.field width low high text = .ok read) : read.1 ≤ high := by
  obtain ⟨⟨n, rest⟩, -, found⟩ := steps_of_bind_eq_ok found
  simp only at found
  by_cases within : low ≤ n ∧ n ≤ high
  · rw [if_pos within] at found
    cases found
    exact within.2
  · rw [if_neg within] at found
    exact nomatch found

/-- A time of day is one. -/
theorem TimeOfDay.parse_lt {text : String} {clock : Nat} (read : TimeOfDay.parse text = .ok clock) :
    clock < 86400 := by
  obtain ⟨⟨hour, _⟩, hourRead, read⟩ := steps_of_bind_eq_ok read
  obtain ⟨⟨_, _⟩, -, read⟩ := steps_of_bind_eq_ok read
  obtain ⟨⟨minute, rest⟩, minuteRead, read⟩ := steps_of_bind_eq_ok read
  simp only at read
  have hourBound := Clock.le_of_field_eq_ok hourRead
  have minuteBound := Clock.le_of_field_eq_ok minuteRead
  by_cases ended : rest.isEmpty = true
  · rw [if_pos ended] at read
    cases read
    omega
  · rw [if_neg ended] at read
    exact nomatch read

namespace Timing

/-! ### The points at which a timing fires -/

/-- **A timing fires at a point** when it counts from another point: some whole number of intervals
later, at its time of day, or when its expression says, but always later. -/
def Fires (timing : Timing) (base t : Instant) : Prop :=
  match timing with
  | manual => False
  | interval seconds =>
    ∃ count, 0 < count * seconds.toNat ∧ base.addSeconds? (count * seconds.toNat) = some t
  | daily time =>
    ∃ clock, TimeOfDay.parse time = .ok clock ∧ t.timeOfDay = clock ∧ t.nanos.val = 0 ∧
      t.inRange = true ∧ base < t
  | cron expression =>
    ∃ schedule, Cron.parse expression = .ok schedule ∧ schedule.admits t = true ∧ base < t

/-- A timing fires at some point after another up to some time. -/
def FiresBy (timing : Timing) (base now : Instant) : Prop := ∃ t, timing.Fires base t ∧ t ≤ now

variable {base : Instant}

/-- The first whole number of intervals is one. -/
theorem isFirst_interval (ranged : base.inRange = true) {seconds : UInt64} (positive : seconds ≠ 0) :
    IsFirst (base.addSeconds? seconds.toNat) ((interval seconds).Fires base) := by
  have positive : 0 < seconds.toNat := by
    refine Nat.pos_of_ne_zero fun zero => positive ?_
    exact UInt64.toNat_inj.mp zero
  have multiple {count : Nat} (elapses : 0 < count * seconds.toNat) :
      count = 1 ∨ seconds.toNat < count * seconds.toNat := by
    rcases Nat.lt_or_ge 1 count with more | less
    · exact .inr ((Nat.lt_mul_iff_one_lt_left positive).mpr more)
    · have counted : 0 < count := Nat.pos_of_mul_pos_right elapses
      exact .inl (by omega)
  cases found : base.addSeconds? seconds.toNat with
  | some first =>
    refine ⟨⟨1, by omega, by rw [Nat.one_mul]; exact found⟩, fun t ⟨count, elapses, later⟩ => ?_⟩
    rcases multiple elapses with rfl | more
    · rw [Nat.one_mul, found] at later
      cases later
      exact Instant.le_refl first
    · have early := (addSeconds?_eq_some found).1
      have late := (addSeconds?_eq_some later).1
      rw [le_iff_val]
      omega
  | none =>
    intro t ⟨count, elapses, later⟩
    have beyond := addSeconds?_eq_none ranged found
    obtain ⟨late, within⟩ := addSeconds?_eq_some later
    have within := (inRange_iff.mp within).2
    rcases multiple elapses with rfl | more <;> omega

/-- A time of day is shown on the day of the point from which it counts, or on a later one. -/
theorem fires_daily_iff {time : String} {clock : Nat} (read : TimeOfDay.parse time = .ok clock) {t : Instant} :
    (daily time).Fires base t ↔ ∃ day, t = ofDay day clock ∧ t.inRange = true ∧ base < t := by
  constructor
  · rintro ⟨other, same, shows, whole, ranged, after⟩
    cases read.symm.trans same
    refine ⟨t.day, ?_, ranged, after⟩
    rw [← shows]
    exact (ofDay_day_timeOfDay whole).symm
  · rintro ⟨day, rfl, ranged, after⟩
    exact ⟨clock, read, timeOfDay_ofDay day (TimeOfDay.parse_lt read), rfl, ranged, after⟩

/-- The next time a clock shows a time of day is today's, unless that is over. -/
theorem isFirst_nextDaily? (ranged : base.inRange = true) {time : String} {clock : Nat}
    (read : TimeOfDay.parse time = .ok clock) :
    IsFirst (nextDaily? clock base) ((daily time).Fires base) := by
  have bound := TimeOfDay.parse_lt read
  have today := inRange_ofDay ranged bound
  refine IsFirst.congr ?_ fun t => (fires_daily_iff read).symm
  unfold nextDaily?
  simp only
  by_cases yetToCome : base < ofDay base.day clock
  · rw [if_pos yetToCome]
    refine ⟨⟨base.day, rfl, today, yetToCome⟩, ?_⟩
    rintro t ⟨day, rfl, -, after⟩
    exact ofDay_le_ofDay (day_le_of_lt_ofDay bound after) clock
  · rw [if_neg yetToCome]
    have tomorrow {day : Int} (after : base < ofDay day clock) : base.day + 1 ≤ day := by
      rcases Int.lt_or_eq_of_le (day_le_of_lt_ofDay bound after) with later | rfl
      · exact later
      · exact absurd after yetToCome
    cases found : (ofDay base.day clock).addSeconds? 86400 with
    | some first =>
      have within := (addSeconds?_eq_some found).2
      obtain rfl := eq_ofDay_of_addSeconds? found
      refine ⟨⟨base.day + 1, rfl, within, lt_ofDay_succ base clock⟩, ?_⟩
      rintro t ⟨day, rfl, -, after⟩
      exact ofDay_le_ofDay (tomorrow after) clock
    | none =>
      rintro t ⟨day, rfl, within, after⟩
      have beyond := addSeconds?_eq_none today found
      have reached := tomorrow after
      have within := (inRange_iff.mp within).2
      simp only [ofDay, daySeconds] at beyond within
      omega

/-- **The next start is the first point at which the timing fires**, and where there is no next start
it does not fire any more. -/
theorem isFirst_next? (timing : Timing) (ranged : base.inRange = true) :
    IsFirst (timing.next? base) (timing.Fires base) := by
  cases timing with
  | manual => exact fun t fires => fires
  | interval seconds =>
    unfold next?
    simp only
    by_cases zero : seconds = 0
    · rw [if_pos zero]
      rintro t ⟨count, positive, -⟩
      rw [zero] at positive
      exact absurd positive (Nat.lt_irrefl 0)
    · rw [if_neg zero]
      exact isFirst_interval ranged zero
  | daily time =>
    unfold next?
    simp only
    cases read : TimeOfDay.parse time with
    | error fault =>
      rintro t ⟨clock, same, -⟩
      exact nomatch read.symm.trans same
    | ok clock => exact isFirst_nextDaily? ranged read
  | cron expression =>
    unfold next?
    simp only [Cron.nextAfter]
    cases read : Cron.parse expression with
    | error fault =>
      rintro t ⟨schedule, same, -⟩
      exact nomatch read.symm.trans same
    | ok schedule =>
      refine (Cron.Schedule.isFirst_next? (Cron.inOrder_parse read) ranged).congr fun t => ?_
      constructor
      · exact fun on => ⟨schedule, read, on⟩
      · rintro ⟨other, same, on⟩
        cases read.symm.trans same
        exact on

/-! ### Counting from another point -/

/-- A timing fires after the point from which it counts. -/
theorem Fires.after {timing : Timing} {t : Instant} (fires : timing.Fires base t) : base < t := by
  cases timing with
  | manual => exact fires.elim
  | interval seconds =>
    obtain ⟨count, positive, found⟩ := fires
    have later := (addSeconds?_eq_some found).1
    rw [lt_iff_val]
    omega
  | daily time =>
    obtain ⟨clock, -, -, -, -, after⟩ := fires
    exact after
  | cron expression =>
    obtain ⟨schedule, -, -, after⟩ := fires
    exact after

/-- When a timing fires up to some time, it does so also when it counts from an earlier point. -/
theorem FiresBy.earlier {timing : Timing} {earlier now : Instant} (fires : timing.FiresBy base now)
    (plain : earlier.IsPlain) (basePlain : base.IsPlain) (early : earlier ≤ base) :
    timing.FiresBy earlier now := by
  obtain ⟨t, fires, past⟩ := fires
  cases timing with
  | manual => exact fires.elim
  | interval seconds =>
    obtain ⟨count, positive, found⟩ := fires
    obtain ⟨tPlain, tNanos⟩ := basePlain.addSeconds? _ found
    have order := (plain.le_iff basePlain).mp early
    cases counted : earlier.addSeconds? (count * seconds.toNat) with
    | some u =>
      obtain ⟨uPlain, uNanos⟩ := plain.addSeconds? _ counted
      exact ⟨u, ⟨count, positive, counted⟩, Instant.le_trans ((uPlain.le_iff tPlain).mpr (by omega)) past⟩
    | none =>
      -- the earlier point stays in range where the later one does
      have beyond := addSeconds?_eq_none plain.ranged counted
      obtain ⟨later, within⟩ := addSeconds?_eq_some found
      have within := (inRange_iff.mp within).2
      rw [le_iff_val] at early
      omega
  | daily time =>
    obtain ⟨clock, read, shows, whole, within, after⟩ := fires
    exact ⟨t, ⟨clock, read, shows, whole, within, Instant.lt_of_le_of_lt early after⟩, past⟩
  | cron expression =>
    obtain ⟨schedule, read, on, after⟩ := fires
    exact ⟨t, ⟨schedule, read, on, Instant.lt_of_le_of_lt early after⟩, past⟩

/-- A timing of intervals fires no sooner than a whole interval after the point from which it counts. -/
theorem FiresBy.interval_elapsed {seconds : UInt64} {now : Instant}
    (fires : (interval seconds).FiresBy base now) (plain : base.IsPlain) {later : Instant}
    (laterPlain : later.IsPlain) (late : now ≤ later) :
    base.toNanos + (seconds.toNat * nanosPerSecond : Nat) ≤ later.toNanos := by
  obtain ⟨t, ⟨count, positive, found⟩, past⟩ := fires
  obtain ⟨tPlain, tNanos⟩ := plain.addSeconds? _ found
  have order := (tPlain.le_iff laterPlain).mp (Instant.le_trans past late)
  have counted : 1 ≤ count := Nat.pos_of_mul_pos_right positive
  have atLeast : seconds.toNat * nanosPerSecond ≤ count * seconds.toNat * nanosPerSecond :=
    Nat.mul_le_mul_right _ (Nat.le_mul_of_pos_left _ counted)
  omega

end Timing
end StreamWatch
