/-
**The first point on a schedule.**

The values of a field are in ascending order and in range, so that the times of day on a schedule are
in ascending order too, and the first of them from some time on is the first in the list. Days are
looked at one after the other, up to the end of the last year a schedule can name.

* `Schedule.InOrder`: what is known of the schedule of an expression (`inOrder_schedule?`);
* `isFirst_laterThan?`, `isFirst_firstFrom?`: the search through later days, and that from a time of a day on;
* `isFirst_next?`: the search after a point in time finds the first point on the schedule, and finds
  nothing only if no later point is on it.
-/

import StreamWatch.Cron.Text
import StreamWatch.Proofs.Time.Instant

namespace StreamWatch.Cron

open Instant

/-! ### The values of a field -/

/-- Values are in ascending order and in range. -/
structure Range.Orders (r : Range) (values : List Nat) : Prop where
  ascending : values.Pairwise (· < ·)
  within : ∀ n ∈ values, r.low ≤ n ∧ n ≤ r.high

/-- The values of a field are in order. -/
theorem orders_values? {r : Range} {field : Field} {values : List Nat}
    (found : field.values? r = some values) : r.Orders values := by
  obtain ⟨roots, -, rfl⟩ := Option.map_eq_some_iff.mp found
  refine ⟨(List.pairwise_lt_range' 1).filter _, fun n chosen => ?_⟩
  have inRange := List.mem_range'_1.mp (List.mem_filter.mp chosen).1
  omega

namespace Schedule

/-- The values of the fields of a schedule are in order, as far as a search relies on it. -/
structure InOrder (s : Schedule) : Prop where
  seconds : Range.sixty.Orders s.seconds
  minutes : Range.sixty.Orders s.minutes
  hours : Range.hours.Orders s.hours
  years : Range.years.Orders s.years

/-- The schedule of an expression is in order. -/
theorem inOrder_schedule? {e : Expression} {s : Schedule} (found : e.schedule? = some s) : s.InOrder := by
  simp only [Expression.schedule?, Option.bind_eq_bind, Option.bind_eq_some_iff] at found
  obtain ⟨seconds, second, minutes, minute, hours, hour, days, -, months, -, weekdays, -, years, year,
    same⟩ := found
  cases same
  exact ⟨orders_values? second, orders_values? minute, orders_values? hour, orders_values? year⟩

variable {s : Schedule}

/-! ### The times of a day -/

theorem mem_times (ordered : s.InOrder) {time : Nat} :
    time ∈ s.times ↔ time < 86400 ∧ s.admitsTime time = true := by
  simp only [times, List.mem_flatMap, List.mem_map, admitsTime, Bool.and_eq_true, List.contains_iff_mem]
  constructor
  · rintro ⟨hour, hourOn, minute, minuteOn, second, secondOn, rfl⟩
    have hourIn := (ordered.hours.within hour hourOn).2
    have minuteIn := (ordered.minutes.within minute minuteOn).2
    have secondIn := (ordered.seconds.within second secondOn).2
    simp only [Range.hours, Range.sixty] at hourIn minuteIn secondIn
    have sameHour : (hour * 3600 + minute * 60 + second) / 3600 = hour := by omega
    have sameMinute : (hour * 3600 + minute * 60 + second) / 60 % 60 = minute := by omega
    have sameSecond : (hour * 3600 + minute * 60 + second) % 60 = second := by omega
    rw [sameHour, sameMinute, sameSecond]
    exact ⟨by omega, ⟨hourOn, minuteOn⟩, secondOn⟩
  · rintro ⟨-, ⟨hourOn, minuteOn⟩, secondOn⟩
    exact ⟨_, hourOn, _, minuteOn, _, secondOn, by omega⟩

theorem times_ascending (ordered : s.InOrder) : s.times.Pairwise (· < ·) := by
  refine List.pairwise_flatMap.mpr ⟨fun hour _ => List.pairwise_flatMap.mpr ⟨fun minute _ => ?_, ?_⟩, ?_⟩
  · exact List.pairwise_map.mpr (ordered.seconds.ascending.imp fun less => by omega)
  · refine ordered.minutes.ascending.imp fun less first early second late => ?_
    obtain ⟨a, firstOn, rfl⟩ := List.mem_map.mp early
    obtain ⟨b, secondOn, rfl⟩ := List.mem_map.mp late
    have bound := (ordered.seconds.within a firstOn).2
    simp only [Range.sixty] at bound
    omega
  · refine ordered.hours.ascending.imp fun less first early second late => ?_
    obtain ⟨m, minuteOn, early⟩ := List.mem_flatMap.mp early
    obtain ⟨a, firstOn, rfl⟩ := List.mem_map.mp early
    obtain ⟨n, -, late⟩ := List.mem_flatMap.mp late
    obtain ⟨b, secondOn, rfl⟩ := List.mem_map.mp late
    have minuteBound := (ordered.minutes.within m minuteOn).2
    have bound := (ordered.seconds.within a firstOn).2
    simp only [Range.sixty] at minuteBound bound
    omega

/-- In a list in ascending order, the first value of some kind is the least. -/
theorem le_of_find?_ascending {p : Nat → Bool} {values : List Nat} (ascending : values.Pairwise (· < ·))
    {first n : Nat} (found : values.find? p = some first) (member : n ∈ values) (holds : p n = true) :
    first ≤ n := by
  obtain ⟨-, before, after, rfl, earlier⟩ := List.find?_eq_some_iff_append.mp found
  rcases List.mem_append.mp member with early | late
  · have differs := earlier n early
    rw [holds] at differs
    exact absurd differs nofun
  · rcases List.mem_cons.mp late with rfl | later
    · exact Nat.le_refl _
    · have ordered := (List.pairwise_append.mp ascending).2.1
      exact Nat.le_of_lt ((List.pairwise_cons.mp ordered).1 n later)

/-! ### The days -/

/-- A search through so many days finds the first that is on the schedule, or there is none. -/
theorem firstDay?_spec (s : Schedule) (count : Nat) (day : Int) :
    match s.firstDay? count day with
    | some found => day ≤ found ∧ s.admitsDay found = true ∧
        ∀ other, day ≤ other → s.admitsDay other = true → found ≤ other
    | none => ∀ other, day ≤ other → other < day + count → s.admitsDay other = false := by
  induction count generalizing day with
  | zero => exact fun other from' before => by omega
  | succ count ih =>
    rw [firstDay?]
    by_cases on : s.admitsDay day = true
    · rw [if_pos on]
      exact ⟨Int.le_refl day, on, fun other late _ => late⟩
    · rw [if_neg on]
      specialize ih (day + 1)
      split
      · next found searched =>
        rw [searched] at ih
        refine ⟨by omega, ih.2.1, fun other late onOther => ih.2.2 other ?_ onOther⟩
        have differ : other ≠ day := fun same => on (same ▸ onOther)
        omega
      · next searched =>
        rw [searched] at ih
        intro other late early
        by_cases same : other = day
        · rw [same]
          exact Bool.eq_false_iff.mpr on
        · exact ih other (by omega) (by omega)

/-- The days on a schedule are those of the years that are looked at. -/
theorem day_of_admitsDay (ordered : s.InOrder) {day : Int} (on : s.admitsDay day = true) :
    0 ≤ day ∧ day ≤ lastDay := by
  simp only [admitsDay, Bool.and_eq_true, List.contains_iff_mem, decide_eq_true_eq] at on
  have years := ordered.years.within _ on.1.1.1.2
  have positive := on.1.1.1.1
  simp only [Range.years] at years
  refine ⟨Decidable.byContradiction fun before => ?_, Decidable.byContradiction fun after => ?_⟩
  · have early := year_ofDay_of_neg (Int.not_le.mp before)
    omega
  · have late := year_ofDay_of_late (Int.not_le.mp after)
    omega

/-! ### Points in time -/

theorem admits_iff {t : Instant} :
    s.admits t = true ↔
      t.nanos.val = 0 ∧ s.admitsDay t.day = true ∧ s.admitsTime t.timeOfDay = true := by
  rw [admits, Bool.and_eq_true, Bool.and_eq_true, beq_iff_eq, and_assoc]

theorem time_of_admits (ordered : s.InOrder) {t : Instant} (on : s.admits t = true) :
    t.timeOfDay ∈ s.times :=
  (mem_times ordered).mpr ⟨timeOfDay_lt t, (admits_iff.mp on).2.2⟩

theorem admits_ofDay (ordered : s.InOrder) {day : Int} {time : Nat} (dayOn : s.admitsDay day = true)
    (timeOn : time ∈ s.times) : s.admits (ofDay day time) = true := by
  obtain ⟨bound, timeOn⟩ := (mem_times ordered).mp timeOn
  refine admits_iff.mpr ⟨rfl, ?_, ?_⟩
  · rwa [day_ofDay day bound]
  · rwa [timeOfDay_ofDay day bound]

/-- Points on a schedule can be represented. -/
theorem inRange_of_admits (ordered : s.InOrder) {t : Instant} (on : s.admits t = true) :
    t.inRange = true := by
  have day := day_of_admitsDay ordered (admits_iff.mp on).2.1
  have seconds := seconds_eq t
  have time := timeOfDay_lt t
  have last : lastDay = 47846 := rfl
  have low : firstSecond ≤ 0 := by decide
  have high : 47847 * 86400 ≤ lastSecond := by decide
  rw [inRange_iff]
  omega

/-- The first point on the schedule on a later day. A search from a time of a day comes to that when nothing more is on
the schedule on its first day. -/
def laterThan? (s : Schedule) (day : Int) : Option Instant := do
  let time ← s.times.head?
  let later ← s.firstDay? (lastDay - day).toNat (day + 1)
  pure (ofDay later time)

/-- The first of the times on the schedule is the first of a day. -/
theorem head_le_of_admits (ordered : s.InOrder) {time : Nat} {rest : List Nat} (times : s.times = time :: rest)
    {t : Instant} (on : s.admits t = true) : time ≤ t.timeOfDay := by
  have ascending := times ▸ times_ascending ordered
  rcases List.mem_cons.mp (times ▸ time_of_admits ordered on) with same | after
  · exact Nat.le_of_eq same.symm
  · exact Nat.le_of_lt ((List.pairwise_cons.mp ascending).1 _ after)

/-- **The search through later days** finds the first time of the first day on the schedule. -/
theorem isFirst_laterThan? (ordered : s.InOrder) (day : Int) :
    IsFirst (s.laterThan? day) fun t => s.admits t = true ∧ day < t.day := by
  unfold laterThan?
  cases searched : s.times with
  | nil =>
    intro t on
    have member := time_of_admits ordered on.1
    rw [searched] at member
    exact nomatch member
  | cons time rest =>
    have timeOn : time ∈ s.times := searched ▸ List.mem_cons_self
    have bound := ((mem_times ordered).mp timeOn).1
    have days := firstDay?_spec s (lastDay - day).toNat (day + 1)
    simp only [List.head?_cons, Option.bind_eq_bind, Option.bind_some]
    split at days
    · next found walked =>
      rw [walked]
      obtain ⟨after, dayOn, least⟩ := days
      refine ⟨⟨admits_ofDay ordered dayOn timeOn, ?_⟩, fun t on => ?_⟩
      · rw [day_ofDay found bound]
        omega
      · have reached := least t.day on.2 (admits_iff.mp on.1).2.1
        by_cases same : found = t.day
        · rw [same]
          exact ofDay_le_iff.mpr (head_le_of_admits ordered searched on.1)
        · exact ofDay_le_of_day_lt bound (by omega)
    · next walked =>
      rw [walked]
      intro t on
      have dayOn := (admits_iff.mp on.1).2.1
      have within := (day_of_admitsDay ordered dayOn).2
      have after : day < t.day := on.2
      rw [days t.day after (by omega)] at dayOn
      exact nomatch dayOn

/-- A point is not before a time of a day. -/
def From (day : Int) (time : Nat) (t : Instant) : Prop := day < t.day ∨ (day = t.day ∧ time ≤ t.timeOfDay)

/-- **The search from a time of a day on** finds the first point on the schedule, if there is one. -/
theorem isFirst_firstFrom? (ordered : s.InOrder) (day : Int) (time : Nat) :
    IsFirst (s.firstFrom? day time) fun t => s.admits t = true ∧ From day time t := by
  unfold firstFrom?
  simp only
  cases onFirstDay : if s.admitsDay day = true then s.times.find? (time ≤ ·) else none with
  | some first =>
    obtain ⟨dayOn, found⟩ := Option.ite_none_right_eq_some.mp onFirstDay
    have timeOn := List.mem_of_find?_eq_some found
    have late : time ≤ first := by simpa only [decide_eq_true_eq] using List.find?_some found
    have bound := ((mem_times ordered).mp timeOn).1
    refine ⟨⟨admits_ofDay ordered dayOn timeOn, .inr ?_⟩, fun t on => ?_⟩
    · rw [day_ofDay day bound, timeOfDay_ofDay day bound]
      exact ⟨rfl, late⟩
    · rcases on.2 with later | ⟨rfl, later⟩
      · exact ofDay_le_of_day_lt bound later
      · exact ofDay_le_iff.mpr (le_of_find?_ascending (times_ascending ordered) found
          (time_of_admits ordered on.1) (decide_eq_true later))
  | none =>
    -- nothing more is on the schedule on the first day, so that the search goes on from midnight
    refine (isFirst_laterThan? ordered day).congr fun t => and_congr_right fun on => ⟨.inl, fun reached => ?_⟩
    rcases reached with later | ⟨rfl, later⟩
    · exact later
    · rw [if_pos (admits_iff.mp on).2.1] at onFirstDay
      have none := List.find?_eq_none.mp onFirstDay _ (time_of_admits ordered on)
      exact absurd (decide_eq_true later) none

/-- A point without a part of a second is after another when it is not before the next second. -/
theorem lt_iff_from {after start t : Instant} (next : start.seconds = after.seconds + 1)
    (whole : t.nanos.val = 0) : after < t ↔ From start.day start.timeOfDay t := by
  have first := seconds_eq start
  have second := seconds_eq t
  have inDay := timeOfDay_lt start
  have inDay := timeOfDay_lt t
  rw [lt_iff_val, From]
  omega

/-- **The first point on a schedule after a point in time**: it is on the schedule and none between is,
and where none is found, none is left. -/
theorem isFirst_next? (ordered : s.InOrder) {after : Instant} (ranged : after.inRange = true) :
    IsFirst (s.next? after) fun t => s.admits t = true ∧ after < t := by
  unfold next?
  cases started : after.addSeconds? 1 with
  | none =>
    intro t on
    have late := addSeconds?_eq_none ranged started
    have within := (inRange_iff.mp (inRange_of_admits ordered on.1)).2
    have whole := (admits_iff.mp on.1).1
    have beyond := (lt_iff_val _ _).mp on.2
    omega
  | some start =>
    have next := (addSeconds?_eq_some started).1
    have same (t : Instant) :
        s.admits t = true ∧ From start.day start.timeOfDay t ↔ s.admits t = true ∧ after < t :=
      and_congr_right fun on => (lt_iff_from next (admits_iff.mp on).1).symm
    have startIs := seconds_eq start
    have startIn := timeOfDay_lt start
    simp only [Option.bind_eq_bind, Option.bind_some]
    by_cases before : start.seconds < 0
    · rw [if_pos before]
      refine (isFirst_firstFrom? ordered 0 0).congr fun t => and_congr_right fun on => ?_
      have within := (day_of_admitsDay ordered (admits_iff.mp on).2.1).1
      rw [lt_iff_val, From]
      have seconds := seconds_eq t
      exact iff_of_true (by omega) (by omega)
    · rw [if_neg before]
      by_cases beyond : lastDay < start.day
      · rw [if_pos beyond]
        intro t on
        have within := (day_of_admitsDay ordered (admits_iff.mp on.1).2.1).2
        have later := ((same t).mpr on).2
        rw [From] at later
        omega
      · rw [if_neg beyond]
        exact (isFirst_firstFrom? ordered start.day start.timeOfDay).congr same

end Schedule

/-- The schedule a text stands for is in order. -/
theorem inOrder_parse {text : String} {s : Schedule} (read : parse text = .ok s) : s.InOrder := by
  unfold parse at read
  split at read
  · next schedule found =>
    cases read
    obtain ⟨e, -, found⟩ := Option.bind_eq_some_iff.mp found
    exact Schedule.inOrder_schedule? found
  · exact nomatch read

end StreamWatch.Cron
