/-
**The order of points in time, and the days they lie in.**

Points are ordered by their seconds and their parts of a second. A point without a part of a second
is told by its day and its time of day, and such points are ordered by their days and then by their
times of day.

* `IsFirst`: what it is that a search for the first point of some kind has to find;
* `ofDay_le_of_day_lt`, `ofDay_le_iff`: points by their days and times of day;
* `day_le_of_lt_ofDay`, `lt_ofDay_succ`: a time of day after a point in time;
* `year_ofDay_of_neg`, `year_ofDay_of_late`: days outside of 1970 to 2100 have years outside of them;
* `plain_le_iff`: what a clock shows is ordered by its nanoseconds.
-/

import StreamWatch.Time.Instant

namespace StreamWatch

namespace Instant

/-! ### Order -/

theorem lt_iff_val (a b : Instant) :
    a < b ↔ a.seconds < b.seconds ∨ (a.seconds = b.seconds ∧ a.nanos.val < b.nanos.val) := Iff.rfl

theorem le_iff_val (a b : Instant) :
    a ≤ b ↔ a.seconds < b.seconds ∨ (a.seconds = b.seconds ∧ a.nanos.val ≤ b.nanos.val) := Iff.rfl

protected theorem le_refl (a : Instant) : a ≤ a := .inr ⟨rfl, Nat.le_refl _⟩

protected theorem le_trans {a b c : Instant} (first : a ≤ b) (second : b ≤ c) : a ≤ c := by
  rw [le_iff_val] at *
  omega

protected theorem le_antisymm {a b : Instant} (first : a ≤ b) (second : b ≤ a) : a = b := by
  rw [le_iff_val] at *
  obtain ⟨seconds, nanos⟩ := a
  obtain ⟨otherSeconds, otherNanos⟩ := b
  simp only at *
  obtain rfl : seconds = otherSeconds := by omega
  obtain rfl : nanos = otherNanos := Fin.ext (by omega)
  rfl

protected theorem lt_of_le_of_lt {a b c : Instant} (first : a ≤ b) (second : b < c) : a < c := by
  rw [lt_iff_val] at *
  rw [le_iff_val] at first
  omega

protected theorem le_of_lt {a b : Instant} (less : a < b) : a ≤ b := by
  rw [lt_iff_val] at less
  rw [le_iff_val]
  omega

protected theorem not_lt {a b : Instant} : ¬ a < b ↔ b ≤ a := by
  rw [lt_iff_val, le_iff_val]
  omega

/-! ### The first point of some kind -/

/-- **The first of the points that have a property** is what was found; when nothing was found there
are none. -/
def IsFirst (found : Option Instant) (property : Instant → Prop) : Prop :=
  match found with
  | some first => property first ∧ ∀ t, property t → first ≤ t
  | none => ∀ t, ¬ property t

theorem IsFirst.congr {found : Option Instant} {property other : Instant → Prop}
    (first : IsFirst found property) (same : ∀ t, property t ↔ other t) : IsFirst found other := by
  have equal : property = other := funext fun t => propext (same t)
  exact equal ▸ first

/-- There is a point of a kind up to some time when the first of them is there by then. -/
theorem IsFirst.any_le_iff {found : Option Instant} {property : Instant → Prop}
    (first : IsFirst found property) (now : Instant) :
    found.any (· ≤ now) = true ↔ ∃ t, property t ∧ t ≤ now := by
  cases found with
  | none => exact ⟨nofun, fun ⟨t, has, _⟩ => absurd has (first t)⟩
  | some t =>
    rw [Option.any_some, decide_eq_true_eq]
    exact ⟨fun early => ⟨t, first.1, early⟩,
      fun ⟨u, has, early⟩ => Instant.le_trans (first.2 u has) early⟩

/-! ### Days and times of day -/

theorem timeOfDay_lt (t : Instant) : t.timeOfDay < 86400 := by
  simp only [timeOfDay, daySeconds]
  omega

theorem seconds_eq (t : Instant) : t.seconds = t.day * 86400 + t.timeOfDay := by
  simp only [day, timeOfDay, daySeconds]
  omega

theorem day_ofDay (day : Int) {time : Nat} (bound : time < 86400) : (ofDay day time).day = day := by
  simp only [Instant.day, ofDay, daySeconds]
  omega

theorem timeOfDay_ofDay (day : Int) {time : Nat} (bound : time < 86400) :
    (ofDay day time).timeOfDay = time := by
  simp only [timeOfDay, ofDay, daySeconds]
  omega

/-- A point without a part of a second is told by its day and its time of day. -/
theorem ofDay_day_timeOfDay {t : Instant} (whole : t.nanos.val = 0) : ofDay t.day t.timeOfDay = t := by
  have sameSeconds : t.day * daySeconds + t.timeOfDay = t.seconds := (seconds_eq t).symm
  have sameNanos : 0 = t.nanos := Fin.ext whole.symm
  rw [ofDay, sameSeconds, sameNanos]

theorem ofDay_le_of_day_lt {day : Int} {time : Nat} (bound : time < 86400) {t : Instant}
    (later : day < t.day) : ofDay day time ≤ t := by
  have seconds := seconds_eq t
  simp only [le_iff_val, ofDay, daySeconds]
  omega

theorem ofDay_le_iff {time : Nat} {t : Instant} : ofDay t.day time ≤ t ↔ time ≤ t.timeOfDay := by
  have seconds := seconds_eq t
  have none : (0 : Fin 2000000000).val ≤ t.nanos.val := Nat.zero_le _
  simp only [le_iff_val, ofDay, daySeconds]
  omega

/-- A time of day comes on every day, one after the other. -/
theorem ofDay_le_ofDay {first later : Int} (ordered : first ≤ later) (time : Nat) :
    ofDay first time ≤ ofDay later time := by
  simp only [le_iff_val, ofDay, daySeconds]
  omega

/-- A time of a day that comes after a point is one of its own day or of a later one. -/
theorem day_le_of_lt_ofDay {t : Instant} {day : Int} {time : Nat} (bound : time < 86400) (after : t < ofDay day time) :
    t.day ≤ day := by
  have seconds := seconds_eq t
  simp only [lt_iff_val, ofDay, daySeconds] at after
  omega

theorem lt_ofDay_succ (t : Instant) (time : Nat) : t < ofDay (t.day + 1) time := by
  have seconds := seconds_eq t
  have inDay := timeOfDay_lt t
  simp only [lt_iff_val, ofDay, daySeconds]
  omega

/-- Days before 1970 have earlier years. -/
theorem year_ofDay_of_neg {day : Int} (early : day < 0) : (Date.ofDay day).year < 1970 := by
  simp only [Date.ofDay]
  generalize eraIs : (day + 719468) / 146097 = era
  generalize dayIs : day + 719468 - era * 146097 = dayOfEra
  generalize yearIs :
    (dayOfEra - dayOfEra / 1460 + dayOfEra / 36524 - dayOfEra / 146096) / 365 = yearOfEra
  have bound : yearOfEra ≤ 399 := by omega
  by_cases before : era ≤ 3
  · split <;> omega
  · obtain rfl : era = 4 := by omega
    have inEra : dayOfEra < 135080 := by omega
    have inYear : yearOfEra ≤ 369 := by omega
    -- years run from March here, so that of the last one only the first ten months count
    by_cases last : yearOfEra = 369
    · subst last
      split <;> omega
    · split <;> omega

/-- Days after 2100 have later years. -/
theorem year_ofDay_of_late {day : Int} (late : Date.toDay ⟨2100, 12, 31⟩ < day) :
    2100 < (Date.ofDay day).year := by
  have late : 47846 < day := late
  simp only [Date.ofDay]
  generalize eraIs : (day + 719468) / 146097 = era
  generalize dayIs : day + 719468 - era * 146097 = dayOfEra
  generalize yearIs :
    (dayOfEra - dayOfEra / 1460 + dayOfEra / 36524 - dayOfEra / 146096) / 365 = yearOfEra
  have inEra : 0 ≤ dayOfEra ∧ dayOfEra < 146097 := by omega
  by_cases after : 6 ≤ era
  · split <;> omega
  · obtain rfl : era = 5 := by omega
    have fromDay : 36830 ≤ dayOfEra := by omega
    have fromYear : 100 ≤ yearOfEra := by omega
    by_cases first : yearOfEra = 100
    · subst first
      have toDay : dayOfEra ≤ 36890 := by omega
      split <;> omega
    · split <;> omega

/-! ### Range -/

theorem inRange_iff {t : Instant} :
    t.inRange = true ↔ firstSecond ≤ t.seconds ∧ t.seconds ≤ lastSecond := by
  rw [inRange, Bool.and_eq_true, decide_eq_true_eq, decide_eq_true_eq]

/-- Range goes by whole days. -/
theorem inRange_ofDay {t : Instant} (ranged : t.inRange = true) {time : Nat} (bound : time < 86400) :
    (ofDay t.day time).inRange = true := by
  rw [inRange_iff] at *
  have seconds := seconds_eq t
  have inDay := timeOfDay_lt t
  simp only [firstSecond, lastSecond, ofDay, daySeconds] at *
  omega

/-! ### A number of seconds later -/

theorem addSeconds?_eq_some {t later : Instant} {seconds : Nat}
    (found : t.addSeconds? seconds = some later) :
    later.seconds = t.seconds + seconds ∧ later.inRange = true := by
  obtain ⟨ranged, same⟩ := Option.ite_none_right_eq_some.mp found
  cases same
  exact ⟨rfl, ranged⟩

theorem addSeconds?_eq_none {t : Instant} (ranged : t.inRange = true) {seconds : Nat}
    (missing : t.addSeconds? seconds = none) : lastSecond < t.seconds + seconds := by
  have outside : ¬ (ofParts (t.seconds + seconds) _).inRange = true := fun inside =>
    nomatch (if_pos inside).symm.trans missing
  rw [inRange_iff] at ranged outside
  simp only [ofParts] at outside
  omega

/-- A day after a time of day it is that time on the next day. -/
theorem eq_ofDay_of_addSeconds? {day : Int} {time : Nat} {later : Instant}
    (found : (ofDay day time).addSeconds? 86400 = some later) : later = ofDay (day + 1) time := by
  obtain ⟨-, same⟩ := Option.ite_none_right_eq_some.mp found
  have elapsed : day * daySeconds + time + (86400 : Nat) = (day + 1) * daySeconds + time := by
    simp only [daySeconds]
    omega
  rw [ofDay, ← elapsed]
  exact (Option.some.inj same).symm

/-! ### What a clock shows -/

/-- A point in time as a clock shows it: it can be represented, and does not lie in a leap second. -/
structure IsPlain (t : Instant) : Prop where
  ranged : t.inRange = true
  whole : t.nanos.val < nanosPerSecond

/-- The nanoseconds since the start of 1970. -/
def toNanos (t : Instant) : Int := t.seconds * (nanosPerSecond : Int) + t.nanos.val

/-- What a clock shows is ordered by its nanoseconds. -/
theorem IsPlain.le_iff {a b : Instant} (first : a.IsPlain) (second : b.IsPlain) :
    a ≤ b ↔ a.toNanos ≤ b.toNanos := by
  have first := first.whole
  have second := second.whole
  simp only [le_iff_val, toNanos, nanosPerSecond] at *
  omega

theorem IsPlain.addSeconds? {t : Instant} (plain : t.IsPlain) (seconds : Nat) {later : Instant}
    (found : t.addSeconds? seconds = some later) :
    later.IsPlain ∧ later.toNanos = t.toNanos + (seconds * nanosPerSecond : Nat) := by
  obtain ⟨elapsed, ranged⟩ := addSeconds?_eq_some found
  have same : later.nanos = t.nanos := by
    obtain ⟨-, same⟩ := Option.ite_none_right_eq_some.mp found
    rw [if_neg fun leap => Nat.not_le.mpr plain.whole leap.2] at same
    cases same
    exact Fin.ext (Nat.mod_eq_of_lt t.nanos.isLt)
  refine ⟨⟨ranged, same ▸ plain.whole⟩, ?_⟩
  simp only [toNanos, elapsed, same, nanosPerSecond]
  omega

end Instant
end StreamWatch
