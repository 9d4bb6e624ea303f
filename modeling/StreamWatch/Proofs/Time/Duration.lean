/-
**A length of time is read from its written form as it was.**

The reader goes through the written parts one by one: the digits of a number, the letters of a unit, a
blank. So what it comes to is the sum of the parts. That sum is the length that was written, and since
no part of it is beyond the whole, nothing on the way is too large.

* `readFrom_digits`, `readFrom_letters`: the reader in a number and in the name of a unit;
* `readFrom_parts`: parts written one after the other are added up;
* `plus_eq_ok`, `addUp_eq_ok`: the sum of parts that are worth a length is that length;
* `worths_parts`: the parts of a length are worth that length;
* `parse_format`: so the written form of a length is read as that length;
* `decode_format`: and the settings take it for that length.
-/

import StreamWatch.Settings.Service
import StreamWatch.Proofs.Number.Decimal

namespace StreamWatch.Duration

open StreamWatch.Number StreamWatch.Text

/-! ### The reader -/

section Reader

variable {sum : Duration} {n : Nat} {rest : List Char} {result : Except Fault Duration}

theorem readFrom_cons {after : Duration} {reading next : Reading} {place : Nat} {c : Char}
    (steps : reading.step sum place c = .ok (after, next)) (rest : List Char) :
    readFrom sum place reading (c :: rest) = readFrom after (place + c.utf8Size) next rest := by
  rw [readFrom, steps]

/-- A letter of a unit is no digit. -/
theorem digitValue?_of_isUnitLetter {c : Char} (letter : isUnitLetter c = true) : digitValue? c = none := by
  refine if_neg fun digit => ?_
  have low : '0'.toNat ≤ c.toNat := digit.1
  have high : c.toNat ≤ '9'.toNat := digit.2
  simp only [isUnitLetter, Bool.or_eq_true, Bool.and_eq_true, decide_eq_true_eq, beq_iff_eq] at letter
  rcases letter with (lower | upper) | rfl
  · have : 'a'.toNat ≤ c.toNat := lower.1
    exact absurd (Nat.le_trans this high) (by decide)
  · have : 'A'.toNat ≤ c.toNat := upper.1
    exact absurd (Nat.le_trans this high) (by decide)
  · exact absurd high (by decide)

/-- A letter of a unit is no blank. -/
theorem isBlank_of_isUnitLetter {c : Char} (letter : isUnitLetter c = true) : isBlank c = false := by
  have bounds : (0x41 ≤ c.toNat ∧ c.toNat ≤ 0x7A) ∨ c.toNat = 0xB5 := by
    simp only [isUnitLetter, Bool.or_eq_true, Bool.and_eq_true, decide_eq_true_eq, beq_iff_eq] at letter
    rcases letter with (lower | upper) | rfl
    · have low : 0x61 ≤ c.toNat := lower.1
      have high : c.toNat ≤ 0x7A := lower.2
      omega
    · have low : 0x41 ≤ c.toNat := upper.1
      have high : c.toNat ≤ 0x5A := upper.2
      omega
    · exact .inr rfl
  simp only [isBlank, Bool.or_eq_false_iff, Bool.and_eq_false_iff, decide_eq_false_iff_not, beq_eq_false_iff_ne]
  omega

/-- **Digits after a number that was begun** make it the number they write, when that is one of 64 bits. -/
theorem readFrom_digits {digits : List Char} {m : Nat} (read : digitsValueFrom? n digits = some m)
    (fits : m < wordBound) (goesOn : ∀ place, readFrom sum place (.number m) rest = result) (place : Nat) :
    readFrom sum place (.number n) (digits ++ rest) = result := by
  induction digits generalizing n place with
  | nil =>
    obtain rfl := Option.some.inj read
    exact goesOn place
  | cons c digits ih =>
    rw [digitsValueFrom?] at read
    split at read
    · next d digit =>
      have small : n * 10 + d < wordBound := Nat.lt_of_le_of_lt (le_of_digitsValueFrom? read) fits
      have steps : (Reading.number n).step sum place c = .ok (sum, .number (n * 10 + d)) := by
        simp only [Reading.step, digit, pushDigit, if_pos small]
        rfl
      rw [List.cons_append, readFrom_cons steps]
      exact ih read _
    · cases read

/-- A written number is read as that number. -/
theorem readFrom_number (fits : n < wordBound)
    (goesOn : ∀ place, readFrom sum place (.number n) rest = result) (first : Bool) (since place : Nat) :
    readFrom sum place (.start first since) ((toString n).toList ++ rest) = result := by
  have value := digitsValue?_toString n
  cases written : (toString n).toList with
  | nil =>
    rw [written] at value
    cases value
  | cons c digits =>
    rw [written, digitsValue?, digitsValueFrom?] at value
    · split at value
      · next d digit =>
        have steps : (Reading.start first since).step sum place c = .ok (sum, .number d) := by
          simp only [Reading.step, digit]
        rw [Nat.zero_mul, Nat.zero_add] at value
        rw [List.cons_append, readFrom_cons steps]
        exact readFrom_digits value fits goesOn _
      · cases value
    · exact List.cons_ne_nil c digits

/-- **Letters in the name of a unit** are letters of that name. -/
theorem readFrom_letters {f : Option Fraction} {letters name : List Char}
    (all : ∀ c ∈ letters, isUnitLetter c = true)
    (goesOn : ∀ place, readFrom sum place (.unit n f (letters.reverse ++ name)) rest = result) (place : Nat) :
    readFrom sum place (.unit n f name) (letters ++ rest) = result := by
  induction letters generalizing name place with
  | nil => exact goesOn place
  | cons c letters ih =>
    have letter := all c List.mem_cons_self
    have steps : (Reading.unit n f name).step sum place c = .ok (sum, .unit n f (c :: name)) := by
      simp only [Reading.step, digitValue?_of_isUnitLetter letter, isBlank_of_isUnitLetter letter, letter,
        if_true, Bool.false_eq_true, if_false]
    rw [List.cons_append, readFrom_cons steps]
    refine ih (fun d member => all d (List.mem_cons_of_mem c member)) (fun place => ?_) _
    rw [← goesOn place, List.reverse_cons, List.append_assoc]
    rfl

/-- The name of a unit after a number begins to be read with its first letter. -/
theorem readFrom_unit {name : List Char} (present : name ≠ []) (all : ∀ c ∈ name, isUnitLetter c = true)
    (goesOn : ∀ place, readFrom sum place (.unit n none name.reverse) rest = result) (place : Nat) :
    readFrom sum place (.number n) (name ++ rest) = result := by
  cases name with
  | nil => exact absurd rfl present
  | cons c letters =>
    have letter := all c List.mem_cons_self
    have steps : (Reading.number n).step sum place c = .ok (sum, .unit n none [c]) := by
      simp only [Reading.step, digitValue?_of_isUnitLetter letter, isBlank_of_isUnitLetter letter, letter,
        if_true, Bool.false_eq_true, if_false]
    rw [List.cons_append, readFrom_cons steps]
    refine readFrom_letters (fun d member => all d (List.mem_cons_of_mem c member)) (fun place => ?_) _
    rw [← goesOn place, List.reverse_cons]

end Reader

/-! ### Written parts -/

/-- The name under which the unit of a part is written. -/
def unitName (part : Nat × String × String) : String := if part.1 = 1 then part.2.1 else part.2.2

/-- Whether a text is a name of a unit, of letters alone. -/
def Names (unit : Unit) (name : String) : Prop :=
  Unit.ofName? name = some unit ∧ name.toList.all isUnitLetter = true

instance (unit : Unit) (name : String) : Decidable (Names unit name) :=
  inferInstanceAs (Decidable (_ ∧ _))

theorem Names.ne_empty {unit : Unit} {name : String} (names : Names unit name) : name ≠ "" := by
  rintro rfl
  have unnamed : Unit.ofName? "" = none := by decide
  exact nomatch unnamed.symm.trans names.1

/-- Whether a part counts a unit: its number is one of 64 bits, what it adds below a second is less than
one, and it is written under names of that unit. -/
structure Counts (unit : Unit) (part : Nat × String × String) : Prop where
  fits : part.1 < wordBound
  small : (unit.whole part.1).2 < nanosPerSecond
  one : Names unit part.2.1
  many : Names unit part.2.2

namespace Counts

variable {unit : Unit} {part : Nat × String × String}

theorem names (counts : Counts unit part) : Names unit (unitName part) := by
  unfold unitName
  split
  · exact counts.one
  · exact counts.many

theorem plusUnits (counts : Counts unit part) (d : Duration) :
    d.plusUnits part.1 none (unitName part) = d.plus (unit.whole part.1) := by
  have present : (unitName part).isEmpty = false := by simpa using counts.names.ne_empty
  unfold Duration.plusUnits
  rw [present, counts.names.1, if_neg Bool.false_ne_true]
  exact bind_pure (d.plus (unit.whole part.1))

end Counts

/-- Adds parts to a length, one after the other. -/
def addUp (d : Duration) (parts : List (Nat × String × String)) : Except Fault Duration :=
  parts.foldlM (fun sum part => sum.plusUnits part.1 none (unitName part)) d

/-- A part is read up to the end of its unit. -/
theorem readFrom_part {unit : Unit} {part : Nat × String × String} (counts : Counts unit part) {sum : Duration}
    {rest : List Char} {result : Except Fault Duration}
    (goesOn : ∀ place, readFrom sum place (.unit part.1 none (unitName part).toList.reverse) rest = result)
    (first : Bool) (since place : Nat) :
    readFrom sum place (.start first since) ((partText part).toList ++ rest) = result := by
  have written : partText part = toString part.1 ++ unitName part := rfl
  have named : (unitName part).toList ≠ [] := fun empty =>
    counts.names.ne_empty (String.toList_eq_nil_iff.mp empty)
  have letters : ∀ c ∈ (unitName part).toList, isUnitLetter c = true := List.all_eq_true.mp counts.names.2
  rw [written, String.toList_append, List.append_assoc]
  exact readFrom_number counts.fits (readFrom_unit named letters goesOn) first since place

/-- **Parts written one after the other are added up.** -/
theorem readFrom_parts {part : Nat × String × String} {parts : List (Nat × String × String)}
    (all : ∀ p ∈ part :: parts, ∃ unit, Counts unit p) (sum : Duration) (first : Bool) (since place : Nat) :
    readFrom sum place (.start first since)
        (" ".intercalate ((part :: parts).map partText)).toList = addUp sum (part :: parts) := by
  rw [String.toList_intercalate]
  induction parts generalizing part sum first since place with
  | nil =>
    obtain ⟨unit, counts⟩ := all part List.mem_cons_self
    have alone : addUp sum [part] = sum.plusUnits part.1 none (unitName part) := by
      rw [addUp, List.foldlM_cons]
      cases sum.plusUnits part.1 none (unitName part) <;> rfl
    have ends : ∀ place, readFrom sum place (.unit part.1 none (unitName part).toList.reverse) [] =
        addUp sum [part] := by
      intro place
      rw [readFrom, Reading.finish, List.reverse_reverse, String.ofList_toList, alone]
    have read := readFrom_part counts ends first since place
    rw [List.append_nil] at read
    rw [List.map_singleton, List.map_singleton, List.intercalate_singleton]
    exact read
  | cons next parts ih =>
    obtain ⟨unit, counts⟩ := all part List.mem_cons_self
    have later (sum : Duration) (since place : Nat) :=
      ih (fun p member => all p (List.mem_cons_of_mem part member)) sum false since place
    have goesOn : ∀ place, readFrom sum place (.unit part.1 none (unitName part).toList.reverse)
        (' ' :: [' '].intercalate (((next :: parts).map partText).map String.toList)) =
          addUp sum (part :: next :: parts) := by
      intro place
      rw [readFrom, addUp, List.foldlM_cons]
      simp only [Reading.step, show digitValue? ' ' = none from by decide,
        show isBlank ' ' = true from by decide, if_true, List.reverse_reverse, String.ofList_toList]
      cases sum.plusUnits part.1 none (unitName part) with
      | error fault => rfl
      | ok after => exact later after _ _
    have read := readFrom_part counts goesOn first since place
    rw [List.map_cons, List.map_cons, List.map_cons, List.map_cons, List.intercalate_cons_cons]
    rw [List.append_assoc]
    exact read

/-! ### Sums -/

/-- One more than the nanoseconds of the greatest length. -/
def nanosBound : Nat := wordBound * nanosPerSecond

theorem toNanos_lt (d : Duration) : d.toNanos < nanosBound := by
  have seconds := d.seconds.toNat_lt
  have nanos := d.nanos.isLt
  simp only [toNanos, nanosBound, wordBound, nanosPerSecond]
  omega

theorem toNanos_ofNanos? {n : Nat} {d : Duration} (made : ofNanos? n = some d) : d.toNanos = n := by
  unfold ofNanos? at made
  split at made
  · next fits =>
    obtain rfl := Option.some.inj made
    simp only [wordBound, nanosPerSecond] at fits
    simp only [toNanos, nanosPerSecond, UInt64.toNat_ofNat']
    omega
  · cases made

theorem exists_ofNanos? {n : Nat} (fits : n < nanosBound) : ∃ d, ofNanos? n = some d := by
  have small : n / nanosPerSecond < wordBound := by
    simp only [nanosBound, wordBound, nanosPerSecond] at *
    omega
  rw [ofNanos?, if_pos small]
  exact ⟨_, rfl⟩

theorem ofNanos?_toNanos (d : Duration) : ofNanos? d.toNanos = some d := by
  obtain ⟨same, made⟩ := exists_ofNanos? d.toNanos_lt
  rw [made, toNanos_injective (toNanos_ofNanos? made)]

/-- **Adding comes to the length that is the sum.** Neither its seconds nor the nanoseconds on the way
are too many. -/
theorem plus_eq_ok {d sum : Duration} {more : Nat × Nat} (small : more.2 < nanosPerSecond)
    (total : d.toNanos + (more.1 * nanosPerSecond + more.2) = sum.toNanos) : d.plus more = .ok sum := by
  obtain ⟨seconds, nanos⟩ := more
  dsimp only at small total
  have bound := sum.toNanos_lt
  have below := d.nanos.isLt
  have regrouped : (d.seconds.toNat + seconds) * nanosPerSecond + (d.nanos + nanos) = sum.toNanos := by
    rw [← total, toNanos, Nat.add_mul]
    omega
  have fits : seconds < wordBound ∧ d.nanos + nanos < wordBound := by
    simp only [nanosBound, nanosPerSecond, wordBound] at *
    omega
  rw [plus, if_pos fits, regrouped, ofNanos?_toNanos]

/-- What a part is worth in nanoseconds. -/
def worth (part : Nat × String × String) : Nat :=
  match Unit.ofName? part.2.2 with
  | some unit => (unit.whole part.1).1 * nanosPerSecond + (unit.whole part.1).2
  | none => 0

/-- What parts are worth together. -/
def worths : List (Nat × String × String) → Nat
  | [] => 0
  | part :: rest => worth part + worths rest

theorem Counts.worth_eq {unit : Unit} {part : Nat × String × String} (counts : Counts unit part) :
    worth part = (unit.whole part.1).1 * nanosPerSecond + (unit.whole part.1).2 := by
  rw [worth, counts.many.1]

/-- **The sum of parts that are worth a length is that length.** -/
theorem addUp_eq_ok {parts : List (Nat × String × String)} (all : ∀ p ∈ parts, ∃ unit, Counts unit p)
    {d sum : Duration} (total : d.toNanos + worths parts = sum.toNanos) : addUp d parts = .ok sum := by
  induction parts generalizing d with
  | nil =>
    rw [worths, Nat.add_zero] at total
    rw [toNanos_injective total]
    rfl
  | cons part parts ih =>
    obtain ⟨unit, counts⟩ := all part List.mem_cons_self
    have bound := sum.toNanos_lt
    rw [worths] at total
    obtain ⟨next, made⟩ := exists_ofNanos? (n := d.toNanos + worth part) (by omega)
    have reached := toNanos_ofNanos? made
    have added : d.plusUnits part.1 none (unitName part) = .ok next := by
      rw [counts.plusUnits]
      exact plus_eq_ok counts.small (by rw [← counts.worth_eq, reached])
    have later := ih (fun p member => all p (List.mem_cons_of_mem part member)) (d := next) (by omega)
    rw [addUp, List.foldlM_cons, added]
    exact later

/-! ### The parts of a length -/

theorem counts_of_names {unit : Unit} {one many : String} (names : Names unit one ∧ Names unit many) {n : Nat}
    (fits : n < wordBound) (small : (unit.whole n).2 < nanosPerSecond) : Counts unit (n, one, many) :=
  ⟨fits, small, names.1, names.2⟩

theorem counts_parts (d : Duration) : ∀ part ∈ d.parts, ∃ unit, Counts unit part := by
  have seconds := d.seconds.toNat_lt
  have nanos := d.nanos.isLt
  have bound : wordBound = 18446744073709551616 := rfl
  intro part member
  simp only [parts, secondsPerYear, secondsPerMonth, secondsPerDay, List.mem_cons, List.not_mem_nil,
    or_false] at member
  rcases member with rfl | rfl | rfl | rfl | rfl | rfl | rfl | rfl | rfl
  · exact ⟨.year, counts_of_names (by decide) (by omega) (Nat.zero_lt_succ _)⟩
  · exact ⟨.month, counts_of_names (by decide) (by omega) (Nat.zero_lt_succ _)⟩
  · exact ⟨.day, counts_of_names (by decide) (by omega) (Nat.zero_lt_succ _)⟩
  · exact ⟨.hour, counts_of_names (by decide) (by omega) (Nat.zero_lt_succ _)⟩
  · exact ⟨.minute, counts_of_names (by decide) (by omega) (Nat.zero_lt_succ _)⟩
  · exact ⟨.second, counts_of_names (by decide) (by omega) (Nat.zero_lt_succ _)⟩
  · refine ⟨.millisecond, counts_of_names (by decide) (by omega) ?_⟩
    show (d.nanos : Nat) / 1000000 * 1000000 < nanosPerSecond
    exact Nat.lt_of_le_of_lt (Nat.div_mul_le_self _ _) nanos
  · refine ⟨.microsecond, counts_of_names (by decide) (by omega) ?_⟩
    show (d.nanos : Nat) / 1000 % 1000 * 1000 < nanosPerSecond
    simp only [nanosPerSecond]
    omega
  · refine ⟨.nanosecond, counts_of_names (by decide) (by omega) ?_⟩
    show (d.nanos : Nat) % 1000 * 1 < nanosPerSecond
    simp only [nanosPerSecond]
    omega

theorem worth_of_name {unit : Unit} {many : String} (named : Unit.ofName? many = some unit) (n : Nat)
    (one : String) :
    worth (n, one, many) = (unit.whole n).1 * nanosPerSecond + (unit.whole n).2 := by
  rw [worth, named]

/-- **The parts of a length are worth that length.** -/
theorem worths_parts (d : Duration) : worths d.parts = d.toNanos := by
  simp only [parts, worths]
  rw [worth_of_name (show Unit.ofName? "years" = some .year from by decide),
    worth_of_name (show Unit.ofName? "months" = some .month from by decide),
    worth_of_name (show Unit.ofName? "days" = some .day from by decide),
    worth_of_name (show Unit.ofName? "h" = some .hour from by decide),
    worth_of_name (show Unit.ofName? "m" = some .minute from by decide),
    worth_of_name (show Unit.ofName? "s" = some .second from by decide),
    worth_of_name (show Unit.ofName? "ms" = some .millisecond from by decide),
    worth_of_name (show Unit.ofName? "us" = some .microsecond from by decide),
    worth_of_name (show Unit.ofName? "ns" = some .nanosecond from by decide)]
  simp only [Unit.whole, Unit.nanos?, Unit.seconds, toNanos, nanosPerSecond, secondsPerYear, secondsPerMonth, secondsPerDay]
  omega

/-- Parts that are left out for being zero are worth nothing. -/
theorem worths_filter (parts : List (Nat × String × String)) :
    worths (parts.filter fun part => part.1 != 0) = worths parts := by
  induction parts with
  | nil => rfl
  | cons part rest ih =>
    obtain ⟨n, one, many⟩ := part
    by_cases zero : n = 0
    · subst zero
      have nothing : worth (0, one, many) = 0 := by
        unfold worth
        split
        · next unit _ => cases unit <;> simp [Unit.whole, Unit.nanos?]
        · rfl
      rw [List.filter_cons_of_neg (by simp), worths, nothing, ih, Nat.zero_add]
    · rw [List.filter_cons_of_pos (by simpa using zero), worths, worths, ih]

/-! ### Round trip -/

/-- A text that is read as a length is no lone zero. -/
theorem parse_of_readFrom {text : String} {d : Duration}
    (read : readFrom zero 0 (.start true 0) text.toList = .ok d) : parse text = .ok d := by
  rw [parse, if_neg, read]
  rintro rfl
  have unnamed : readFrom zero 0 (.start true 0) "0".toList = .error (.unitNeeded 0) := rfl
  rw [unnamed] at read
  cases read

/-- **The written form of a length is read as that length.** -/
theorem parse_format (d : Duration) : parse d.format = .ok d := by
  have counted : ∀ part ∈ d.parts.filter fun part => part.1 != 0, ∃ unit, Counts unit part :=
    fun part member => counts_parts d part (List.mem_filter.mp member).1
  have total : zero.toNanos + worths (d.parts.filter fun part => part.1 != 0) = d.toNanos := by
    rw [worths_filter, worths_parts]
    exact Nat.zero_add _
  refine parse_of_readFrom ?_
  unfold format
  cases written : d.parts.filter fun part => part.1 != 0 with
  | nil =>
    -- Nothing is written as no seconds, which is one part.
    have seconds : ∀ part ∈ [(0, "s", "s")], ∃ unit, Counts unit part := fun part member => by
      rw [List.mem_singleton.mp member]
      exact ⟨.second, counts_of_names (by decide) (by decide) (by decide)⟩
    rw [written] at total
    exact (readFrom_parts seconds zero true 0 0).trans (addUp_eq_ok seconds total)
  | cons part rest =>
    rw [written] at counted total
    exact (readFrom_parts counted zero true 0 0).trans (addUp_eq_ok counted total)

/-- **Settings carry a length without loss.** As a document value a length is its written form, and the text
that this is is accepted and stands for the same length, to the nanosecond. -/
theorem decode_format (d : Duration) :
    d.toJson = .str d.format ∧ Json.Decoder.duration (.str d.format) = .ok d := by
  refine ⟨rfl, ?_⟩
  rw [Json.Decoder.duration, parse_format]
  rfl

end StreamWatch.Duration
