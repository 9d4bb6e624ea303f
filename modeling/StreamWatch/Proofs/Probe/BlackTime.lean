/-
**Black time adds up.**

A reading stands behind its label with nothing but white space between them, and white space may run over the ends of
lines. So a line break keeps two texts apart unless the first one ends in a label that still waits for its reading. What
a log of other lines reports is what its lines report, one by one: neither their order matters, nor lines between them
that report nothing.

* `IsOpen`: whether a label at the end of a text still waits for its reading;
* `reading?_append`: a line break after a text that is not open keeps out of its readings what follows;
* `readings_append`, `readings_first`: the readings of two texts, and of one in which a first reading is found;
* `reported_log`: a log reports what its lines report;
* `total_adds_up`: black time adds up, and so the verdict on a sample is a matter of the readings alone.
-/

import Mathlib.Algebra.BigOperators.Group.List.Basic
import Mathlib.Algebra.GroupWithZero.Nat
import StreamWatch.Probe.Tool
import StreamWatch.Proofs.Text.Blank
import StreamWatch.Text.Search

namespace StreamWatch.BlackTime

open Text Number

variable {text rest digits after : List Char}

/-! ### Labels that wait for a reading -/

/-- Whether a text ends in a label with nothing but white space after it. -/
def IsOpen (text : List Char) : Prop := ∃ front blanks, IsBlanks blanks ∧ text = front ++ label ++ blanks

theorem isOpen_iff : IsOpen text ↔ label <:+ trimEnd text := by
  constructor
  · rintro ⟨front, blanks, blank, rfl⟩
    have ends : label = label.dropLast ++ [':'] := by decide
    have solid : trimEnd (front ++ label) = front ++ label := by
      rw [ends, ← List.append_assoc]
      exact trimEnd_append_cons rfl (front ++ label.dropLast) []
    exact ⟨front, by rw [trimEnd_append blank, solid]⟩
  · rintro ⟨front, same⟩
    obtain ⟨blanks, blank, whole⟩ := exists_trimEnd text
    exact ⟨front, blanks, blank, by rw [same, ← whole]⟩

instance : DecidablePred IsOpen := fun _ => decidable_of_iff' _ isOpen_iff

/-- A text that ends in an open one is open. -/
theorem IsOpen.append (isOpen : IsOpen text) (front : List Char) : IsOpen (front ++ text) := by
  obtain ⟨between, blanks, blank, rfl⟩ := isOpen
  exact ⟨front ++ between, blanks, blank, by simp only [List.append_assoc]⟩

theorem trimStart_ne_nil (closed : ¬ IsOpen (label ++ rest)) : trimStart rest ≠ [] := by
  intro empty
  have blank : IsBlanks rest := List.dropWhile_eq_nil_iff.mp empty
  exact closed ⟨[], rest, blank, rfl⟩

/-! ### One reading -/

/-- What is read at the start of a text: what stands behind a label and the white space after it. -/
theorem reading?_eq_some_iff : reading? text = some (digits, after) ↔ ∃ rest, text = label ++ rest ∧
    (trimStart rest).takeWhile isReading = digits ∧ (trimStart rest).dropWhile isReading = after ∧ digits ≠ [] := by
  rw [reading?, Option.bind_eq_bind, Option.bind_eq_some_iff]
  simp only [afterStart?_eq_some_iff]
  refine exists_congr fun rest => and_congr_right fun _ => ?_
  split
  · next none =>
    refine ⟨nofun, ?_⟩
    rintro ⟨rfl, -, some⟩
    exact absurd none some
  · next found =>
    rw [Option.some.injEq, Prod.mk.injEq]
    constructor
    · rintro ⟨rfl, rfl⟩
      exact ⟨rfl, rfl, found⟩
    · rintro ⟨rfl, rfl, -⟩
      exact ⟨rfl, rfl⟩

/-- What is left after a reading is the end of the text, and shorter. -/
theorem exists_of_reading? (found : reading? text = some (digits, after)) :
    ∃ front, text = front ++ after ∧ after.length < text.length := by
  obtain ⟨rest, rfl, rfl, rfl, -⟩ := reading?_eq_some_iff.mp found
  obtain ⟨blanks, -, same⟩ := exists_trimStart rest
  have whole : label ++ rest = label ++ (blanks ++ (trimStart rest).takeWhile isReading) ++
      (trimStart rest).dropWhile isReading := by
    rw [List.append_assoc, List.append_assoc, List.takeWhile_append_dropWhile, ← same]
  have some : 0 < label.length := by decide
  refine ⟨_, whole, ?_⟩
  rw [whole, List.length_append, List.length_append]
  omega

/-- Two ways to cut a text, of which one cuts off a beginning without the character the other one cuts at. -/
theorem append_eq_append_cons {start front back : List Char} {c : Char} (outside : c ∉ start)
    (same : front ++ c :: back = start ++ rest) : ∃ other, front = start ++ other ∧ rest = other ++ c :: back := by
  rcases List.append_eq_append_iff.mp same with ⟨other, rfl, cut⟩ | ⟨other, cut, rfl⟩
  · cases other with
    | nil => exact ⟨[], by simp, by simpa using cut.symm⟩
    | cons d other =>
      rw [List.cons_append, List.cons.injEq] at cut
      exact absurd (by simp [cut.1]) outside
  · exact ⟨other, cut, rfl⟩

/-- **A line break ends a reading**, and what follows it is read as one with a label before it only if the text is
open. -/
theorem reading?_append (closed : ¬ IsOpen text) (second : List Char) :
    reading? (text ++ '\n' :: second) = (reading? text).map fun found => (found.1, found.2 ++ '\n' :: second) := by
  have seam {rest : List Char} (solid : trimStart rest ≠ []) :
      trimStart (rest ++ '\n' :: second) = trimStart rest ++ '\n' :: second := by
    rw [trimStart, List.dropWhile_append, if_neg (by rwa [List.isEmpty_iff])]
    rfl
  have taken (rest : List Char) : (rest ++ '\n' :: second).takeWhile isReading = rest.takeWhile isReading :=
    takeWhile_append_cons (by decide) rest second
  have left (rest : List Char) :
      (rest ++ '\n' :: second).dropWhile isReading = rest.dropWhile isReading ++ '\n' :: second :=
    dropWhile_append_cons (by decide) rest second
  apply Option.ext
  rintro ⟨digits, after⟩
  simp only [Option.map_eq_some_iff, Prod.exists, Prod.mk.injEq, reading?_eq_some_iff]
  constructor
  · rintro ⟨rest, whole, rfl, rfl, some⟩
    obtain ⟨other, rfl, rfl⟩ := append_eq_append_cons (by decide) whole
    have solid := trimStart_ne_nil closed
    rw [seam solid, taken] at some ⊢
    rw [left]
    exact ⟨_, _, ⟨other, rfl, rfl, rfl, some⟩, rfl, rfl⟩
  · rintro ⟨digits, after, ⟨rest, rfl, rfl, rfl, some⟩, rfl, rfl⟩
    have solid := trimStart_ne_nil closed
    exact ⟨rest ++ '\n' :: second, List.append_assoc .., by rw [seam solid, taken], by rw [seam solid, left], some⟩

/-! ### All readings -/

/-- A text is gone through from its first character that begins a reading to the end of that reading, and so on. -/
@[elab_as_elim]
theorem readings_induction {motive : List Char → Prop} (nil : motive [])
    (skip : ∀ c rest, reading? (c :: rest) = none → motive rest → motive (c :: rest))
    (read : ∀ text digits after, reading? text = some (digits, after) → motive after → motive text)
    (text : List Char) : motive text := by
  induction same : text.length using Nat.strong_induction_on generalizing text with
  | _ length ih =>
    subst same
    cases found : reading? text with
    | some reading =>
      obtain ⟨_, -, shorter⟩ := exists_of_reading? found
      exact read text _ _ found (ih _ shorter _ rfl)
    | none =>
      cases text with
      | nil => exact nil
      | cons c rest => exact skip c rest found (ih _ (Nat.lt_succ_self _) rest rfl)

/-- Fuel beyond the length of a text makes no difference. -/
theorem readingsWithin_of_le {fuel : Nat} (enough : text.length ≤ fuel) : readingsWithin fuel text = readings text := by
  induction text using readings_induction generalizing fuel with
  | nil => cases fuel <;> rfl
  | skip c rest unread ih =>
    obtain ⟨fuel, rfl⟩ := Nat.exists_eq_add_one.mpr (Nat.zero_lt_of_lt enough)
    rw [readings, List.length_cons, readingsWithin, readingsWithin, unread]
    exact ih (Nat.le_of_succ_le_succ enough)
  | read text digits after found ih =>
    cases text with
    | nil => exact nomatch found
    | cons c rest =>
      obtain ⟨fuel, rfl⟩ := Nat.exists_eq_add_one.mpr (Nat.zero_lt_of_lt enough)
      obtain ⟨_, -, shorter⟩ := exists_of_reading? found
      have short : after.length ≤ rest.length := Nat.le_of_lt_succ shorter
      rw [readings, List.length_cons, readingsWithin, readingsWithin, found]
      simp only [ih short, ih (short.trans (Nat.le_of_succ_le_succ enough))]

theorem readings_of_none {c : Char} (unread : reading? (c :: rest) = none) : readings (c :: rest) = readings rest := by
  rw [readings, List.length_cons, readingsWithin, unread]
  rfl

theorem readings_of_some (found : reading? text = some (digits, after)) : readings text = digits :: readings after := by
  obtain ⟨_, -, shorter⟩ := exists_of_reading? found
  cases text with
  | nil => exact nomatch found
  | cons c rest =>
    rw [readings, List.length_cons, readingsWithin, found]
    exact congrArg _ (readingsWithin_of_le (Nat.le_of_lt_succ shorter))

/-- **A line break keeps two texts apart**: what is read in both is what is read in the first and what is read in the
second, unless the first is open. -/
theorem readings_append (closed : ¬ IsOpen text) (second : List Char) :
    readings (text ++ '\n' :: second) = readings text ++ readings second := by
  induction text using readings_induction with
  | nil => exact readings_of_none (by cases second <;> rfl)
  | skip c rest unread ih =>
    have still : reading? (c :: rest ++ '\n' :: second) = none := by rw [reading?_append closed, unread]; rfl
    rw [List.cons_append] at still ⊢
    rw [readings_of_none unread, readings_of_none still]
    exact ih fun isOpen => closed (isOpen.append [c])
  | read text digits after found ih =>
    have still : reading? (text ++ '\n' :: second) = some (digits, after ++ '\n' :: second) := by
      rw [reading?_append closed, found]
      rfl
    obtain ⟨front, rfl, -⟩ := exists_of_reading? found
    rw [readings_of_some found, readings_of_some still, ih fun isOpen => closed (isOpen.append front)]
    rfl

/-- White space runs over the end of a line: an open text is read together with what follows it. -/
example : readings "black_duration: \n 9".toList = ["9".toList] := by decide

/-! ### The first reading -/

/-- No character of a reading is white space. -/
theorem isBlank_of_isReading {c : Char} (reading : isReading c = true) : isBlank c = false := by
  -- the digits of every script stand apart from all white space
  have apart : ∀ first ∈ zeros, first = 0x30 ∨ (0x660 ≤ first ∧ first ≤ 0x1600) ∨ (0x1690 ≤ first ∧ first ≤ 0x1F00) ∨
      0x3010 ≤ first := by decide
  simp only [isReading, Bool.or_eq_true, beq_iff_eq, isDecimalDigit, List.any_eq_true, Bool.and_eq_true,
    decide_eq_true_eq] at reading
  rcases reading with rfl | ⟨first, among, low, high⟩
  · rfl
  · have bounds := apart first among
    simp only [isBlank, Bool.or_eq_false_iff, Bool.and_eq_false_iff, decide_eq_false_iff_not, beq_eq_false_iff_ne]
    omega

/-- **Whether a text has a first reading**, when it is cut before and behind its first label, and before and behind what
is read there. -/
structure FirstReading (front blanks digits after : List Char) : Prop where
  unlabelled : ¬ label <:+: front
  blank : IsBlanks blanks
  full : digits ≠ []
  inside : ∀ c ∈ digits, isReading c = true
  ends : ∀ c ∈ after.head?, ¬ isReading c = true

/-- No label begins in what stands before the first one, not even one that ends behind it. -/
theorem infix_of_append_eq {front : List Char} (full : front ≠ []) {behind : List Char}
    (same : front ++ (label ++ behind) = label ++ rest) : label <:+: front := by
  rcases List.append_eq_append_iff.mp same with ⟨other, whole, cut⟩ | ⟨other, rfl, -⟩
  · obtain ⟨f, front, rfl⟩ := List.exists_cons_of_ne_nil full
    cases other with
    | nil => exact ⟨[], [], by rw [whole]; simp⟩
    | cons d other =>
      -- the label begins with a character that it has nowhere else
      have once : 'b' ∉ label.tail := by decide
      have first : (label ++ behind).head? = some 'b' := by
        rw [List.head?_append_of_ne_nil _ (by decide)]
        decide
      rw [cut, List.cons_append, List.head?_cons, Option.some.injEq] at first
      rw [whole, first] at once
      exact absurd (by simp) once
  · exact (List.prefix_append label other).isInfix

variable {front blanks : List Char}

/-- Behind a label and white space a reading is read, all of it. -/
theorem FirstReading.reading? (first : FirstReading front blanks digits after) :
    reading? (label ++ (blanks ++ (digits ++ after))) = some (digits, after) := by
  have solid : trimStart (blanks ++ (digits ++ after)) = digits ++ after := by
    obtain ⟨c, rest, rfl⟩ := List.exists_cons_of_ne_nil first.full
    rw [trimStart_append first.blank]
    exact trimStart_append_cons (isBlank_of_isReading (first.inside c List.mem_cons_self)) [] _
  have stops : after.takeWhile isReading = [] ∧ after.dropWhile isReading = after := by
    cases after with
    | nil => exact ⟨rfl, rfl⟩
    | cons c rest =>
      have outside := first.ends c rfl
      exact ⟨List.takeWhile_cons_of_neg outside, List.dropWhile_cons_of_neg outside⟩
  refine reading?_eq_some_iff.mpr ⟨_, rfl, ?_, ?_, first.full⟩
  · rw [solid, List.takeWhile_append_of_pos first.inside, stops.1, List.append_nil]
  · rw [solid, List.dropWhile_append_of_pos first.inside, stops.2]

/-- **The first reading of a text is read**, and then what follows it. -/
theorem readings_first (first : FirstReading front blanks digits after) :
    readings (front ++ (label ++ (blanks ++ (digits ++ after)))) = digits :: readings after := by
  induction front with
  | nil => exact readings_of_some first.reading?
  | cons c front ih =>
    have unread : BlackTime.reading? (c :: front ++ (label ++ (blanks ++ (digits ++ after)))) = none := by
      refine Option.eq_none_iff_forall_ne_some.mpr fun found read => ?_
      obtain ⟨rest, same, -⟩ := reading?_eq_some_iff.mp read
      exact first.unlabelled (infix_of_append_eq (List.cons_ne_nil c front) same)
    rw [List.cons_append] at unread ⊢
    rw [readings_of_none unread]
    exact ih { first with unlabelled := fun inside => first.unlabelled (List.infix_cons inside) }

/-! ### Totals -/

theorem total_eq (text : String) : total text = ((readings text.toList).filterMap millis?).sum := by
  rw [total, List.sum_eq_foldl]
  rfl

/-- The milliseconds of black that some bytes report. -/
def reported (bytes : List UInt8) : Nat := total (MediaTools.outputText bytes)

/-- Whether some bytes have a reading in them. -/
def hasReading (bytes : List UInt8) : Bool := !(readings (decodeLossy bytes)).isEmpty

/-- Whether some bytes end in a label that waits for its reading. -/
def EndsOpen (bytes : List UInt8) : Prop := IsOpen (decodeLossy bytes)

instance : DecidablePred EndsOpen := fun bytes => inferInstanceAs (Decidable (IsOpen (decodeLossy bytes)))

/-- Lines one after the other, each with its line break. -/
def log (lines : List (List UInt8)) : List UInt8 := lines.flatMap fun line => line ++ [0x0A]

theorem reported_eq (bytes : List UInt8) :
    reported bytes = ((readings (decodeLossy bytes)).filterMap millis?).sum := by
  rw [reported, total_eq, MediaTools.outputText, String.toList_ofList]

/-- Bytes without a reading report nothing. -/
theorem reported_of_not_hasReading {bytes : List UInt8} (unread : ¬ hasReading bytes = true) : reported bytes = 0 := by
  have none : readings (decodeLossy bytes) = [] := by simpa [hasReading] using unread
  rw [reported_eq, none]
  rfl

/-- **A log reports what its lines report**, and what is written behind its last line. -/
theorem reported_log {lines : List (List UInt8)} (closed : ∀ line ∈ lines, ¬ EndsOpen line) (rest : List UInt8) :
    reported (log lines ++ rest) = (lines.map reported).sum + reported rest := by
  induction lines with
  | nil => rw [log, List.flatMap_nil, List.nil_append, List.map_nil, List.sum_nil, Nat.zero_add]
  | cons line lines ih =>
    obtain ⟨own, others⟩ := List.forall_mem_cons.mp closed
    have cut : log (line :: lines) ++ rest = line ++ 0x0A :: (log lines ++ rest) := by simp [log]
    have apart : decodeLossy (log (line :: lines) ++ rest) =
        decodeLossy line ++ '\n' :: decodeLossy (log lines ++ rest) := by
      rw [cut]
      exact decodeLossy_append (by decide) line _
    rw [reported_eq, apart, readings_append own, List.filterMap_append, List.sum_append, ← reported_eq, ← reported_eq,
      ih others, List.map_cons, List.sum_cons, Nat.add_assoc]

/-- Lines without a reading may be left out. -/
theorem sum_reported_filter (lines : List (List UInt8)) :
    ((lines.filter hasReading).map reported).sum = (lines.map reported).sum := by
  induction lines with
  | nil => rfl
  | cons line lines ih =>
    rw [List.filter_cons]
    split
    · rw [List.map_cons, List.map_cons, List.sum_cons, List.sum_cons, ih]
    · next unread => rw [ih, List.map_cons, List.sum_cons, reported_of_not_hasReading unread, Nat.zero_add]

/-- The verdict on a sample of so many seconds, if these lines of its log have readings and these bytes are its end. -/
def verdict (seconds : Nat) (telling : List (List UInt8)) (rest : List UInt8) : Bool :=
  isBlack ((telling.map reported).sum + reported rest) (min (seconds * 1000) (wordBound - 1))

/-- Of a log the lines with a reading are all that a verdict is a matter of, in whatever order. -/
theorem readSample_log {lines telling : List (List UInt8)} (closed : ∀ line ∈ lines, ¬ EndsOpen line)
    (same : (lines.filter hasReading).Perm telling) (tools : MediaTools) (seconds : Nat) (output rest : List UInt8) :
    tools.readSample seconds (.ended (some 0) output (log lines ++ rest)) = .ok (verdict seconds telling rest) := by
  have reports : reported (log lines ++ rest) = (telling.map reported).sum + reported rest := by
    rw [reported_log closed, ← sum_reported_filter, (same.map reported).sum_eq]
  rw [verdict, ← reports]
  rfl

/-- **Black time adds up.** Two texts with a line break between them report what each of them reports, unless the first
ends in a label that waits for its reading; a text reports its first reading and what follows it. So two logs of lines
that are complete are of one verdict if the same of their lines have a reading, in whatever order and with whatever
other lines between them, and if they end alike behind the last line break. -/
theorem total_adds_up :
    (∀ first second : String, ¬ IsOpen first.toList →
      total (first ++ "\n" ++ second) = total first + total second) ∧
    (∀ front blanks digits after : List Char, FirstReading front blanks digits after →
      total (String.ofList (front ++ (label ++ (blanks ++ (digits ++ after))))) =
        (millis? digits).getD 0 + total (String.ofList after)) ∧
    ∀ (tools : MediaTools) (seconds : Nat) (output other rest : List UInt8) (lines reordered : List (List UInt8)),
      (∀ line ∈ lines ++ reordered, ¬ EndsOpen line) →
      (reordered.filter hasReading).Perm (lines.filter hasReading) →
      tools.readSample seconds (.ended (some 0) output (log lines ++ rest)) =
          .ok (verdict seconds (lines.filter hasReading) rest) ∧
        tools.readSample seconds (.ended (some 0) other (log reordered ++ rest)) =
          .ok (verdict seconds (lines.filter hasReading) rest) := by
  refine ⟨fun first second closed => ?_, fun front blanks digits after first => ?_, ?_⟩
  · have seam : (first ++ "\n" ++ second).toList = first.toList ++ '\n' :: second.toList := by simp
    rw [total_eq, seam, readings_append closed, List.filterMap_append, List.sum_append, ← total_eq, ← total_eq]
  · rw [total_eq, String.toList_ofList, readings_first first, total_eq, String.toList_ofList, List.filterMap_cons]
    cases millis? digits with
    | none => rw [Option.getD_none, Nat.zero_add]
    | some millis => rw [Option.getD_some, List.sum_cons]
  · intro tools seconds output other rest lines reordered closed same
    obtain ⟨first, second⟩ := List.forall_mem_append.mp closed
    exact ⟨readSample_log first (.refl _) tools seconds output rest, readSample_log second same tools seconds other rest⟩

/-- Two stretches of black and a line about something else. -/
def twoStretches : List (List UInt8) :=
  ["black_start:0 black_duration:4.5", "frame=  250 fps=0.0", "black_start:5 black_duration: 0.75"].map (·.toUTF8.toList)

/-- The same two stretches with the lines in another order, and another line before them. -/
def otherWayRound : List (List UInt8) :=
  ["black_duration", "black_start:5 black_duration: 0.75", "black_start:0 black_duration:4.5"].map (·.toUTF8.toList)

/-- A label that is cut by a line break is none, and two stretches of black are of one verdict either way round. -/
theorem total_adds_up_twoStretches :
    (¬ IsOpen "black_duration:4.5 black_duration".toList ∧
      total ("black_duration:4.5 black_duration" ++ "\n" ++ ":7 black_duration:\n0.75") =
        total "black_duration:4.5 black_duration" + total ":7 black_duration:\n0.75") ∧
    (FirstReading [':', '7'] ['\n', ' '] ['0', '.', '5'] ['s'] ∧
      total (String.ofList ([':', '7'] ++ (label ++ (['\n', ' '] ++ (['0', '.', '5'] ++ ['s']))))) =
        (millis? ['0', '.', '5']).getD 0 + total (String.ofList ['s'])) ∧
    (∀ line ∈ twoStretches ++ otherWayRound, ¬ EndsOpen line) ∧
    (otherWayRound.filter hasReading).Perm (twoStretches.filter hasReading) ∧
    (⟨"ffprobe", "ffmpeg", default⟩ : MediaTools).readSample 5 (.ended (some 0) [] (log twoStretches ++ [])) =
        .ok (verdict 5 (twoStretches.filter hasReading) []) ∧
      (⟨"ffprobe", "ffmpeg", default⟩ : MediaTools).readSample 5 (.ended (some 0) [] (log otherWayRound ++ [])) =
        .ok (verdict 5 (twoStretches.filter hasReading) []) := by
  have closed : ¬ IsOpen "black_duration:4.5 black_duration".toList := by decide
  have first : FirstReading [':', '7'] ['\n', ' '] ['0', '.', '5'] ['s'] :=
    { unlabelled := by decide
      blank := List.all_eq_true.mp rfl
      full := by decide
      inside := List.all_eq_true.mp rfl
      ends := by
        rintro _ ⟨⟩
        decide }
  have complete : ∀ line ∈ twoStretches ++ otherWayRound, ¬ EndsOpen line := by decide +kernel
  have same : (otherWayRound.filter hasReading).Perm (twoStretches.filter hasReading) := by decide +kernel
  obtain ⟨seam, counts, verdicts⟩ := total_adds_up
  exact ⟨⟨closed, seam _ _ closed⟩, ⟨first, counts _ _ _ _ first⟩, complete, same,
    verdicts _ 5 [] [] [] twoStretches otherWayRound complete same⟩

end StreamWatch.BlackTime
