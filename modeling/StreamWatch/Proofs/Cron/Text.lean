/-
**When a cron expression is read as it stands.**

A text of five words gets a field for the second in front, whatever its words are. Fields can be told apart without
blanks between them, so a whole expression may be of five words too; then every field of it is taken for the next one,
and no expression means the same afterwards.

* `parse?_trim`: an expression is the same without the white space around it;
* `fields_shifted`: with a zero in front each field is read as the next one;
* `not_shifted`: no schedule is that of the fields shifted;
* `parse_eq_ok_iff_wordCount`: an expression is read as it stands just when it has not five words.
-/

import StreamWatch.Proofs.Cron.Expression
import StreamWatch.Cron.Text

namespace StreamWatch.Cron

open StreamWatch.Text

variable {text rest : List Char} {e : Expression}

/-! ### White space around an expression -/

/-- A text without the blanks around it. -/
def bare (text : List Char) : List Char := (skip (skip text).reverse).reverse

theorem exists_skip (text : List Char) : ∃ front, Spaces front ∧ text = front ++ skip text :=
  ⟨_, fun _ among => List.mem_takeWhile_imp among, List.takeWhile_append_dropWhile.symm⟩

/-- Without the blanks at its start a text is what is bare of it, and blanks. -/
theorem exists_bare (text : List Char) : ∃ back, Spaces back ∧ skip text = bare text ++ back := by
  obtain ⟨front, blank, same⟩ := exists_skip (skip text).reverse
  refine ⟨front.reverse, fun c among => blank c (List.mem_reverse.mp among), ?_⟩
  have turned := congrArg List.reverse same
  rwa [List.reverse_reverse, List.reverse_append] at turned

theorem Spaces.isBlanks {spaces : List Char} (blank : Spaces spaces) : IsBlanks spaces :=
  fun c among => isBlank_of_isSpace (blank c among)

/-- The shortcuts are single words with an at sign in front. -/
theorem shortcuts_words : ∀ entry ∈ shortcuts, entry.1.toList.all (fun c => !isBlank c) = true ∧
    entry.1.toList.head? = some '@' ∧ wordCount entry.1.toList = 1 ∧ shortcut? entry.1.toList = some entry.2 := by
  decide

/-- A shortcut has one of these words, and nothing but blanks around it. -/
theorem exists_of_shortcut? (found : shortcut? text = some e) :
    ∃ entry ∈ shortcuts, entry.2 = e ∧ bare text = entry.1.toList := by
  obtain ⟨before, after, among, -⟩ := List.lookup_eq_some_iff.mp found
  refine ⟨(String.ofList (bare text), e), ?_, rfl, String.toList_ofList.symm⟩
  rw [among]
  exact List.mem_append_right _ List.mem_cons_self

/-- A shortcut without the white space around it is its word. -/
theorem trim_of_shortcut? (found : shortcut? text = some e) :
    ∃ entry ∈ shortcuts, entry.2 = e ∧ trim text = entry.1.toList := by
  obtain ⟨entry, among, same, word⟩ := exists_of_shortcut? found
  obtain ⟨solid, -⟩ := shortcuts_words entry among
  obtain ⟨front, first, start⟩ := exists_skip text
  obtain ⟨back, second, finish⟩ := exists_bare text
  refine ⟨entry, among, same, ?_⟩
  have whole : text = front ++ entry.1.toList ++ back := by rw [List.append_assoc, ← word, ← finish, ← start]
  rw [whole, trim_around first.isBlanks second.isBlanks]
  refine trim_of_solid fun c among => ?_
  simpa using List.all_eq_true.mp solid c among

/-- What can be read as fields is no shortcut. -/
theorem shortcut?_of_opens {question : Bool} (opens : Opens question text) : shortcut? text = none := by
  cases found : shortcut? text with
  | none => rfl
  | some e =>
    obtain ⟨entry, among, -, word⟩ := exists_of_shortcut? found
    obtain ⟨-, sign, -⟩ := shortcuts_words entry among
    obtain ⟨back, -, finish⟩ := exists_bare text
    refine absurd ?_ (opens.head_ne (c := '@') (by cases question <;> decide))
    rw [finish, word, List.head?_append, sign]
    rfl

theorem opens_of_fields {found : Expression × List Char} (read : fields text = some found) : Opens false text := by
  rw [fields_eq] at read
  exact (opening_field false).andThen _ _ _ read

/-- The texts that are an expression: shortcuts and fields. -/
theorem parse?_eq_some_iff : Expression.parse? text = some e ↔ shortcut? text = some e ∨ fields text = some (e, []) := by
  have others : Expression.parse? text = (shortcut? text <|>
      (fields text).bind fun found => if found.2 = [] then some found.1 else none) := by
    rw [Expression.parse?]
    rcases fields text with _ | ⟨other, _ | ⟨c, rest⟩⟩ <;> rfl
  rw [others]
  constructor
  · intro read
    cases word : shortcut? text with
    | some other =>
      rw [word] at read
      exact .inl read
    | none =>
      rw [word] at read
      obtain ⟨⟨other, rest⟩, begun, whole⟩ := Option.bind_eq_some_iff.mp read
      obtain ⟨rfl, same⟩ := Option.ite_none_right_eq_some.mp whole
      cases same
      exact .inr begun
  · rintro (word | read)
    · rw [word]
      rfl
    · rw [shortcut?_of_opens (opens_of_fields read), read]
      rfl

theorem field_spaces {question : Bool} {front : List Char} (blank : Spaces front) (text : List Char) :
    field question (front ++ text) = field question text := by
  rw [← field_skip, skip_append blank, field_skip]

theorem fields_spaces {front : List Char} (blank : Spaces front) (text : List Char) :
    fields (front ++ text) = fields text := by
  rw [fields_eq]
  exact congrArg (Option.bind · _) (field_spaces blank text)

/-- Fields are the same without the white space around them. -/
theorem fields_trim (read : fields text = some (e, [])) : fields (trim text) = some (e, []) := by
  obtain ⟨taken, same, blank⟩ := lawful_fields.reads read
  obtain ⟨front, back, first, second, whole⟩ := exists_trim text
  rw [List.append_nil] at same
  subst same
  have start : Spaces front := fun c among => blank c (by rw [whole]; simp [among]) (first c among)
  have finish : Spaces back := fun c among => blank c (by rw [whole]; simp [among]) (second c among)
  have alike : Alike (fields (trim text)) (fields (trim text ++ back)) := lawful_fields.padded ⟨back, finish, rfl⟩
  have unpadded : fields text = fields (trim text ++ back) := calc
    fields text = fields (front ++ trim text ++ back) := congrArg fields whole
    _ = fields (front ++ (trim text ++ back)) := by rw [List.append_assoc]
    _ = fields (trim text ++ back) := fields_spaces start _
  rw [← unpadded, read] at alike
  generalize fields (trim text) = reading at alike ⊢
  cases alike with
  | some value padding =>
    obtain ⟨spaces, -, empty⟩ := padding
    rw [(List.append_eq_nil_iff.mp empty.symm).1]

/-- **An expression is the same without the white space around it.** -/
theorem parse?_trim (read : Expression.parse? text = some e) : Expression.parse? (trim text) = some e := by
  rcases parse?_eq_some_iff.mp read with word | read
  · obtain ⟨entry, among, same, bare⟩ := trim_of_shortcut? word
    obtain ⟨-, -, -, found⟩ := shortcuts_words entry among
    exact parse?_eq_some_iff.mpr (.inl (by rw [bare, found, same]))
  · exact parse?_eq_some_iff.mpr (.inr (fields_trim read))

/-! ### Fields that are shifted -/

/-- **With a zero in front each field is read as the next one**, the hour as the day. -/
theorem fields_shifted {shifted : Expression} {left : List Char} (read : fields text = some (e, rest))
    (again : fields ('0' :: ' ' :: text) = some (shifted, left)) :
    shifted.second = [.plain (.single 0)] ∧ shifted.minute = e.second ∧ shifted.hour = e.minute ∧
      shifted.day = e.hour := by
  have opens := opens_of_fields read
  rw [fields_eq] at read again
  obtain ⟨⟨second, text₁⟩, first, read⟩ := Option.bind_eq_some_iff.mp read
  obtain ⟨⟨minute, text₂⟩, next, read⟩ := Option.bind_eq_some_iff.mp read
  obtain ⟨⟨hour, text₃⟩, last, read⟩ := Option.bind_eq_some_iff.mp read
  obtain ⟨⟨day, text₄⟩, after, read⟩ := Option.bind_eq_some_iff.mp read
  obtain ⟨_, -, read⟩ := Option.bind_eq_some_iff.mp read
  obtain ⟨_, -, read⟩ := Option.bind_eq_some_iff.mp read
  obtain ⟨_, -, read⟩ := Option.bind_eq_some_iff.mp read
  cases read
  have unfinished : text₃.head? ≠ some ',' := (opening_field true _ _ after).first_ne (by decide) (by decide)
  rw [andThen, field_zero opens, Option.bind_some, andThen, field_skip, first, Option.bind_some, andThen, next,
    Option.bind_some, andThen, field_question last unfinished, Option.bind_some] at again
  obtain ⟨_, -, again⟩ := Option.bind_eq_some_iff.mp again
  obtain ⟨_, -, again⟩ := Option.bind_eq_some_iff.mp again
  obtain ⟨_, -, again⟩ := Option.bind_eq_some_iff.mp again
  cases again
  exact ⟨rfl, rfl, rfl, rfl⟩

/-! ### The values of shifted fields -/

/-- What is worked out of the roots of a field is worked out of each of them. -/
theorem roots_of_mapM {r : Range} {field : Field} {roots : List (Nat × Nat × Nat)}
    (read : field.mapM (Root.steps? r) = some roots) :
    (∀ root ∈ field, ∃ steps ∈ roots, root.steps? r = some steps) ∧
      ∀ steps ∈ roots, ∃ root ∈ field, root.steps? r = some steps := by
  induction field generalizing roots with
  | nil =>
    cases read
    exact ⟨List.forall_mem_nil _, List.forall_mem_nil _⟩
  | cons first rest ih =>
    rw [List.mapM_cons] at read
    obtain ⟨steps, begun, read⟩ := Option.bind_eq_some_iff.mp read
    obtain ⟨others, later, read⟩ := Option.bind_eq_some_iff.mp read
    cases read
    obtain ⟨each, back⟩ := ih later
    refine ⟨List.forall_mem_cons.mpr ⟨⟨steps, List.mem_cons_self, begun⟩, fun root among => ?_⟩,
      List.forall_mem_cons.mpr ⟨⟨first, List.mem_cons_self, begun⟩, fun other among => ?_⟩⟩
    · obtain ⟨other, there, same⟩ := each root among
      exact ⟨other, List.mem_cons_of_mem _ there, same⟩
    · obtain ⟨root, there, same⟩ := back other among
      exact ⟨root, List.mem_cons_of_mem _ there, same⟩

/-- The values of a field are those in range that one of its roots has. -/
theorem mem_values? {r : Range} {field : Field} {values : List Nat} (found : field.values? r = some values) {n : Nat} :
    n ∈ values ↔ (r.low ≤ n ∧ n ≤ r.high) ∧ ∃ root ∈ field, ∃ low high step,
      root.steps? r = some (low, high, step) ∧ low ≤ n ∧ n ≤ high ∧ (n - low) % step = 0 := by
  obtain ⟨roots, read, rfl⟩ := Option.map_eq_some_iff.mp found
  obtain ⟨each, back⟩ := roots_of_mapM read
  have range : n ∈ List.range' r.low (r.high + 1 - r.low) ↔ r.low ≤ n ∧ n ≤ r.high := by
    rw [List.mem_range'_1]
    omega
  rw [List.mem_filter, range, List.any_eq_true]
  refine and_congr_right' ⟨?_, ?_⟩
  · rintro ⟨⟨low, high, step⟩, inside, holds⟩
    obtain ⟨root, written, steps⟩ := back _ inside
    simp only [Bool.and_eq_true, decide_eq_true_eq, beq_iff_eq] at holds
    exact ⟨root, written, low, high, step, steps, holds.1.1, holds.1.2, holds.2⟩
  · rintro ⟨root, written, low, high, step, steps, least, most, even⟩
    obtain ⟨known, inside, same⟩ := each root written
    cases steps.symm.trans same
    refine ⟨(low, high, step), inside, ?_⟩
    simp only [Bool.and_eq_true, decide_eq_true_eq, beq_iff_eq]
    exact ⟨⟨least, most⟩, even⟩

/-- Every root of a field whose values are in range has its own in range. -/
theorem steps?_of_values? {r : Range} {field : Field} {values : List Nat} (found : field.values? r = some values)
    {root : Root} (written : root ∈ field) : ∃ low high step, root.steps? r = some (low, high, step) := by
  obtain ⟨roots, read, -⟩ := Option.map_eq_some_iff.mp found
  obtain ⟨⟨low, high, step⟩, -, steps⟩ := (roots_of_mapM read).1 root written
  exact ⟨low, high, step, steps⟩

/-- Taken for hours a span ends no later than taken for minutes, and begins with the same. -/
theorem bounds?_hours {span : Span} {thinned : Bool} {low high low' high' : Nat}
    (minutes : span.bounds? .sixty thinned = some (low, high)) (hours : span.bounds? .hours thinned = some (low', high')) :
    low' = low ∧ high' ≤ high := by
  cases span with
  | all =>
    cases minutes
    cases hours
    exact ⟨rfl, by decide⟩
  | between first last =>
    cases (Option.ite_none_right_eq_some.mp minutes).2
    cases (Option.ite_none_right_eq_some.mp hours).2
    exact ⟨rfl, Nat.le_refl _⟩
  | single n =>
    cases (Option.ite_none_right_eq_some.mp minutes).2
    cases (Option.ite_none_right_eq_some.mp hours).2
    cases thinned
    · exact ⟨rfl, Nat.le_refl _⟩
    · exact ⟨rfl, (by decide : 23 ≤ 59)⟩
  | named => exact nomatch hours

/-- Taken for hours a root begins with the same value as taken for minutes, goes by the same step and ends no later. -/
theorem steps?_hours {root : Root} {low high step low' high' step' : Nat}
    (minutes : root.steps? .sixty = some (low, high, step)) (hours : root.steps? .hours = some (low', high', step')) :
    low' = low ∧ step' = step ∧ high' ≤ high := by
  cases root with
  | every span count =>
    obtain ⟨⟨_, _⟩, inMinutes, minutes⟩ := Option.bind_eq_some_iff.mp minutes
    obtain ⟨⟨_, _⟩, inHours, hours⟩ := Option.bind_eq_some_iff.mp hours
    obtain ⟨same, sooner⟩ := bounds?_hours inMinutes inHours
    cases (Option.ite_none_right_eq_some.mp minutes).2
    cases (Option.ite_none_right_eq_some.mp hours).2
    exact ⟨same, rfl, sooner⟩
  | plain span =>
    obtain ⟨⟨_, _⟩, inMinutes, minutes⟩ := Option.map_eq_some_iff.mp minutes
    obtain ⟨⟨_, _⟩, inHours, hours⟩ := Option.map_eq_some_iff.mp hours
    obtain ⟨same, sooner⟩ := bounds?_hours inMinutes inHours
    cases minutes
    cases hours
    exact ⟨same, rfl, sooner⟩
  | named => exact nomatch hours

/-- A span that begins with zero as hours, and has any values as days, is a star. -/
theorem bounds?_star {span : Span} {thinned : Bool} {high : Nat} {days : Nat × Nat}
    (hours : span.bounds? .hours thinned = some (0, high)) (other : span.bounds? .days thinned = some days) :
    high = 23 := by
  cases span with
  | all =>
    cases hours
    rfl
  | between first last =>
    rw [Span.bounds?, Option.ite_none_right_eq_some] at hours other
    cases hours.2
    exact absurd other.1.1 (by decide)
  | single n =>
    rw [Span.bounds?, Option.ite_none_right_eq_some] at hours other
    cases hours.2
    exact absurd other.1 (by decide)
  | named => exact nomatch hours

/-- A root that begins with zero as hours, and has any values as days, is a star, thinned out or not. -/
theorem steps?_star {root : Root} {high step : Nat} {days : Nat × Nat × Nat}
    (hours : root.steps? .hours = some (0, high, step)) (other : root.steps? .days = some days) :
    high = 23 ∧ 1 ≤ step ∧ step ≤ 23 := by
  cases root with
  | every span count =>
    obtain ⟨⟨_, _⟩, inHours, hours⟩ := Option.bind_eq_some_iff.mp hours
    obtain ⟨_, inDays, -⟩ := Option.bind_eq_some_iff.mp other
    obtain ⟨bounds, same⟩ := Option.ite_none_right_eq_some.mp hours
    cases same
    exact ⟨bounds?_star inHours inDays, bounds⟩
  | plain span =>
    obtain ⟨⟨_, _⟩, inHours, hours⟩ := Option.map_eq_some_iff.mp hours
    obtain ⟨_, inDays, -⟩ := Option.map_eq_some_iff.mp other
    cases hours
    exact ⟨bounds?_star inHours inDays, by decide, by decide⟩
  | named => exact nomatch hours

/-- **No schedule is that of the fields shifted**: if the minutes are zero alone, what is written for them and for the
hours cannot stand for the same as hours, with what is written for the hours standing for days. -/
theorem not_shifted {minute hour : Field} {hours days : List Nat} (minutes : minute.values? .sixty = some [0])
    (shifted : minute.values? .hours = some hours) (own : hour.values? .hours = some hours)
    (last : hour.values? .days = some days) : False := by
  -- the minutes begin with zero, so the hours do
  have midnight : 0 ∈ hours := by
    obtain ⟨-, root, written, low, high, step, steps, least, -⟩ := (mem_values? minutes).mp List.mem_cons_self
    obtain ⟨low', high', step', inHours⟩ := steps?_of_values? shifted written
    obtain ⟨rfl, -⟩ := steps?_hours steps inHours
    obtain rfl := Nat.le_zero.mp least
    exact (mem_values? shifted).mpr ⟨by decide, root, written, 0, high', step', inHours, Nat.le_refl 0, Nat.zero_le _,
      Nat.zero_mod _⟩
  -- so there is a star among the hours, and with it a later hour
  have later : ∃ hour ∈ hours, 1 ≤ hour := by
    obtain ⟨-, root, written, low, high, step, steps, least, -⟩ := (mem_values? own).mp midnight
    obtain rfl := Nat.le_zero.mp least
    obtain ⟨_, _, _, inDays⟩ := steps?_of_values? last written
    obtain ⟨rfl, positive, small⟩ := steps?_star steps inDays
    exact ⟨step, (mem_values? own).mpr ⟨⟨Nat.zero_le _, small⟩, root, written, 0, 23, step, steps, Nat.zero_le _, small,
      Nat.mod_self step⟩, positive⟩
  -- which then is a minute as well
  obtain ⟨hour, among, positive⟩ := later
  obtain ⟨range, root, written, low, high, step, steps, least, most, even⟩ := (mem_values? shifted).mp among
  obtain ⟨low', high', step', inMinutes⟩ := steps?_of_values? minutes written
  obtain ⟨rfl, rfl, wider⟩ := steps?_hours inMinutes steps
  have minute : hour ∈ [0] := (mem_values? minutes).mpr ⟨⟨range.1, Nat.le_trans range.2 (by decide)⟩, root, written, low,
    high', step, inMinutes, least, Nat.le_trans most wider, even⟩
  rw [List.mem_singleton.mp minute] at positive
  exact absurd positive (by decide)

/-! ### Expressions as they stand -/

theorem normalize_eq (text : String) : normalize text =
    (if wordCount text.toList = 5 then "0 " else "") ++ String.ofList (trim text.toList) := by
  rw [normalize, wordCount_trim]
  split
  · rfl
  · rw [String.empty_append]

variable {text : String} {s : Schedule}

/-- A schedule is the same without the white space around its text. -/
theorem schedule?_trim (read : schedule? text = some s) : schedule? (String.ofList (trim text.toList)) = some s := by
  obtain ⟨e, read, scheduled⟩ := Option.bind_eq_some_iff.mp read
  rw [schedule?, String.toList_ofList, parse?_trim read, Option.bind_some, scheduled]

theorem parse_eq_ok_iff_schedule? : parse text = .ok s ↔ schedule? (normalize text) = some s := by
  delta parse
  cases schedule? (normalize text) <;> simp

theorem toList_zero (text : List Char) : ("0 " ++ String.ofList text).toList = '0' :: ' ' :: text :=
  String.toList_append.trans (congrArg₂ (· ++ ·) (by decide : "0 ".toList = ['0', ' ']) String.toList_ofList)

theorem values?_of_schedule? {e : Expression} (scheduled : e.schedule? = some s) :
    e.second.values? .sixty = some s.seconds ∧ e.minute.values? .sixty = some s.minutes ∧
      e.hour.values? .hours = some s.hours ∧ e.day.values? .days = some s.days := by
  simp only [Expression.schedule?, Option.bind_eq_bind, Option.bind_eq_some_iff] at scheduled
  obtain ⟨_, second, _, minute, _, hour, _, day, _, -, _, -, _, -, same⟩ := scheduled
  cases same
  exact ⟨second, minute, hour, day⟩

/-- With five words there is no expression that is the same with a zero in front. -/
theorem schedule?_zero_ne (read : schedule? text = some s) (five : wordCount text.toList = 5) :
    schedule? ("0 " ++ String.ofList (trim text.toList)) ≠ some s := by
  intro again
  obtain ⟨e, parsed, scheduled⟩ := Option.bind_eq_some_iff.mp read
  have read : fields (trim text.toList) = some (e, []) := by
    rcases parse?_eq_some_iff.mp parsed with word | read
    · obtain ⟨entry, among, -, word⟩ := trim_of_shortcut? word
      obtain ⟨-, -, single, -⟩ := shortcuts_words entry among
      rw [← wordCount_trim, word, single] at five
      exact absurd five (by decide)
    · exact fields_trim read
  have opens := opens_of_fields read
  obtain ⟨shifted, parsed, rescheduled⟩ := Option.bind_eq_some_iff.mp again
  have again : fields ('0' :: ' ' :: trim text.toList) = some (shifted, []) := by
    rw [toList_zero] at parsed
    rcases parse?_eq_some_iff.mp parsed with word | read
    · have opens : Opens false ('0' :: ' ' :: trim text.toList) := ⟨'0', rfl, by decide⟩
      rw [shortcut?_of_opens opens] at word
      exact nomatch word
    · exact read
  obtain ⟨second, minute, hour, day⟩ := fields_shifted read again
  obtain ⟨seconds, minutes, hours, -⟩ := values?_of_schedule? scheduled
  obtain ⟨seconds', minutes', hours', days'⟩ := values?_of_schedule? rescheduled
  rw [second] at seconds'
  rw [minute, seconds] at minutes'
  rw [hour] at hours'
  rw [day] at days'
  have zero : s.seconds = [0] := Option.some.inj (seconds'.symm.trans (by decide))
  rw [← Option.some.inj minutes', zero] at minutes
  exact not_shifted minutes hours' hours days'

/-- An expression of five words is not read as it stands. -/
theorem parse_ne_of_fiveWords (read : schedule? text = some s) (five : wordCount text.toList = 5) :
    parse text ≠ .ok s := by
  rw [ne_eq, parse_eq_ok_iff_schedule?, normalize_eq, if_pos five]
  exact schedule?_zero_ne read five

/-- **An expression is read as it stands just when it has not five words.** -/
theorem parse_eq_ok_iff_wordCount (text : String) (s : Schedule) (read : schedule? text = some s) :
    parse text = .ok s ↔ wordCount text.toList ≠ 5 := by
  refine ⟨fun same five => parse_ne_of_fiveWords read five same, fun other => ?_⟩
  rw [parse_eq_ok_iff_schedule?, normalize_eq, if_neg other, String.empty_append]
  exact schedule?_trim read

/-- Every day at three, in six words and in five. -/
theorem parse_three_o_clock : ∃ s s',
    (schedule? "0 0 3 * * *" = some s ∧ parse "0 0 3 * * *" = .ok s) ∧
    schedule? "0 0 3 * **" = some s' ∧ parse "0 0 3 * **" ≠ .ok s' := by
  obtain ⟨s, six⟩ := Option.isSome_iff_exists.mp (by decide : (schedule? "0 0 3 * * *").isSome = true)
  obtain ⟨s', five⟩ := Option.isSome_iff_exists.mp (by decide : (schedule? "0 0 3 * **").isSome = true)
  exact ⟨s, s', ⟨six, (parse_eq_ok_iff_wordCount _ s six).mpr (by decide)⟩, five,
    fun same => (parse_eq_ok_iff_wordCount _ s' five).mp same (by decide)⟩

/-- Six fields in five words are taken for five, so that not every expression is read as it stands. -/
theorem not_forall_parse_eq : ¬ ∀ text s, schedule? text = some s → parse text = .ok s := by
  intro all
  obtain ⟨s, read⟩ := Option.isSome_iff_exists.mp (by decide : (schedule? "0 0 3 * **").isSome = true)
  exact parse_ne_of_fiveWords read (by decide) (all _ s read)

end StreamWatch.Cron
