/-
**Resolutions as they are written and read.**

A resolution is written as its width and its height with an `x` between them, and read from any text that is two
numerals with an `x` of either case between them, white space around each let pass.

* `Resolution.Written`: the texts that are a resolution, by their form;
* `pixels?_eq_some_iff`: just these are read, as the product of their sides;
* `pixels?_format`: what is written for a picture is read as its number of pixels.
-/

import StreamWatch.Proofs.Number.Decimal
import StreamWatch.Proofs.Text.Blank
import StreamWatch.Stats.Metrics

namespace StreamWatch.Resolution

open Number Text

/-! ### Numerals with white space around them -/

/-- Whether a text is a numeral of a number, with white space around it or none. -/
def IsPaddedNumeral (text : List Char) (n : UInt64) : Prop :=
  ∃ front numeral back, IsBlanks front ∧ IsBlanks back ∧ IsNumeral numeral n ∧ text = front ++ numeral ++ back

/-- What separates the sides of a resolution. -/
def IsSeparator (c : Char) : Prop := c = 'x' ∨ c = 'X'

/-- **The texts that are a resolution**: its two sides as numerals, a separator between them, and white space around
each of them or none. -/
def Written (text : List Char) (width height : UInt64) : Prop :=
  ∃ left separator right, IsPaddedNumeral left width ∧ IsSeparator separator ∧ IsPaddedNumeral right height ∧
    text = left ++ separator :: right

variable {text left right front back : List Char} {n width height : UInt64}

/-- A digit or a sign is no white space. -/
theorem isBlank_of_numeral {c : Char} (numeral : c.isDigit = true ∨ c = '+') : isBlank c = false := by
  rcases numeral with digit | rfl
  · have low : 48 ≤ c.toNat := (of_decide_eq_true (Bool.and_eq_true_iff.mp digit).1 : 48 ≤ c.val)
    have high : c.toNat ≤ 57 := (of_decide_eq_true (Bool.and_eq_true_iff.mp digit).2 : c.val ≤ 57)
    simp only [isBlank, Bool.or_eq_false_iff, Bool.and_eq_false_iff, decide_eq_false_iff_not, beq_eq_false_iff_ne]
    omega
  · decide

/-- What separates the sides of a resolution is neither white space nor a part of a numeral. -/
theorem IsSeparator.stands_out {c : Char} (separates : IsSeparator c) :
    isBlank c = false ∧ ¬ (c.isDigit = true ∨ c = '+') := by
  rcases separates with rfl | rfl <;> decide

theorem not_isSeparator_of_padded (padded : IsPaddedNumeral text n) : ∀ c ∈ text, ¬ IsSeparator c := by
  obtain ⟨front, numeral, back, first, second, written, rfl⟩ := padded
  intro c among separates
  obtain ⟨solid, apart⟩ := separates.stands_out
  have unblank : isBlank c ≠ true := by rw [solid]; exact Bool.false_ne_true
  rcases List.mem_append.mp among with early | late
  · rcases List.mem_append.mp early with early | inside
    · exact unblank (first c early)
    · exact apart (written.mem c inside)
  · exact unblank (second c late)

/-- A padded numeral is a text that is read as that number once it is trimmed. -/
theorem isPaddedNumeral_iff : IsPaddedNumeral text n ↔ word? (trim text) = some n := by
  rw [word?_eq_some_iff]
  constructor
  · rintro ⟨front, numeral, back, first, second, written, rfl⟩
    rwa [trim_around first second, trim_of_solid fun c among => isBlank_of_numeral (written.mem c among)]
  · intro written
    obtain ⟨front, back, first, second, same⟩ := exists_trim text
    exact ⟨front, trim text, back, first, second, written, same⟩

/-- More white space around a padded numeral makes no difference. -/
theorem isPaddedNumeral_around (first : IsBlanks front) (second : IsBlanks back) :
    IsPaddedNumeral (front ++ text ++ back) n ↔ IsPaddedNumeral text n := by
  rw [isPaddedNumeral_iff, isPaddedNumeral_iff, trim_around first second]

theorem isPaddedNumeral_trimStart : IsPaddedNumeral (trimStart text) n ↔ IsPaddedNumeral text n := by
  obtain ⟨front, blanks, same⟩ := exists_trimStart text
  have around : IsPaddedNumeral (front ++ trimStart text ++ []) n ↔ IsPaddedNumeral (trimStart text) n :=
    isPaddedNumeral_around blanks isBlanks_nil
  rw [List.append_nil, ← same] at around
  exact around.symm

theorem isPaddedNumeral_trimEnd : IsPaddedNumeral (trimEnd text) n ↔ IsPaddedNumeral text n := by
  obtain ⟨back, blanks, same⟩ := exists_trimEnd text
  have around : IsPaddedNumeral ([] ++ trimEnd text ++ back) n ↔ IsPaddedNumeral (trimEnd text) n :=
    isPaddedNumeral_around isBlanks_nil blanks
  rw [List.nil_append, ← same] at around
  exact around.symm

/-! ### Resolutions -/

theorem written_iff_separated : Written text width height ↔
    ∃ left right, splitOnce? (fun c => c == 'x' || c == 'X') (trim text) = some (left, right) ∧
      IsPaddedNumeral left width ∧ IsPaddedNumeral right height := by
  have separates {c : Char} : (c == 'x' || c == 'X') = true ↔ IsSeparator c := by
    rw [Bool.or_eq_true, beq_iff_eq, beq_iff_eq, IsSeparator]
  constructor
  · rintro ⟨left, c, right, wide, separator, high, rfl⟩
    have wide := isPaddedNumeral_trimStart.mpr wide
    refine ⟨trimStart left, trimEnd right, ?_, wide, isPaddedNumeral_trimEnd.mpr high⟩
    rw [trim_append_cons separator.stands_out.1]
    refine splitOnce?_append_cons (fun b among => ?_) (separates.mpr separator) _
    exact Bool.eq_false_iff.mpr fun other => not_isSeparator_of_padded wide b among (separates.mp other)
  · rintro ⟨left, right, cut, wide, high⟩
    obtain ⟨c, separator, same, -⟩ := splitOnce?_eq_some cut
    obtain ⟨front, back, first, second, whole⟩ := exists_trim text
    refine ⟨front ++ left, c, right ++ back, ?_, separates.mp separator, ?_, ?_⟩
    · have around : IsPaddedNumeral (front ++ left ++ []) width ↔ IsPaddedNumeral left width :=
        isPaddedNumeral_around first isBlanks_nil
      rw [List.append_nil] at around
      exact around.mpr wide
    · have around : IsPaddedNumeral ([] ++ right ++ back) height ↔ IsPaddedNumeral right height :=
        isPaddedNumeral_around isBlanks_nil second
      exact around.mpr high
    · rw [whole, same]
      simp only [List.append_assoc, List.cons_append]

/-- **A text is read as a number of pixels** just when it is a resolution, and then as the product of its sides. -/
theorem pixels?_eq_some_iff {text : String} {pixels : UInt64} :
    pixels? text = some pixels ↔ ∃ width height, Written text.toList width height ∧ pixels = width * height := by
  have read : pixels? text = some pixels ↔ ∃ left right,
      splitOnce? (fun c => c == 'x' || c == 'X') (trim text.toList) = some (left, right) ∧
        ∃ width, word? (trim left) = some width ∧ ∃ height, word? (trim right) = some height ∧
          width * height = pixels := by
    simp only [pixels?, bind, Option.bind_eq_some_iff, pure, Option.some.injEq, Prod.exists]
  rw [read]
  simp only [written_iff_separated, isPaddedNumeral_iff]
  constructor
  · rintro ⟨left, right, cut, width, wide, height, high, rfl⟩
    exact ⟨width, height, ⟨left, right, cut, wide, high⟩, rfl⟩
  · rintro ⟨width, height, ⟨left, right, cut, wide, high⟩, rfl⟩
    exact ⟨left, right, cut, width, wide, height, high, rfl⟩

theorem isPaddedNumeral_toString (n : UInt64) : IsPaddedNumeral (toString n.toNat).toList n :=
  ⟨[], _, [], isBlanks_nil, isBlanks_nil, isNumeral_toString n, (List.append_nil _).symm⟩

/-- What is written for a picture is a resolution, with its sides. -/
theorem written_format (width height : UInt64) : Written (format width height).toList width height := by
  refine ⟨_, 'x', _, isPaddedNumeral_toString width, .inl rfl, isPaddedNumeral_toString height, ?_⟩
  rw [format, String.toList_append, String.toList_append, List.append_assoc]
  rfl

/-- **What is written for a picture** is read as its number of pixels. -/
theorem pixels?_format (width height : UInt64) : pixels? (format width height) = some (width * height) :=
  pixels?_eq_some_iff.mpr ⟨width, height, written_format width height, rfl⟩

end StreamWatch.Resolution
