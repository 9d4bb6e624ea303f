/-
**White space around texts.**

A text is the white space at its start, the text trimmed, and the white space at its end. Whatever white space is
put around a text is trimmed away again, and has no words in it.

* `takeWhile_append_cons`: a run of characters of a class ends at a character that is not of it;
* `exists_trim`: the parts of a text;
* `trim_around`, `trim_append_cons`: what is left of a text with white space around it, or around a part of it;
* `splitOnce?_append_cons`: where a text is cut;
* `wordCount_trim`: the words of a text are those of the text trimmed.
-/

import Mathlib.Data.List.TakeWhile
import StreamWatch.Text.Blank

namespace StreamWatch.Text

/-- Whether a text is white space all through. -/
def IsBlanks (text : List Char) : Prop := ∀ c ∈ text, isBlank c = true

variable {front back text : List Char}

theorem isBlanks_nil : IsBlanks [] := List.forall_mem_nil _

theorem IsBlanks.reverse (blanks : IsBlanks text) : IsBlanks text.reverse :=
  fun c among => blanks c (List.mem_reverse.mp among)

/-! ### Runs -/

section
variable {class? : Char → Bool} {c : Char} (outside : ¬ class? c = true)
include outside

/-- A run of characters of a class ends at a character that is not of it. -/
theorem takeWhile_append_cons (left right : List Char) :
    (left ++ c :: right).takeWhile class? = left.takeWhile class? := by
  have ends : (c :: right).takeWhile class? = [] := List.takeWhile_cons_of_neg outside
  rw [List.takeWhile_append, ends, List.append_nil]
  split
  · next whole => exact ((List.takeWhile_prefix class?).eq_of_length whole).symm
  · rfl

theorem dropWhile_append_cons (left right : List Char) :
    (left ++ c :: right).dropWhile class? = left.dropWhile class? ++ c :: right := by
  have stays : (c :: right).dropWhile class? = c :: right := List.dropWhile_cons_of_neg outside
  rw [List.dropWhile_append, stays]
  split
  · next empty => rw [List.isEmpty_iff.mp empty, List.nil_append]
  · rfl

end

/-! ### Trimming -/

theorem trimStart_append (blanks : IsBlanks front) : trimStart (front ++ text) = trimStart text :=
  List.dropWhile_append_of_pos blanks

theorem trimEnd_append (blanks : IsBlanks back) : trimEnd (text ++ back) = trimEnd text := by
  rw [trimEnd, trimEnd, List.reverse_append, List.dropWhile_append_of_pos blanks.reverse]

theorem exists_trimStart (text : List Char) : ∃ front, IsBlanks front ∧ text = front ++ trimStart text :=
  ⟨_, fun _ among => List.mem_takeWhile_imp among, List.takeWhile_append_dropWhile.symm⟩

theorem exists_trimEnd (text : List Char) : ∃ back, IsBlanks back ∧ text = trimEnd text ++ back := by
  obtain ⟨front, blanks, same⟩ := exists_trimStart text.reverse
  refine ⟨front.reverse, blanks.reverse, ?_⟩
  have turned := congrArg List.reverse same
  rwa [List.reverse_reverse, List.reverse_append] at turned

/-- **A text** is the white space at its start, the text trimmed, and the white space at its end. -/
theorem exists_trim (text : List Char) :
    ∃ front back, IsBlanks front ∧ IsBlanks back ∧ text = front ++ trim text ++ back := by
  obtain ⟨front, first, same⟩ := exists_trimStart text
  obtain ⟨back, second, rest⟩ := exists_trimEnd (trimStart text)
  exact ⟨front, back, first, second, by rw [List.append_assoc, trim, ← rest, ← same]⟩

/-- White space at the end of a text does not keep the white space at its start. -/
theorem trimEnd_trimStart_append (blanks : IsBlanks back) :
    trimEnd (trimStart (text ++ back)) = trimEnd (trimStart text) := by
  rw [trimStart, List.dropWhile_append]
  split
  · next empty =>
    have start : trimStart text = [] := List.isEmpty_iff.mp empty
    have finish : back.dropWhile isBlank = [] := List.dropWhile_eq_nil_iff.mpr blanks
    rw [start, finish]
  · exact trimEnd_append blanks

/-- **White space around a text** is trimmed away. -/
theorem trim_around (first : IsBlanks front) (second : IsBlanks back) : trim (front ++ text ++ back) = trim text := by
  rw [List.append_assoc, trim, trimStart_append first, trimEnd_trimStart_append second, trim]

theorem trimStart_append_cons {c : Char} (solid : isBlank c = false) (left right : List Char) :
    trimStart (left ++ c :: right) = trimStart left ++ c :: right :=
  dropWhile_append_cons (Bool.eq_false_iff.mp solid) left right

theorem trimEnd_append_cons {c : Char} (solid : isBlank c = false) (left right : List Char) :
    trimEnd (left ++ c :: right) = left ++ c :: trimEnd right := by
  have turned := congrArg List.reverse (trimStart_append_cons solid right.reverse left.reverse)
  rw [List.reverse_append, List.reverse_cons, List.reverse_reverse, List.append_assoc] at turned
  rwa [trimEnd, List.reverse_append, List.reverse_cons, List.append_assoc]

/-- What stands on both sides of a character that is not white space is trimmed at the far ends only. -/
theorem trim_append_cons {c : Char} (solid : isBlank c = false) (left right : List Char) :
    trim (left ++ c :: right) = trimStart left ++ c :: trimEnd right := by
  rw [trim, trimStart_append_cons solid, trimEnd_append_cons solid]

/-- Without white space at its start and at its end a text is trimmed already. -/
theorem trim_of_solid (solid : ∀ c ∈ text, isBlank c = false) : trim text = text := by
  have start (text : List Char) (solid : ∀ c ∈ text, isBlank c = false) : trimStart text = text := by
    cases text with
    | nil => rfl
    | cons c rest => exact trimStart_append_cons (solid c List.mem_cons_self) [] rest
  rw [trim, start text solid, trimEnd]
  exact (congrArg List.reverse (start text.reverse fun c among => solid c (List.mem_reverse.mp among))).trans
    (List.reverse_reverse text)

/-! ### Cutting -/

/-- A text is cut at its first separator. -/
theorem splitOnce?_append_cons {isSeparator : Char → Bool} {before : List Char} {c : Char}
    (clean : ∀ b ∈ before, isSeparator b = false) (separates : isSeparator c = true) (after : List Char) :
    splitOnce? isSeparator (before ++ c :: after) = some (before, after) := by
  induction before with
  | nil => exact if_pos separates
  | cons b rest ih =>
    obtain ⟨other, later⟩ := List.forall_mem_cons.mp clean
    rw [List.cons_append, splitOnce?, if_neg (by rw [other]; exact Bool.false_ne_true), ih later]
    rfl

/-! ### Counting words -/

/-- The number of words so far and whether one is going on, after another character. -/
def readWord : Nat × Bool → Char → Nat × Bool
  | (count, inWord), c => if isBlank c then (count, false) else (if inWord then count else count + 1, true)

theorem wordCount_eq (text : List Char) : wordCount text = (text.foldl readWord (0, false)).1 := rfl

/-- In white space no word begins. -/
theorem foldl_readWord_blanks (blanks : IsBlanks text) (count : Nat) (inWord : Bool) :
    text.foldl readWord (count, inWord) = (count, inWord && text.isEmpty) := by
  induction text generalizing inWord with
  | nil => simp
  | cons c rest ih =>
    obtain ⟨blank, later⟩ := List.forall_mem_cons.mp blanks
    rw [List.foldl_cons, readWord, if_pos blank, ih later]
    simp

/-- **The words of a text** are those of the text trimmed. -/
theorem wordCount_trim (text : List Char) : wordCount (trim text) = wordCount text := by
  obtain ⟨front, back, first, second, same⟩ := exists_trim text
  have whole : wordCount text = wordCount (front ++ trim text ++ back) := congrArg wordCount same
  rw [whole, wordCount_eq, wordCount_eq, List.foldl_append, List.foldl_append, foldl_readWord_blanks first,
    Bool.false_and]
  obtain ⟨count, inWord⟩ := (trim text).foldl readWord (0, false)
  rw [foldl_readWord_blanks second]

end StreamWatch.Text
