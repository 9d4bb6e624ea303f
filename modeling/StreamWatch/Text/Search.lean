/-
**Looking for phrases in texts.**

* `afterStart?_eq_some_iff`: what follows an expected beginning is all but that beginning;
* `splitAt?_eq_some`: a text cut at a phrase is the part before, the phrase and the part after.
-/

import StreamWatch.Text.Blank

namespace StreamWatch.Text

/-- The text before the first place where a phrase stands, and the text after it. -/
def splitAt? (phrase : List Char) : List Char → Option (List Char × List Char)
  | [] => if phrase.isEmpty then some ([], []) else none
  | c :: rest =>
    match afterStart? phrase (c :: rest) with
    | some after => some ([], after)
    | none => (splitAt? phrase rest).map fun (before, after) => (c :: before, after)

/-- Whether a phrase stands somewhere in a text. -/
def mentions (phrase text : List Char) : Bool := (splitAt? phrase text).isSome

/-- A text with a phrase replaced, so many times at most. -/
def replaceTimes (phrase value : List Char) : (times : Nat) → List Char → List Char
  | 0, text => text
  | times + 1, text =>
    match splitAt? phrase text with
    | some (before, after) => before ++ value ++ replaceTimes phrase value times after
    | none => text

/-- A text with a phrase replaced wherever it stands. -/
def replaceAll (phrase value text : String) : String :=
  String.ofList (replaceTimes phrase.toList value.toList text.length text.toList)

theorem afterStart?_eq_some {start text after : List Char} (cut : afterStart? start text = some after) :
    text = start ++ after := by
  induction start generalizing text with
  | nil => simpa [afterStart?] using cut
  | cons s start ih =>
    cases text with
    | nil => simp [afterStart?] at cut
    | cons c text =>
      rw [afterStart?] at cut
      split at cut
      · next same => simp [same, ih cut]
      · simp at cut

theorem afterStart?_append (start after : List Char) : afterStart? start (start ++ after) = some after := by
  induction start with
  | nil => rfl
  | cons s start ih => exact (if_pos rfl).trans ih

/-- What follows an expected beginning is all but that beginning. -/
theorem afterStart?_eq_some_iff {start text after : List Char} :
    afterStart? start text = some after ↔ text = start ++ after :=
  ⟨afterStart?_eq_some, fun same => same ▸ afterStart?_append start after⟩

/-- A text cut at a phrase is the part before, the phrase and the part after. -/
theorem splitAt?_eq_some {phrase text before after : List Char}
    (cut : splitAt? phrase text = some (before, after)) : text = before ++ phrase ++ after := by
  induction text generalizing before with
  | nil =>
    rw [splitAt?] at cut
    split at cut
    · next empty => simp_all [List.isEmpty_iff]
    · simp at cut
  | cons c rest ih =>
    rw [splitAt?] at cut
    split at cut
    · next found =>
      simp only [Option.some.injEq, Prod.mk.injEq] at cut
      obtain ⟨rfl, rfl⟩ := cut
      simpa using afterStart?_eq_some found
    · simp only [Option.map_eq_some_iff, Prod.mk.injEq, Prod.exists] at cut
      obtain ⟨front, back, same, rfl, rfl⟩ := cut
      simp [ih same]

end StreamWatch.Text
