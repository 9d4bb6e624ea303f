/-
**White space, trimming and cutting of text.**

Text is handled as a list of characters. White space is the Unicode property `White_Space`, which is
wider than the blanks of `Char.isWhitespace`:

* `isBlank_of_isWhitespace`: every blank of the core library is white space here;
* `splitOnce?_eq_some`: a text cut at its first separator is the two parts around that separator.
-/

namespace StreamWatch.Text

/-- Whether a character has the Unicode property `White_Space`. -/
def isBlank (c : Char) : Bool :=
  let n := c.toNat
  (0x09 ≤ n && n ≤ 0x0D) || n == 0x20 || n == 0x85 || n == 0xA0 || n == 0x1680 ||
    (0x2000 ≤ n && n ≤ 0x200A) || n == 0x2028 || n == 0x2029 || n == 0x202F || n == 0x205F ||
    n == 0x3000

/-- The text without the white space at its start. -/
def trimStart (text : List Char) : List Char :=
  text.dropWhile isBlank

/-- The text without the white space at its end. -/
def trimEnd (text : List Char) : List Char :=
  (text.reverse.dropWhile isBlank).reverse

/-- The text without the white space around it. -/
def trim (text : List Char) : List Char :=
  trimEnd (trimStart text)

/-- A string without the white space around it. -/
def trimmed (text : String) : String :=
  String.ofList (trim text.toList)

/-- The part before the first separator and the part after it, when there is a separator. -/
def splitOnce? (isSeparator : Char → Bool) : List Char → Option (List Char × List Char)
  | [] => none
  | c :: rest =>
    if isSeparator c then some ([], rest)
    else (splitOnce? isSeparator rest).map fun (before, after) => (c :: before, after)

/-- The number of maximal runs of characters that are not white space. -/
def wordCount (text : List Char) : Nat :=
  (text.foldl (fun (count, inWord) c =>
    if isBlank c then (count, false) else (if inWord then count else count + 1, true))
    (0, false)).1

/-- The pieces between line feeds; a text that ends in a line feed has no last empty piece. -/
def linePieces : List Char → List (List Char)
  | [] => []
  | '\n' :: rest => [] :: linePieces rest
  | c :: rest =>
    match linePieces rest with
    | [] => [[c]]
    | piece :: pieces => (c :: piece) :: pieces

/-- The lines of a text, without the line feed and one carriage return before it. -/
def lines (text : List Char) : List (List Char) :=
  (linePieces text).map fun piece =>
    match piece.reverse with
    | '\r' :: rest => rest.reverse
    | _ => piece

/-- The first line that is more than white space, trimmed, or the fallback when there is none. -/
def firstLineOr (fallback text : String) : String :=
  match ((lines text.toList).map trim).find? (fun line => !line.isEmpty) with
  | some line => String.ofList line
  | none => fallback

/-- The rest of a text after an expected beginning. -/
def afterStart? : (start text : List Char) → Option (List Char)
  | [], text => some text
  | _ :: _, [] => none
  | s :: start, c :: text => if s = c then afterStart? start text else none

/-- Every blank of the core library is white space. -/
theorem isBlank_of_isWhitespace (c : Char) (blank : c.isWhitespace = true) : isBlank c = true := by
  simp only [Char.isWhitespace, Bool.or_eq_true, decide_eq_true_eq] at blank
  rcases blank with ((rfl | rfl) | rfl) | rfl <;> decide

/-- A text cut at a separator is the part before, the separator and the part after. -/
theorem splitOnce?_eq_some {isSeparator : Char → Bool} {text before after : List Char}
    (cut : splitOnce? isSeparator text = some (before, after)) :
    ∃ c, isSeparator c = true ∧ text = before ++ c :: after ∧
      ∀ b ∈ before, isSeparator b = false := by
  induction text generalizing before with
  | nil => simp [splitOnce?] at cut
  | cons c rest ih =>
    rw [splitOnce?] at cut
    split at cut
    · next h => simp only [Option.some.injEq, Prod.mk.injEq] at cut; simp [← cut.1, ← cut.2, h]
    · next h =>
      simp only [Option.map_eq_some_iff, Prod.mk.injEq, Prod.exists] at cut
      obtain ⟨front, back, same, rfl, rfl⟩ := cut
      obtain ⟨d, isSep, rfl, clean⟩ := ih same
      exact ⟨d, isSep, rfl, by simpa [h] using clean⟩

end StreamWatch.Text
