/-
**What is read of a cron expression.**

The grammar has its own blanks, fewer than there is white space. Its parsers are built from a few ways to put parsers
together, and what holds of each of them holds of what is put together: white space in what is read is a blank of the
grammar, and blanks after a text change nothing but what is left unread.

* `Lawful`: the law of the parsers, with a lemma for each way to put parsers together;
* `lawful_fields`: the parser of all fields obeys it;
* `Opens`: the characters a field begins with;
* `field_question`: a field is read alike whether or not a question mark may stand in it, if it is read without one.
-/

import StreamWatch.Cron.Expression
import StreamWatch.Proofs.Text.Blank

namespace StreamWatch.Cron

open StreamWatch.Number StreamWatch.Text

variable {α β : Type} {text rest : List Char}

/-! ### Blanks of the grammar -/

/-- Whether a character is a blank of the grammar. -/
def isSpace (c : Char) : Bool := c = ' ' ∨ c = '\t' ∨ c = '\r' ∨ c = '\n'

/-- Whether a text is blanks all through. -/
def Spaces (text : List Char) : Prop := ∀ c ∈ text, isSpace c = true

theorem skip_eq (text : List Char) : skip text = text.dropWhile isSpace := rfl

theorem isBlank_of_isSpace {c : Char} (space : isSpace c = true) : isBlank c = true := by
  rcases of_decide_eq_true space with rfl | rfl | rfl | rfl <;> decide

theorem skip_append {spaces : List Char} (blank : Spaces spaces) (text : List Char) :
    skip (spaces ++ text) = skip text := List.dropWhile_append_of_pos blank

theorem skip_cons {c : Char} (solid : isSpace c = false) (text : List Char) : skip (c :: text) = c :: text := by
  rw [skip_eq, List.dropWhile_cons_of_neg (by rw [solid]; exact Bool.false_ne_true)]

theorem skip_skip (text : List Char) : skip (skip text) = skip text := by
  induction text with
  | nil => rfl
  | cons c rest ih =>
    cases space : isSpace c with
    | true => rw [show skip (c :: rest) = skip rest from skip_append (List.forall_mem_singleton.mpr space) rest, ih]
    | false => rw [skip_cons space, skip_cons space]

/-- Whether one text is another with blanks after it, or none. -/
def Padded (text padded : List Char) : Prop := ∃ spaces, Spaces spaces ∧ padded = text ++ spaces

theorem padded_self (text : List Char) : Padded text text := ⟨[], List.forall_mem_nil _, (List.append_nil text).symm⟩

theorem Padded.skip {padded : List Char} (padding : Padded text padded) : Padded (skip text) (skip padded) := by
  obtain ⟨spaces, blank, rfl⟩ := padding
  rw [skip_eq, skip_eq, List.dropWhile_append]
  split
  · next empty =>
    rw [List.isEmpty_iff.mp empty, List.dropWhile_eq_nil_iff.mpr blank]
    exact padded_self []
  · exact ⟨spaces, blank, rfl⟩

/-! ### The law of the parsers -/

/-- Whether two readings are the same, but for blanks after what is left unread. -/
inductive Alike : Option (α × List Char) → Option (α × List Char) → Prop
  | none : Alike none none
  | some (value : α) {rest padded : List Char} (padding : Padded rest padded) :
    Alike (some (value, rest)) (some (value, padded))

/-- **The law of the parsers.** -/
structure Lawful (parser : Parser α) : Prop where
  /-- a text is what is read of it, where all white space is blanks, and what is left of it -/
  reads : ∀ {text value rest}, parser text = some (value, rest) →
    ∃ taken, text = taken ++ rest ∧ ∀ c ∈ taken, isBlank c = true → isSpace c = true
  /-- with blanks after it a text is read as it is without -/
  padded : ∀ {text padded}, Padded text padded → Alike (parser text) (parser padded)

/-! ### Parsers that are put together -/

/-- Reads nothing. -/
def yields (value : α) : Parser α := fun text => some (value, text)

/-- One parser after another. -/
def andThen (first : Parser α) (next : α → Parser β) : Parser β := fun text =>
  (first text).bind fun found => next found.1 found.2

/-- A parser, or else another. -/
def orElse (first second : Parser α) : Parser α := fun text => first text <|> second text

/-- A character, and a parser after it. -/
def after (c : Char) (parser : Parser α) : Parser α := fun text =>
  if text.head? = some c then parser text.tail else none

/-- Blanks. -/
def spaces : Parser Unit := fun text => some ((), skip text)

/-- As many characters of a class as there are, if something can be made of them. -/
def run (class? : Char → Bool) (make? : List Char → Option α) : Parser α := fun text =>
  (make? (text.takeWhile class?)).map fun value => (value, text.dropWhile class?)

/-- Characters of a class with blanks around them. -/
def token (class? : Char → Bool) (make? : List Char → Option α) : Parser α :=
  andThen spaces fun _ => andThen (run class? make?) fun value => andThen spaces fun _ => yields value

theorem orElse_eq_some {first second : Parser α} {found : α × List Char}
    (read : orElse first second text = some found) : first text = some found ∨ second text = some found := by
  rw [orElse] at read
  cases begun : first text with
  | none =>
    rw [begun] at read
    exact .inr read
  | some other =>
    rw [begun] at read
    exact .inl read

theorem lawful_yields (value : α) : Lawful (yields value) where
  reads := by
    rintro text _ _ ⟨⟩
    exact ⟨[], rfl, List.forall_mem_nil _⟩
  padded padding := .some value padding

theorem lawful_none : Lawful (fun _ => none : Parser α) where
  reads read := nomatch read
  padded _ := .none

theorem Lawful.andThen {first : Parser α} {next : α → Parser β} (lawful : Lawful first)
    (later : ∀ value, Lawful (next value)) : Lawful (andThen first next) where
  reads := by
    intro text value rest read
    obtain ⟨⟨between, middle⟩, begun, ended⟩ := Option.bind_eq_some_iff.mp read
    obtain ⟨front, rfl, solid⟩ := lawful.reads begun
    obtain ⟨back, rfl, others⟩ := (later between).reads ended
    exact ⟨front ++ back, (List.append_assoc ..).symm, List.forall_mem_append.mpr ⟨solid, others⟩⟩
  padded := by
    intro text padded padding
    show Alike ((first text).bind _) ((first padded).bind _)
    have alike := lawful.padded padding
    generalize first text = reading at alike ⊢
    generalize first padded = other at alike ⊢
    cases alike with
    | none => exact .none
    | some value padding => exact (later value).padded padding

theorem Lawful.orElse {first second : Parser α} (lawful : Lawful first) (other : Lawful second) :
    Lawful (orElse first second) where
  reads := by
    intro text value rest read
    rcases orElse_eq_some read with begun | begun
    · exact lawful.reads begun
    · exact other.reads begun
  padded := by
    intro text padded padding
    show Alike (first text <|> second text) (first padded <|> second padded)
    have alike := lawful.padded padding
    generalize first text = reading at alike ⊢
    generalize first padded = blank at alike ⊢
    cases alike with
    | none => exact other.padded padding
    | some value padding => exact .some value padding

theorem Lawful.after {c : Char} (solid : isBlank c = false) {parser : Parser α} (lawful : Lawful parser) :
    Lawful (after c parser) where
  reads := by
    intro text value rest read
    rw [Cron.after, Option.ite_none_right_eq_some] at read
    obtain ⟨text, rfl⟩ := List.head?_eq_some_iff.mp read.1
    obtain ⟨taken, same, others⟩ := lawful.reads read.2
    refine ⟨c :: taken, congrArg (c :: ·) same, List.forall_mem_cons.mpr ⟨fun blank => ?_, others⟩⟩
    rw [solid] at blank
    exact nomatch blank
  padded := by
    rintro text _ ⟨spaces, blank, rfl⟩
    have apart : ¬ spaces.head? = some c := fun begins => by
      obtain ⟨others, rfl⟩ := List.head?_eq_some_iff.mp begins
      rw [isBlank_of_isSpace (blank c List.mem_cons_self)] at solid
      exact nomatch solid
    cases text with
    | nil =>
      rw [Cron.after, Cron.after, if_neg nofun, List.nil_append, if_neg apart]
      exact .none
    | cons d text =>
      rw [Cron.after, Cron.after, List.cons_append, List.head?_cons, List.head?_cons]
      split
      · exact lawful.padded ⟨spaces, blank, rfl⟩
      · exact .none

theorem lawful_spaces : Lawful spaces where
  reads := by
    rintro text _ _ ⟨⟩
    refine ⟨text.takeWhile isSpace, List.takeWhile_append_dropWhile.symm, fun c among _ => ?_⟩
    exact List.mem_takeWhile_imp among
  padded padding := .some _ padding.skip

section
variable {class? : Char → Bool} {spaces : List Char} (outside : ∀ c ∈ spaces, ¬ class? c = true)
include outside

/-- Characters that are of no class are not taken with those that are. -/
theorem takeWhile_append_of_outside : (text ++ spaces).takeWhile class? = text.takeWhile class? := by
  cases spaces with
  | nil => rw [List.append_nil]
  | cons c others => exact takeWhile_append_cons (outside c List.mem_cons_self) text others

theorem dropWhile_append_of_outside : (text ++ spaces).dropWhile class? = text.dropWhile class? ++ spaces := by
  cases spaces with
  | nil => rw [List.append_nil, List.append_nil]
  | cons c others => exact dropWhile_append_cons (outside c List.mem_cons_self) text others

end

theorem lawful_run {class? : Char → Bool} (solid : ∀ c, class? c = true → isBlank c = false)
    (make? : List Char → Option α) : Lawful (run class? make?) where
  reads := by
    intro text value rest read
    obtain ⟨made, -, same⟩ := Option.map_eq_some_iff.mp read
    cases same
    refine ⟨text.takeWhile class?, List.takeWhile_append_dropWhile.symm, fun c among blank => ?_⟩
    rw [solid c (List.mem_takeWhile_imp among)] at blank
    exact nomatch blank
  padded := by
    rintro text _ ⟨spaces, blank, rfl⟩
    have outside : ∀ c ∈ spaces, ¬ class? c = true := fun c among inside => by
      have blank := isBlank_of_isSpace (blank c among)
      rw [solid c inside] at blank
      exact nomatch blank
    rw [run, run, takeWhile_append_of_outside outside, dropWhile_append_of_outside outside]
    cases make? (text.takeWhile class?) with
    | none => exact .none
    | some value => exact .some value ⟨spaces, blank, rfl⟩

theorem lawful_token {class? : Char → Bool} (solid : ∀ c, class? c = true → isBlank c = false)
    (make? : List Char → Option α) : Lawful (token class? make?) :=
  lawful_spaces.andThen fun _ => (lawful_run solid make?).andThen fun _ =>
    lawful_spaces.andThen fun _ => lawful_yields _

/-! ### The parsers -/

/-- Numbers are of at most 32 bits. -/
def numeral? (text : List Char) : Option Nat := (digitsValue? text).filter (· < halfBound)

/-- Words have a letter at least. -/
def word? (text : List Char) : Option String := if text = [] then none else some (String.ofList text)

theorem number_eq : number = token isDigit numeral? := by
  funext text
  show number text = (run isDigit numeral? (skip text)).bind fun found => some (found.1, skip found.2)
  rw [number, run, numeral?]
  cases digitsValue? ((skip text).takeWhile isDigit) with
  | none => rfl
  | some n =>
    simp only [Option.filter_some, decide_eq_true_eq]
    split <;> rfl

theorem name_eq : name = token isLetter word? := by
  funext text
  show name text = (run isLetter word? (skip text)).bind fun found => some (found.1, skip found.2)
  rw [name, run]
  cases (skip text).takeWhile isLetter <;> rfl

theorem andThen_yields (parser : Parser α) (f : α → β) (text : List Char) :
    andThen parser (fun value => yields (f value)) text = (parser text).map fun found => (f found.1, found.2) := by
  rw [andThen]
  cases parser text <;> rfl

theorem pair_eq (one : Parser α) :
    pair one = andThen one fun low => after '-' (andThen one fun high => yields (low, high)) := by
  funext text
  show ((one text).bind fun found => _) = (one text).bind fun found => _
  congr 1
  funext found
  obtain ⟨low, rest⟩ := found
  cases rest with
  | nil => rfl
  | cons d rest =>
    by_cases same : d = '-'
    · subst same
      rfl
    · simp [after, same]

/-- A span that is a star, or a question mark where it may stand. -/
def all (question : Bool) : Parser Span :=
  orElse (after '*' (yields .all)) (if question then after '?' (yields .all) else fun _ => none)

theorem span_eq (question : Bool) : span question =
    orElse (all question) (orElse (andThen (pair number) fun bounds => yields (.between bounds.1 bounds.2))
      (orElse (andThen number fun n => yields (.single n))
        (andThen (pair name) fun bounds => yields (.named bounds.1 bounds.2)))) := by
  funext text
  simp only [orElse, andThen_yields]
  refine congrArg (· <|> _) ?_
  cases text with
  | nil => cases question <;> rfl
  | cons c rest =>
    by_cases star : c = '*'
    · subst star
      rfl
    · by_cases mark : c = '?'
      · subst mark
        cases question <;> rfl
      · cases question <;> simp [all, orElse, after, star, mark]

theorem root_eq (question : Bool) : root question =
    orElse (andThen (span question) fun set => after '/' (andThen number fun step => yields (.every set step)))
      (orElse (andThen (span question) fun set => yields (.plain set)) (andThen name fun word => yields (.named word))) := by
  funext text
  simp only [orElse, andThen_yields]
  refine congrArg (· <|> _) ?_
  show ((span question text).bind fun found => _) = (span question text).bind fun found => _
  congr 1
  funext found
  obtain ⟨set, rest⟩ := found
  cases rest with
  | nil => rfl
  | cons d rest =>
    by_cases same : d = '/'
    · subst same
      rfl
    · simp [after, same]

/-- The roots after the first, with so much fuel. -/
def more (question : Bool) (fuel : Nat) : Parser Field := fun text => some (moreRoots question fuel text)

theorem more_succ (question : Bool) (fuel : Nat) : more question (fuel + 1) =
    orElse (after ',' (andThen (root question) fun first => andThen (more question fuel) fun roots =>
      yields (first :: roots))) (yields []) := by
  funext text
  rw [more, orElse, yields]
  cases text with
  | nil => rfl
  | cons c rest =>
    by_cases comma : c = ','
    · subst comma
      rw [moreRoots, after, List.head?_cons, if_pos rfl, List.tail_cons, andThen]
      cases root question rest <;> rfl
    · simp [moreRoots, after, comma]

/-- Without a comma there are no more roots. -/
theorem moreRoots_of_head_ne {question : Bool} {fuel : Nat} (apart : text.head? ≠ some ',') :
    moreRoots question fuel text = ([], text) := by
  cases fuel with
  | zero => rfl
  | succ fuel =>
    cases text with
    | nil => rfl
    | cons c rest =>
      have comma : c ≠ ',' := fun same => apart (congrArg some same)
      simp [moreRoots, comma]

/-! ### The parsers obey the law -/

theorem isBlank_of_isDigit {c : Char} (digit : isDigit c = true) : isBlank c = false := by
  simp only [isDigit, digitValue?, Option.isSome_ite] at digit
  have low : 0x30 ≤ c.toNat := digit.1
  have high : c.toNat ≤ 0x39 := digit.2
  simp only [isBlank, Bool.or_eq_false_iff, Bool.and_eq_false_iff, decide_eq_false_iff_not, beq_eq_false_iff_ne]
  omega

theorem isBlank_of_isLetter {c : Char} (letter : isLetter c = true) : isBlank c = false := by
  simp only [isLetter, Bool.or_eq_true, Bool.and_eq_true, decide_eq_true_eq] at letter
  have bounds : (0x61 ≤ c.toNat ∧ c.toNat ≤ 0x7A) ∨ (0x41 ≤ c.toNat ∧ c.toNat ≤ 0x5A) := letter
  simp only [isBlank, Bool.or_eq_false_iff, Bool.and_eq_false_iff, decide_eq_false_iff_not, beq_eq_false_iff_ne]
  omega

theorem lawful_number : Lawful number := by
  rw [number_eq]
  exact lawful_token (fun _ => isBlank_of_isDigit) _

theorem lawful_name : Lawful name := by
  rw [name_eq]
  exact lawful_token (fun _ => isBlank_of_isLetter) _

theorem lawful_pair {one : Parser α} (lawful : Lawful one) : Lawful (pair one) := by
  rw [pair_eq]
  exact lawful.andThen fun _ => (lawful.andThen fun _ => lawful_yields _).after (by decide)

theorem lawful_span (question : Bool) : Lawful (span question) := by
  have mark : Lawful (all question) := by
    refine ((lawful_yields _).after (by decide)).orElse ?_
    cases question with
    | false => exact lawful_none
    | true => exact (lawful_yields _).after (by decide)
  rw [span_eq]
  exact mark.orElse (((lawful_pair lawful_number).andThen fun _ => lawful_yields _).orElse
    ((lawful_number.andThen fun _ => lawful_yields _).orElse
      ((lawful_pair lawful_name).andThen fun _ => lawful_yields _)))

theorem lawful_root (question : Bool) : Lawful (root question) := by
  rw [root_eq]
  have span := lawful_span question
  exact (span.andThen fun _ => (lawful_number.andThen fun _ => lawful_yields _).after (by decide)).orElse
    ((span.andThen fun _ => lawful_yields _).orElse (lawful_name.andThen fun _ => lawful_yields _))

theorem lawful_more (question : Bool) (fuel : Nat) : Lawful (more question fuel) := by
  induction fuel with
  | zero => exact lawful_yields []
  | succ fuel ih =>
    rw [more_succ]
    exact (((lawful_root question).andThen fun _ => ih.andThen fun _ => lawful_yields _).after (by decide)).orElse
      (lawful_yields [])

/-- What is left after a root is no longer than what was there. -/
theorem Lawful.length_le {parser : Parser α} (lawful : Lawful parser) {value : α}
    (read : parser text = some (value, rest)) : rest.length ≤ text.length := by
  obtain ⟨taken, rfl, -⟩ := lawful.reads read
  rw [List.length_append]
  exact Nat.le_add_left ..

/-- More fuel than there are characters makes no difference. -/
theorem moreRoots_fuel (question : Bool) {fuel extra : Nat} (enough : text.length ≤ fuel) :
    moreRoots question (fuel + extra) text = moreRoots question fuel text := by
  induction fuel generalizing text with
  | zero =>
    obtain rfl := List.eq_nil_of_length_eq_zero (Nat.le_zero.mp enough)
    cases extra <;> rfl
  | succ fuel ih =>
    rw [Nat.add_right_comm]
    cases text with
    | nil => rfl
    | cons c rest =>
      by_cases comma : c = ','
      · subst comma
        simp only [moreRoots]
        cases found : root question rest with
        | none => rfl
        | some first =>
          have shorter := (lawful_root question).length_le found
          simp only [ih (Nat.le_trans shorter (Nat.le_of_succ_le_succ enough))]
      · simp [moreRoots, comma]

/-- The roots after the first. -/
def others (question : Bool) : Parser Field := fun text => some (moreRoots question text.length text)

theorem lawful_others (question : Bool) : Lawful (others question) where
  reads {text} := (lawful_more question text.length).reads
  padded := by
    rintro text _ ⟨spaces, blank, rfl⟩
    have padding : Padded text (text ++ spaces) := ⟨spaces, blank, rfl⟩
    have alike := (lawful_more question (text ++ spaces).length).padded padding
    rw [more, List.length_append, moreRoots_fuel question (Nat.le_refl text.length)] at alike
    rwa [others, others, List.length_append]

theorem field_eq (question : Bool) : field question =
    andThen spaces fun _ => andThen (root question) fun first => andThen (others question) fun roots =>
      andThen spaces fun _ => yields (first :: roots) := rfl

theorem lawful_field (question : Bool) : Lawful (field question) := by
  rw [field_eq]
  exact lawful_spaces.andThen fun _ => (lawful_root question).andThen fun _ =>
    (lawful_others question).andThen fun _ => lawful_spaces.andThen fun _ => lawful_yields _

/-- The field for the year, if there is one. -/
def year : Parser (Option Field) := orElse (andThen (field false) fun year => yields (some year)) (yields none)

theorem fields_eq : fields = andThen (field false) fun second => andThen (field false) fun minute =>
    andThen (field false) fun hour => andThen (field true) fun day => andThen (field false) fun month =>
      andThen (field true) fun weekday => andThen year fun year =>
        yields ⟨second, minute, hour, day, month, weekday, year⟩ := by
  funext text
  -- up to the field for the year both are the same steps
  iterate 6 refine congrArg (Option.bind _) (funext fun found => ?_)
  obtain ⟨weekday, rest⟩ := found
  dsimp only
  rw [andThen, year, orElse, andThen]
  cases field false rest <;> rfl

/-- **The parser of all fields obeys the law.** -/
theorem lawful_fields : Lawful fields := by
  have one := lawful_field false
  have other := lawful_field true
  have year : Lawful year := (one.andThen fun _ => lawful_yields _).orElse (lawful_yields none)
  rw [fields_eq]
  exact one.andThen fun _ => one.andThen fun _ => one.andThen fun _ => other.andThen fun _ => one.andThen fun _ =>
    other.andThen fun _ => year.andThen fun _ => lawful_yields _

/-! ### What a field begins with -/

/-- Whether a field can begin with a character. -/
def isOpening (question : Bool) (c : Char) : Bool := c == '*' || (question && c == '?') || isDigit c || isLetter c

/-- Whether a field can begin where a text begins, after blanks. -/
def Opens (question : Bool) (text : List Char) : Prop :=
  ∃ c, (skip text).head? = some c ∧ isOpening question c = true

/-- Whether a parser reads only where a field can begin. -/
def Opening (question : Bool) (parser : Parser α) : Prop :=
  ∀ text found, parser text = some found → Opens question text

variable {question : Bool}

/-- Where a field can begin there is no other character. -/
theorem Opens.head_ne (opens : Opens question text) {c : Char} (closed : isOpening question c = false) :
    (skip text).head? ≠ some c := by
  obtain ⟨first, begins, opening⟩ := opens
  rw [begins]
  rintro ⟨⟩
  rw [closed] at opening
  exact nomatch opening

/-- Nor is there one before the blanks. -/
theorem Opens.first_ne (opens : Opens question text) {c : Char} (closed : isOpening question c = false)
    (solid : isSpace c = false) : text.head? ≠ some c := fun begins => by
  obtain ⟨rest, rfl⟩ := List.head?_eq_some_iff.mp begins
  exact opens.head_ne closed (by rw [skip_cons solid, List.head?_cons])

theorem Opening.andThen {first : Parser α} (opening : Opening question first) (next : α → Parser β) :
    Opening question (andThen first next) := by
  intro text found read
  obtain ⟨_, begun, -⟩ := Option.bind_eq_some_iff.mp read
  exact opening _ _ begun

theorem Opening.orElse {first second : Parser α} (opening : Opening question first) (other : Opening question second) :
    Opening question (orElse first second) := fun _ _ read => (orElse_eq_some read).elim (opening _ _) (other _ _)

theorem opening_after {c : Char} (opening : isOpening question c = true) (solid : isSpace c = false)
    (parser : Parser α) : Opening question (after c parser) := by
  intro text found read
  rw [after, Option.ite_none_right_eq_some] at read
  obtain ⟨rest, rfl⟩ := List.head?_eq_some_iff.mp read.1
  exact ⟨c, by rw [skip_cons solid, List.head?_cons], opening⟩

/-- What reads characters of a class begins with one of them. -/
theorem opening_token {class? : Char → Bool} (opening : ∀ c, class? c = true → isOpening question c = true)
    {make? : List Char → Option α} (empty : make? [] = none) : Opening question (token class? make?) := by
  intro text found read
  change (run class? make? (skip text)).bind _ = some found at read
  obtain ⟨_, read, -⟩ := Option.bind_eq_some_iff.mp read
  obtain ⟨_, made, -⟩ := Option.map_eq_some_iff.mp read
  cases begins : skip text with
  | nil =>
    rw [begins, List.takeWhile_nil, empty] at made
    exact nomatch made
  | cons c rest =>
    cases inside : class? c with
    | true => exact ⟨c, by rw [begins, List.head?_cons], opening c inside⟩
    | false =>
      rw [begins, List.takeWhile_cons_of_neg (by rw [inside]; exact Bool.false_ne_true), empty] at made
      exact nomatch made

theorem opening_number (question : Bool) : Opening question number := by
  rw [number_eq]
  exact opening_token (fun c digit => by simp only [isOpening, digit, Bool.or_true, Bool.true_or]) rfl

theorem opening_name (question : Bool) : Opening question name := by
  rw [name_eq]
  exact opening_token (fun c letter => by simp only [isOpening, letter, Bool.or_true]) rfl

theorem opening_pair {one : Parser α} (opening : Opening question one) : Opening question (pair one) := by
  rw [pair_eq]
  exact opening.andThen _

theorem opening_span (question : Bool) : Opening question (span question) := by
  have mark : Opening question (all question) := by
    have star : Opening question (after '*' (yields Span.all)) := opening_after rfl (by decide) _
    refine star.orElse ?_
    cases question with
    | false => exact fun _ _ read => nomatch read
    | true => exact opening_after rfl (by decide) _
  have number := opening_number question
  rw [span_eq]
  exact mark.orElse (((opening_pair number).andThen _).orElse
    ((number.andThen _).orElse ((opening_pair (opening_name question)).andThen _)))

theorem opening_root (question : Bool) : Opening question (root question) := by
  have span := opening_span question
  rw [root_eq]
  exact (span.andThen _).orElse ((span.andThen _).orElse ((opening_name question).andThen _))

/-- A field begins, after blanks, where it can begin. -/
theorem opening_field (question : Bool) : Opening question (field question) := by
  intro text found read
  change (root question (skip text)).bind _ = some found at read
  obtain ⟨_, begun, -⟩ := Option.bind_eq_some_iff.mp read
  have opens := opening_root question _ _ begun
  rwa [Opens, skip_skip] at opens

/-- A field is its first root and the roots after it. -/
theorem field_eq_some_iff {value : Field} : field question text = some (value, rest) ↔
    ∃ first between roots left, root question (skip text) = some (first, between) ∧
      moreRoots question between.length between = (roots, left) ∧ value = first :: roots ∧ rest = skip left := by
  constructor
  · intro read
    obtain ⟨⟨first, between⟩, begun, later⟩ := Option.bind_eq_some_iff.mp read
    cases more : moreRoots question between.length between with
    | mk roots left =>
      simp only [more] at later
      cases later
      exact ⟨first, between, roots, left, begun, more, rfl, rfl⟩
  · rintro ⟨first, between, roots, left, begun, more, rfl, rfl⟩
    simp only [field, begun, bind, Option.bind_some, more]
    rfl

theorem field_skip (question : Bool) (text : List Char) : field question (skip text) = field question text := by
  rw [field, field, skip_skip]

/-! ### Question marks -/

/-- Where a question mark may stand as well, a root is read as it is elsewhere. -/
theorem root_question {found : Root × List Char} (read : root false text = some found) :
    root true text = some found := by
  have unmarked : text.head? ≠ some '?' := (opening_root false _ _ read).first_ne (by decide) (by decide)
  have same : span true text = span false text := by
    have marks : all true text = all false text := by
      rw [all, all, orElse, orElse, if_pos rfl, after, after, if_neg unmarked, if_neg Bool.false_ne_true]
    rw [span_eq, span_eq]
    simp only [orElse, marks]
  rw [← read, root_eq, root_eq]
  simp only [orElse, andThen, same]

/-- So are the roots after it, if they do not end at a comma. -/
theorem moreRoots_question {fuel : Nat} {roots : Field} (read : moreRoots false fuel text = (roots, rest))
    (ended : rest.head? ≠ some ',') : moreRoots true fuel text = (roots, rest) := by
  induction fuel generalizing text roots with
  | zero => exact read
  | succ fuel ih =>
    cases text with
    | nil => exact read
    | cons c text =>
      by_cases comma : c = ','
      · subst comma
        simp only [moreRoots] at read ⊢
        cases found : root false text with
        | none =>
          rw [found] at read
          cases read
          exact absurd rfl ended
        | some first =>
          rw [root_question found]
          rw [found] at read
          cases later : moreRoots false fuel first.2 with
          | mk others left =>
            simp only [later, Prod.mk.injEq] at read ⊢
            obtain ⟨rfl, rfl⟩ := read
            rw [ih later]
            exact ⟨rfl, rfl⟩
      · have apart : (c :: text).head? ≠ some ',' := fun begins => comma (Option.some.inj begins)
        rw [moreRoots_of_head_ne apart] at read ⊢
        exact read

/-- **Where a question mark may stand as well, a field is read as it is elsewhere**, if it does not end at a comma. -/
theorem field_question {value : Field} (read : field false text = some (value, rest)) (ended : rest.head? ≠ some ',') :
    field true text = some (value, rest) := by
  obtain ⟨first, between, roots, left, begun, more, rfl, rfl⟩ := field_eq_some_iff.mp read
  have unfinished : left.head? ≠ some ',' := fun comma => by
    obtain ⟨others, rfl⟩ := List.head?_eq_some_iff.mp comma
    exact ended (by rw [skip_cons (by decide), List.head?_cons])
  exact field_eq_some_iff.mpr
    ⟨first, between, roots, left, root_question begun, moreRoots_question more unfinished, rfl, rfl⟩

/-- **A zero before a field** is a field by itself. -/
theorem field_zero (opens : Opens false text) :
    field false ('0' :: ' ' :: text) = some ([.plain (.single 0)], skip text) := by
  have zero : number ('0' :: ' ' :: text) = some (0, skip text) := rfl
  have alone : pair number ('0' :: ' ' :: text) = none := by
    rw [pair_eq, andThen, zero, Option.bind_some, after, if_neg (opens.head_ne (by decide))]
  have single : span false ('0' :: ' ' :: text) = some (.single 0, skip text) := by
    rw [span_eq]
    simp only [orElse, andThen, alone, zero, Option.bind_none, Option.bind_some]
    rfl
  have only : root false ('0' :: ' ' :: text) = some (.plain (.single 0), skip text) := by
    rw [root_eq]
    simp only [orElse, andThen, single, Option.bind_some]
    rw [after, if_neg (opens.head_ne (by decide))]
    rfl
  have last : moreRoots false (skip text).length (skip text) = ([], skip text) :=
    moreRoots_of_head_ne (opens.head_ne (by decide))
  exact field_eq_some_iff.mpr ⟨_, _, _, _, only, last, rfl, (skip_skip text).symm⟩

end StreamWatch.Cron
