/-
**Cron expressions.**

An expression has six fields, for the second, the minute, the hour, the day of the month, the month and
the day of the week, and may have a seventh for the year; or it is one of five shortcuts. A field is a
list of roots with commas between them.

Alternatives are tried in order and the first that matches counts. Blanks around numbers and names are
let pass, so that fields need no blanks between them where they are told apart without.
-/

import StreamWatch.Number.Decimal

namespace StreamWatch.Cron

open StreamWatch.Number

/-- A set of values before it is thinned out. -/
inductive Span where
  | all
  | between (low high : Nat)
  | single (value : Nat)
  | named (low high : String)
deriving DecidableEq, Repr

/-- One part of a field. -/
inductive Root where
  /-- every so many values of a set, beginning with its first -/
  | every (span : Span) (step : Nat)
  | plain (span : Span)
  | named (name : String)
deriving DecidableEq, Repr

/-- A field is a list of roots. -/
abbrev Field := List Root

/-- An expression as it is written. -/
structure Expression where
  second : Field
  minute : Field
  hour : Field
  day : Field
  month : Field
  weekday : Field
  year : Option Field
deriving DecidableEq, Repr

/-- A parser that may not match. -/
abbrev Parser (α : Type) := List Char → Option (α × List Char)

/-- Skips blanks. -/
def skip (text : List Char) : List Char :=
  text.dropWhile fun c => c = ' ' ∨ c = '\t' ∨ c = '\r' ∨ c = '\n'

/-- A number of at most 32 bits with blanks around it. -/
def number : Parser Nat := fun text =>
  let text := skip text
  match digitsValue? (text.takeWhile isDigit) with
  | some n => if n < halfBound then some (n, skip (text.dropWhile isDigit)) else none
  | none => none

/-- Whether a character is an ASCII letter. -/
def isLetter (c : Char) : Bool := ('a' ≤ c && c ≤ 'z') || ('A' ≤ c && c ≤ 'Z')

/-- A name with blanks around it. -/
def name : Parser String := fun text =>
  let text := skip text
  match text.takeWhile isLetter with
  | [] => none
  | letters => some (String.ofList letters, skip (text.dropWhile isLetter))

/-- Two of the same with a hyphen between them. -/
def pair {α : Type} (one : Parser α) : Parser (α × α) := fun text => do
  let (low, rest) ← one text
  match rest with
  | '-' :: rest =>
    let (high, rest) ← one rest
    pure ((low, high), rest)
  | _ => none

/-- A span. A question mark stands for all values where it may stand at all. -/
def span (question : Bool) : Parser Span := fun text =>
  let all : Option (Span × List Char) :=
    match text with
    | '*' :: rest => some (.all, rest)
    | '?' :: rest => if question then some (.all, rest) else none
    | _ => none
  all <|> ((pair number text).map fun ((low, high), rest) => (.between low high, rest))
    <|> ((number text).map fun (n, rest) => (.single n, rest))
    <|> ((pair name text).map fun ((low, high), rest) => (.named low high, rest))

/-- A root. -/
def root (question : Bool) : Parser Root := fun text =>
  let every : Option (Root × List Char) := do
    let (set, rest) ← span question text
    match rest with
    | '/' :: rest =>
      let (step, rest) ← number rest
      pure (.every set step, rest)
    | _ => none
  every <|> ((span question text).map fun (set, rest) => (.plain set, rest))
    <|> ((name text).map fun (word, rest) => (.named word, rest))

/-- The roots after the first, each after a comma. A comma without a root is left unread. -/
def moreRoots (question : Bool) : (fuel : Nat) → List Char → Field × List Char
  | 0, text => ([], text)
  | fuel + 1, text =>
    match text with
    | ',' :: rest =>
      match root question rest with
      | some (first, rest) =>
        let (roots, rest) := moreRoots question fuel rest
        (first :: roots, rest)
      | none => ([], text)
    | _ => ([], text)

/-- A field with blanks around it. -/
def field (question : Bool) : Parser Field := fun text => do
  let (first, rest) ← root question (skip text)
  let (roots, rest) := moreRoots question rest.length rest
  pure (first :: roots, skip rest)

/-- The fields an expression of fields is made of. -/
def fields : Parser Expression := fun text => do
  let (second, rest) ← field false text
  let (minute, rest) ← field false rest
  let (hour, rest) ← field false rest
  let (day, rest) ← field true rest
  let (month, rest) ← field false rest
  let (weekday, rest) ← field true rest
  match field false rest with
  | some (year, rest) => pure (⟨second, minute, hour, day, month, weekday, some year⟩, rest)
  | none => pure (⟨second, minute, hour, day, month, weekday, none⟩, rest)

/-- The shortcuts and what they stand for. -/
def shortcuts : List (String × Expression) :=
  let any : Field := [.plain .all]
  let only (n : Nat) : Field := [.plain (.single n)]
  [("@yearly", ⟨only 0, only 0, only 0, only 1, only 1, any, none⟩),
   ("@monthly", ⟨only 0, only 0, only 0, only 1, any, any, none⟩),
   ("@weekly", ⟨only 0, only 0, only 0, any, any, only 1, none⟩),
   ("@daily", ⟨only 0, only 0, only 0, any, any, any, none⟩),
   ("@hourly", ⟨only 0, only 0, any, any, any, any, none⟩)]

/-- The shortcut a text is, with blanks around it. -/
def shortcut? (text : List Char) : Option Expression :=
  let word := (skip (skip text).reverse).reverse
  shortcuts.lookup (String.ofList word)

/-- The expression a text is. -/
def Expression.parse? (text : List Char) : Option Expression :=
  shortcut? text <|>
    match fields text with
    | some (expression, []) => some expression
    | _ => none

end StreamWatch.Cron
