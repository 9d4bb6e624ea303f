/-
**Reading settings files.**

A file is a list of lines: a key with its value, the header of a table, the header of one more item of a
list of tables, or nothing but a comment.
-/

import StreamWatch.Json.Reader
import StreamWatch.Text.Blank
import StreamWatch.Toml.Scalar
import StreamWatch.Toml.Table

namespace StreamWatch.Toml

open StreamWatch.Json (hexValue?)

/-- A parser that may not match. -/
abbrev Parser (α : Type) := List Char → Option (α × List Char)

/-- Skips the blanks inside a line. -/
def skipBlank (text : List Char) : List Char := text.dropWhile fun c => c = ' ' ∨ c = '\t'

/-- Whether a character may stand in a comment or between single quotes. -/
def isPlain (c : Char) : Bool := c == '\t' || (0x20 ≤ c.toNat && c.toNat != 0x7F)

/-- Skips a comment, if there is one. -/
def skipComment : List Char → List Char
  | '#' :: rest => rest.dropWhile isPlain
  | text => text

/-- The text after the end of a line. -/
def newLine? : List Char → Option (List Char)
  | '\n' :: rest => some rest
  | '\r' :: '\n' :: rest => some rest
  | _ => none

/-- Skips blanks, comments and ends of lines. -/
def skipLines : (fuel : Nat) → List Char → List Char
  | 0, text => text
  | fuel + 1, text =>
    let rest := skipComment (skipBlank text)
    match newLine? rest with
    | some next => skipLines fuel next
    | none => rest

/-! ### Texts -/

/-- The character of hexadecimal digits. -/
def numbered? (digits : List Char) : Option Char := do
  let n ← digits.foldlM (fun n c => (hexValue? c).map (n * 16 + ·)) 0
  if n < 0xD800 ∨ (0xDFFF < n ∧ n < 0x110000) then some (Char.ofNat n) else none

/-- The character an escape stands for, the backslash being read already. -/
def escape? : Parser Char
  | 'b' :: rest => some ('\x08', rest)
  | 't' :: rest => some ('\t', rest)
  | 'n' :: rest => some ('\n', rest)
  | 'f' :: rest => some ('\x0C', rest)
  | 'r' :: rest => some ('\r', rest)
  | '"' :: rest => some ('"', rest)
  | '\\' :: rest => some ('\\', rest)
  | 'u' :: rest =>
    if rest.length < 4 then none else (numbered? (rest.take 4)).map fun c => (c, rest.drop 4)
  | 'U' :: rest =>
    if rest.length < 8 then none else (numbered? (rest.take 8)).map fun c => (c, rest.drop 8)
  | _ => none

/-- The rest of a text between double quotes on one line. -/
def basicRest? : (fuel : Nat) → (done : List Char) → Parser String
  | 0, _, _ => none
  | fuel + 1, done, text =>
    match text with
    | '"' :: rest => some (String.ofList done.reverse, rest)
    | '\\' :: rest => do
      let (c, rest) ← escape? rest
      basicRest? fuel (c :: done) rest
    | c :: rest => if isPlain c then basicRest? fuel (c :: done) rest else none
    | [] => none

/-- The rest of a text between single quotes on one line. -/
def literalRest? (text : List Char) : Option (String × List Char) :=
  match text.dropWhile fun c => isPlain c && c != '\'' with
  | '\'' :: rest => some (String.ofList (text.takeWhile fun c => isPlain c && c != '\''), rest)
  | _ => none

/-- Skips the white space after a backslash at the end of a line. -/
def skipJoin : (fuel : Nat) → List Char → List Char
  | 0, text => text
  | fuel + 1, text =>
    match newLine? (skipBlank text) with
    | some rest => skipJoin fuel rest
    | none => skipBlank text

/-- The rest of a text of several lines between triple quotes; up to two quotes right before the closing
ones belong to the text. Escapes count only where `escapes` says so. -/
def linesRest? (quote : Char) (escapes : Bool) : (fuel : Nat) → (done : List Char) → Parser String
  | 0, _, _ => none
  | fuel + 1, done, text =>
    let closing := text.takeWhile (· == quote)
    if 3 ≤ closing.length then
      let extra := min (closing.length - 3) 2
      some (String.ofList (done.reverse ++ List.replicate extra quote), text.drop (3 + extra))
    else
      match newLine? text with
      | some rest => linesRest? quote escapes fuel ('\n' :: done) rest
      | none =>
        match text with
        | [] => none
        | c :: rest =>
          if c = '\\' ∧ escapes then
            match newLine? (skipBlank rest) with
            | some next => linesRest? quote escapes fuel done (skipJoin fuel next)
            | none =>
              match escape? rest with
              | some (e, rest) => linesRest? quote escapes fuel (e :: done) rest
              | none => none
          else if isPlain c then linesRest? quote escapes fuel (c :: done) rest
          else none

/-- The text without the end of a line it begins with. -/
def dropFirstEnd (text : List Char) : List Char := (newLine? text).getD text

/-- A text between quotes of any kind. -/
def text? (text : List Char) : Option (String × List Char) :=
  match text with
  | '"' :: '"' :: '"' :: rest => linesRest? '"' true (rest.length + 1) [] (dropFirstEnd rest)
  | '\'' :: '\'' :: '\'' :: rest => linesRest? '\'' false (rest.length + 1) [] (dropFirstEnd rest)
  | '"' :: rest => basicRest? (rest.length + 1) [] rest
  | '\'' :: rest => literalRest? rest
  | _ => none

/-! ### Keys -/

/-- Whether a character may stand in a key without quotes. -/
def isBare (c : Char) : Bool :=
  ('a' ≤ c && c ≤ 'z') || ('A' ≤ c && c ≤ 'Z') || ('0' ≤ c && c ≤ '9') || c == '_' || c == '-'

/-- A key without dots. -/
def simpleKey? : Parser String
  | '"' :: rest => basicRest? (rest.length + 1) [] rest
  | '\'' :: rest => literalRest? rest
  | text =>
    match text.takeWhile isBare with
    | [] => none
    | name => some (String.ofList name, text.dropWhile isBare)

/-- The keys after a dot. -/
def moreKeys? : (fuel : Nat) → Parser (List String)
  | 0, text => some ([], text)
  | fuel + 1, text =>
    match skipBlank text with
    | '.' :: rest => do
      let (key, rest) ← simpleKey? (skipBlank rest)
      let (keys, rest) ← moreKeys? fuel rest
      pure (key :: keys, rest)
    | rest => some ([], rest)

/-- A key with its dots taken apart: the path to its last part, and that part. Blanks after it are
skipped. -/
def key? (text : List Char) : Option ((List String × String) × List Char) := do
  let (first, rest) ← simpleKey? (skipBlank text)
  let (more, rest) ← moreKeys? rest.length rest
  let keys := first :: more
  pure ((keys.dropLast, keys.getLastD first), rest)

/-! ### Values -/

/-- Whether a character may stand in a word. -/
def isWord (c : Char) : Bool := isBare c || c == '+' || c == '.' || c == ':'

/-- A word; a date may have a blank before its time of day. -/
def scalar? (text : List Char) : Option (Json × List Char) :=
  let word := text.takeWhile isWord
  let rest := text.dropWhile isWord
  let joined : Option (Json × List Char) :=
    match date? word, rest with
    | some (_, []), ' ' :: time =>
      (moment? (word ++ ' ' :: time.takeWhile isWord)).map fun value => (value, time.dropWhile isWord)
    | _, _ => none
  joined <|> (word? word).map fun value => (value, rest)

/-- How deep values may stand inside each other. -/
def maxDepth : Nat := 80

mutual

/-- A value. -/
def value? : (fuel depth : Nat) → Parser Json
  | 0, _, _ => none
  | fuel + 1, depth, text =>
    match text with
    | '[' :: rest => if depth < maxDepth then items? fuel (depth + 1) [] rest else none
    | '{' :: rest =>
      if depth < maxDepth then
        match skipBlank rest with
        | '}' :: rest => some (.object [], rest)
        | rest => inline? fuel (depth + 1) [] rest
      else none
    | '"' :: _ => (text? text).map fun (value, rest) => (.str value, rest)
    | '\'' :: _ => (text? text).map fun (value, rest) => (.str value, rest)
    | _ => scalar? text

/-- The items of a list up to its end, those read so far in reverse. -/
def items? : (fuel depth : Nat) → (done : List Json) → Parser Json
  | 0, _, _, _ => none
  | fuel + 1, depth, done, text =>
    match skipLines text.length text with
    | ']' :: rest => some (.list done.reverse, rest)
    | text =>
      match value? fuel depth text with
      | none => none
      | some (item, rest) =>
        match skipLines rest.length rest with
        | ',' :: rest => items? fuel depth (item :: done) rest
        | ']' :: rest => some (.list (item :: done).reverse, rest)
        | _ => none

/-- The members of a table on one line, up to its end. -/
def inline? : (fuel depth : Nat) → (done : Table) → Parser Json
  | 0, _, _, _ => none
  | fuel + 1, depth, done, text =>
    match key? text with
    | some ((path, key), '=' :: rest) =>
      match value? fuel depth (skipBlank rest) with
      | none => none
      | some (value, rest) =>
        match done.putValue? path key value, skipBlank rest with
        | some done, ',' :: rest => inline? fuel depth done rest
        | some done, '}' :: rest => some (done.toJson, rest)
        | _, _ => none
    | _ => none

end

/-! ### Lines -/

/-- The tables read so far, and where new keys go. -/
structure Draft where
  root : Table := []
  path : List String := []

/-- A line that says something, at its first character that is no blank. -/
def line? (draft : Draft) (text : List Char) : Option (Draft × List Char) :=
  match text with
  | '[' :: '[' :: rest =>
    match key? rest with
    | some ((path, key), ']' :: ']' :: rest) =>
      (Table.openItem? path key draft.root).map fun root => (⟨root, path ++ [key]⟩, rest)
    | _ => none
  | '[' :: rest =>
    match key? rest with
    | some ((path, key), ']' :: rest) =>
      (Table.openTable? path key draft.root).map fun root => (⟨root, path ++ [key]⟩, rest)
    | _ => none
  | _ =>
    match key? text with
    | some ((path, key), '=' :: rest) =>
      match value? (rest.length + 1) 0 (skipBlank rest) with
      | some (value, rest) =>
        (Table.changeAt? (·.putValue? path key value) draft.path draft.root).map fun root =>
          (⟨root, draft.path⟩, rest)
      | none => none
    | _ => none

/-- The lines of a file from some point on. -/
def lines? : (fuel : Nat) → Draft → List Char → Option Draft
  | 0, _, _ => none
  | fuel + 1, draft, text =>
    let start := skipBlank text
    let said := if start.isEmpty ∨ start.head? = some '#' ∨ (newLine? start).isSome then some (draft, start)
      else line? draft start
    match said with
    | none => none
    | some (draft, rest) =>
      match skipComment (skipBlank rest) with
      | [] => some draft
      | rest =>
        match newLine? rest with
        | some next => lines? fuel draft next
        | none => none

/-- The document value of a settings file, which may begin with a byte order mark. -/
def read? (text : String) : Option Json :=
  let text := match text.toList with
    | '\uFEFF' :: rest => rest
    | text => text
  (lines? (text.length + 1) {} text).map (·.root.toJson)

end StreamWatch.Toml
