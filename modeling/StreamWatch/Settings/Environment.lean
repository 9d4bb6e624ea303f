/-
**Settings from the environment.**

A variable whose name begins with `STREAM_HEALTH_`, in any case, sets one setting: the rest of the name, in lower
case, is the path to it, with two underscores between its steps. Other variables say nothing, and neither
does one with an empty step. The text of a variable is read as a truth value, a number, a quoted text, a
list or a map where it has the form of one, else it stands for itself.
-/

import StreamWatch.Toml.Reader

namespace StreamWatch.Environment

open Text Number
open StreamWatch.Toml (Parser escape? isPlain)

/-- What the names of variables begin with. -/
def namePrefix : List Char := "stream_health_".toList

/-- The text with each pair of underscores, from left to right, in place of which a dot stands. -/
def dotted : List Char → List Char
  | '_' :: '_' :: rest => '.' :: dotted rest
  | c :: rest => c :: dotted rest
  | [] => []

/-- The pieces of a text between dots. -/
def steps : List Char → List (List Char)
  | [] => [[]]
  | '.' :: rest => [] :: steps rest
  | c :: rest =>
    match steps rest with
    | [] => [[c]]
    | first :: more => (c :: first) :: more

/-- The path to the setting that a variable of this name sets. -/
def path? (name : String) : Option (List String) := do
  let rest ← afterStart? namePrefix (name.toList.map Char.toLower)
  let path := steps (dotted rest)
  if path.any (·.isEmpty) then none else some (path.map String.ofList)

/-! ### Values -/

/-- Skips blanks and ends of lines. -/
def skip (text : List Char) : List Char := text.dropWhile fun c => c = ' ' ∨ c = '\t' ∨ c = '\n'

/-- Whether a character may stand in a plain text. -/
def isOpen (c : Char) : Bool := !(c == ',' || c == '{' || c == '}' || c == '[' || c == ']')

/-- The rest of a text between double quotes. -/
def quotedRest? : (fuel : Nat) → (done : List Char) → Parser String
  | 0, _, _ => none
  | fuel + 1, done, text =>
    match text with
    | '"' :: rest => some (String.ofList done.reverse, rest)
    | '\\' :: rest => do
      let (c, rest) ← escape? rest
      quotedRest? fuel (c :: done) rest
    | c :: rest => if isPlain c then quotedRest? fuel (c :: done) rest else none
    | [] => none

/-- The value of a plain text. -/
def plainValue (text : List Char) : Json :=
  let text := trim text
  let fraction : Option Json := if text.contains '.' then (real? text).map .real else none
  let whole : Option Json :=
    ((natural? wordBound text).map Json.ofNat) <|> ((signedWord? text).map Json.int)
  (fraction <|> whole).getD (.str (String.ofList text))

/-- A key of a map. -/
def key? : Parser String
  | '"' :: rest => quotedRest? (rest.length + 1) [] rest
  | text =>
    match text.takeWhile Toml.isBare with
    | [] => none
    | name => some (String.ofList name, text.dropWhile Toml.isBare)

mutual

/-- A value, with the blanks around it. -/
def value? : (fuel : Nat) → Parser Json
  | 0, _ => none
  | fuel + 1, text =>
    let text := skip text
    let found : Option (Json × List Char) :=
      match afterStart? "true".toList text, afterStart? "false".toList text with
      | some rest, _ => some (.bool true, rest)
      | _, some rest => some (.bool false, rest)
      | none, none =>
        match text with
        | '{' :: rest => members? fuel [] rest
        | '[' :: rest => items? fuel [] rest
        | '"' :: rest => (quotedRest? (rest.length + 1) [] rest).map fun (s, rest) => (.str s, rest)
        | '\'' :: c :: '\'' :: rest => some (.str (String.ofList [c]), rest)
        | '\'' :: _ => none
        | _ => some (plainValue (text.takeWhile isOpen), text.dropWhile isOpen)
    match found with
    | some (value, rest) => some (value, skip rest)
    | none => none

/-- The items of a list up to its end, those read so far in reverse. -/
def items? : (fuel : Nat) → (done : List Json) → Parser Json
  | 0, _, _ => none
  | fuel + 1, done, text =>
    match text with
    | ']' :: rest => some (.list done.reverse, rest)
    | _ =>
      match value? fuel text with
      | some (item, ',' :: rest) => items? fuel (item :: done) rest
      | some (item, ']' :: rest) => some (.list (item :: done).reverse, rest)
      | _ => none

/-- The members of a map up to its end. -/
def members? : (fuel : Nat) → (done : List (String × Json)) → Parser Json
  | 0, _, _ => none
  | fuel + 1, done, text =>
    match text with
    | '}' :: rest => some (.ofMembers done.reverse, rest)
    | _ =>
      match key? (skip text) with
      | none => none
      | some (key, rest) =>
        match skip rest with
        | '=' :: rest =>
          match value? fuel rest with
          | some (value, ',' :: rest) => members? fuel ((key, value) :: done) rest
          | some (value, '}' :: rest) => some (.ofMembers ((key, value) :: done).reverse, rest)
          | _ => none
        | _ => none

end

/-- What the text of a variable stands for; a text that is no value as a whole stands for itself. -/
def valueOf (text : String) : Json :=
  match value? (2 * text.length + 2) text.toList with
  | some (value, []) => value
  | _ => .str text

/-! ### Layers -/

mutual

/-- A value over another: where both are objects their members are laid over each other, else the upper
value counts. -/
def overlaid (lower : Json) : Json → Json
  | .object upper =>
    match lower with
    | .object lower => .object (membersOver lower upper)
    | _ => .object upper
  | upper => upper

/-- Members over others. -/
def membersOver (lower : List (String × Json)) : List (String × Json) → List (String × Json)
  | [] => lower
  | (name, value) :: rest =>
    let value := match lower.lookup name with
      | some below => overlaid below value
      | none => value
    membersOver (Json.putMember name value lower) rest

end

/-- An object that holds a value at the end of a path. -/
def nested (value : Json) : List String → Json
  | [] => value
  | step :: path => .object [(step, nested value path)]

/-- Settings with those of the environment laid over them. -/
def apply (settings : Json) (bindings : List (String × String)) : Json :=
  overlaid settings (bindings.foldl (fun upper (name, text) =>
    match path? name with
    | some path => overlaid upper (nested (valueOf text) path)
    | none => upper) (.object []))

end StreamWatch.Environment
