/-
**Writing document values as text.**

The compact form has no blanks between its parts. The spread form puts each item and member on a line
of its own, indented by two blanks for each container around it.
-/

import StreamWatch.Json.Basic
import StreamWatch.Number.Real

namespace StreamWatch.Json

/-- A hexadecimal digit below sixteen, in lower case. -/
def hexDigit (n : Nat) : Char :=
  if n < 10 then Char.ofNat ('0'.toNat + n) else Char.ofNat ('a'.toNat + (n - 10))

/-- A character as it stands between quotes. -/
def escape (c : Char) : List Char :=
  if c = '"' then ['\\', '"']
  else if c = '\\' then ['\\', '\\']
  else if c = '\n' then ['\\', 'n']
  else if c = '\r' then ['\\', 'r']
  else if c = '\t' then ['\\', 't']
  else if c = '\x08' then ['\\', 'b']
  else if c = '\x0C' then ['\\', 'f']
  else if c.toNat < 0x20 then
    ['\\', 'u', '0', '0', hexDigit (c.toNat / 16), hexDigit (c.toNat % 16)]
  else [c]

/-- A text between quotes. -/
def quoted (text : String) : String :=
  String.ofList ('"' :: (text.toList.flatMap escape ++ ['"']))

/-- A number with a fraction; one that is not finite has no written form and is written as nothing. -/
def realText (x : Binary64) : String :=
  if x.isFinite then Number.shortestText x else "null"

mutual

/-- The compact form of a value. -/
def compact : Json → String
  | null => "null"
  | bool true => "true"
  | bool false => "false"
  | int value => toString value
  | real value => realText value
  | str value => quoted value
  | list items => "[" ++ compactItems items ++ "]"
  | object members => "\x7b" ++ compactMembers members ++ "\x7d"

/-- The compact form of items with commas between them. -/
def compactItems : List Json → String
  | [] => ""
  | [item] => compact item
  | item :: rest => compact item ++ "," ++ compactItems rest

/-- The compact form of members with commas between them. -/
def compactMembers : List (String × Json) → String
  | [] => ""
  | [(name, value)] => quoted name ++ ":" ++ compact value
  | (name, value) :: rest => quoted name ++ ":" ++ compact value ++ "," ++ compactMembers rest

end

/-- A new line indented for a depth of containers. -/
def newLine (depth : Nat) : String :=
  String.ofList ('\n' :: List.replicate (2 * depth) ' ')

mutual

/-- The spread form of a value inside a number of containers. -/
def spread (depth : Nat) : Json → String
  | list [] => "[]"
  | list items => "[" ++ spreadItems (depth + 1) items ++ newLine depth ++ "]"
  | object [] => "\x7b\x7d"
  | object members => "\x7b" ++ spreadMembers (depth + 1) members ++ newLine depth ++ "\x7d"
  | null => "null"
  | bool true => "true"
  | bool false => "false"
  | int value => toString value
  | real value => realText value
  | str value => quoted value

/-- Items of the spread form, each on a line of its own. -/
def spreadItems (depth : Nat) : List Json → String
  | [] => ""
  | [item] => newLine depth ++ spread depth item
  | item :: rest => newLine depth ++ spread depth item ++ "," ++ spreadItems depth rest

/-- Members of the spread form, each on a line of its own. -/
def spreadMembers (depth : Nat) : List (String × Json) → String
  | [] => ""
  | [(name, value)] => newLine depth ++ quoted name ++ ": " ++ spread depth value
  | (name, value) :: rest =>
    newLine depth ++ quoted name ++ ": " ++ spread depth value ++ "," ++ spreadMembers depth rest

end

/-- The spread form of a value. -/
def pretty (value : Json) : String := spread 0 value

end StreamWatch.Json
