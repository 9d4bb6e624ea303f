/-
**Settings documents: tables of values in the order they are written.**

A table is written as its own values, one to a line, and then its inner tables, each under a line that
names the path to it. That line is left out for a table that holds nothing but inner tables.

* `Node.toJson`: the document value a node stands for, its order forgotten.
-/

import StreamWatch.Json.Writer

namespace StreamWatch.Toml

/-- A value, a table, or a list of tables. -/
inductive Node where
  | value (value : Json)
  | table (entries : List (String × Node))
  | tables (items : List (List (String × Node)))

/-- Entries of a table, in the order they are written. -/
abbrev Entries := List (String × Node)

mutual

/-- The document value a node stands for. -/
def Node.toJson : Node → Json
  | .value value => value
  | .table entries => .ofMembers (membersOf entries)
  | .tables items => .list (listOf items)

/-- The members entries stand for. -/
def membersOf : Entries → List (String × Json)
  | [] => []
  | (name, node) :: rest => (name, node.toJson) :: membersOf rest

/-- The objects a list of tables stands for. -/
def listOf : List Entries → List Json
  | [] => []
  | entries :: rest => .ofMembers (membersOf entries) :: listOf rest

end

/-- Entries that are all plain values. -/
def plain (members : List (String × Json)) : Entries :=
  members.map fun (name, value) => (name, .value value)

/-- The line of a value; nothing is written for the absence of one. -/
def valueLine : String × Node → List String
  | (_, .value .null) => []
  | (name, .value value) => [name ++ " = " ++ value.compact]
  | _ => []

/-- The lines of the values among entries. -/
def valueLines (entries : Entries) : List String := entries.flatMap valueLine

/-- Whether an entry is a table or a list of tables. -/
def isTable : String × Node → Bool
  | (_, .value _) => false
  | _ => true

/-- The line that names the path to a table. -/
def header (path : List String) : String := "[" ++ ".".intercalate path ++ "]"

mutual

/-- The blocks of lines a table at a path is written as. -/
def tableBlocks (path : List String) (entries : Entries) : List (List String) :=
  let values := valueLines entries
  let own := if values.isEmpty && entries.any isTable then [] else [header path :: values]
  own ++ innerBlocks path entries

/-- The blocks of the tables inside a table at a path. -/
def innerBlocks (path : List String) : Entries → List (List String)
  | [] => []
  | (name, .table entries) :: rest => tableBlocks (path ++ [name]) entries ++ innerBlocks path rest
  | (name, .tables items) :: rest => itemBlocks (path ++ [name]) items ++ innerBlocks path rest
  | (_, .value _) :: rest => innerBlocks path rest

/-- The blocks of a list of tables at a path. -/
def itemBlocks (path : List String) : List Entries → List (List String)
  | [] => []
  | entries :: rest =>
    (("[" ++ header path ++ "]") :: valueLines entries) :: innerBlocks path entries ++
      itemBlocks path rest

end

/-- A document with an empty line between its tables. -/
def write (document : Entries) : String :=
  let values := valueLines document
  let blocks := (if values.isEmpty then [] else [values]) ++ innerBlocks [] document
  "\n\n".intercalate (blocks.map fun lines => "\n".intercalate lines) ++ "\n"

end StreamWatch.Toml
