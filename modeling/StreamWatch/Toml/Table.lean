/-
**Tables under construction.**

While a settings file is read, every table remembers how it came to be, since that decides what may still be
added to it. A table named by a header of its own is complete once the next header comes. One that was only
passed through on the way to another can still get a header. One made by a dotted key can get more dotted
keys, but no header. A value can never be extended.

* `Table.putValue?`: a key and its value, the key possibly dotted;
* `Table.openTable?`, `Table.openItem?`: the header of a table, and of one more item of a list of tables.
-/

import StreamWatch.Json.Basic

namespace StreamWatch.Toml

/-- How a table came to be. -/
inductive Origin where
  | header
  | passage
  | dottedKey
deriving DecidableEq, Repr

/-- What stands under a key. -/
inductive Item where
  | value (value : Json)
  | table (origin : Origin) (entries : List (String × Item))
  | tables (items : List (List (String × Item)))

/-- A table under construction. -/
abbrev Table := List (String × Item)

mutual

/-- The document value of an item. -/
def Item.toJson : Item → Json
  | .value value => value
  | .table _ entries => .ofMembers (itemMembers entries)
  | .tables items => .list (itemList items)

/-- The members of a table. -/
def itemMembers : Table → List (String × Json)
  | [] => []
  | (name, item) :: rest => (name, item.toJson) :: itemMembers rest

/-- The objects of a list of tables. -/
def itemList : List Table → List Json
  | [] => []
  | entries :: rest => .ofMembers (itemMembers entries) :: itemList rest

end

namespace Table

/-- The document value of a table. -/
def toJson (table : Table) : Json := .ofMembers (itemMembers table)

/-- The table with an item under a key, in place of the one that stood there. -/
def put (key : String) (item : Item) : Table → Table
  | [] => [(key, item)]
  | (other, old) :: rest =>
    if key = other then (key, item) :: rest else (other, old) :: put key item rest

/-- A list of tables with its last one changed. -/
def changeLast? (change : Table → Option Table) : List Table → Option (List Table)
  | [] => none
  | [last] => (change last).map ([·])
  | first :: rest => (changeLast? change rest).map (first :: ·)

/-- Changes the table at the end of a path of headers. Tables on the way are made when there are none,
and of a list of tables the last one is meant. -/
def changeAt? (change : Table → Option Table) : (path : List String) → Table → Option Table
  | [], table => change table
  | key :: path, table =>
    match table.lookup key with
    | none => (changeAt? change path []).map fun inner => put key (.table .passage inner) table
    | some (.table origin inner) =>
      (changeAt? change path inner).map fun inner => put key (.table origin inner) table
    | some (.tables items) =>
      (changeLast? (changeAt? change path) items).map fun items => put key (.tables items) table
    | some (.value _) => none

/-- Puts a value where no item stands yet. -/
def putNew? (key : String) (value : Json) (table : Table) : Option Table :=
  match table.lookup key with
  | none => some (put key (.value value) table)
  | some _ => none

/-- Puts a value at the end of a path of keys, from a table of an origin. Only tables that no header named
are passed, and the last one has to be one of dotted keys. -/
def putAlong? (value : Json) : (origin : Origin) → (path : List String) → (key : String) → Table → Option Table
  | .dottedKey, [], key, table => putNew? key value table
  | _, [], _, _ => none
  | _, step :: path, key, table =>
    match table.lookup step with
    | none =>
      (putAlong? value .dottedKey path key []).map fun inner => put step (.table .dottedKey inner) table
    | some (.table .header _) => none
    | some (.table origin inner) =>
      (putAlong? value origin path key inner).map fun inner => put step (.table origin inner) table
    | some (.tables items) =>
      (changeLast? (putAlong? value .header path key) items).map fun items => put step (.tables items) table
    | some (.value _) => none

/-- A key with its value in a table; the key may be dotted. -/
def putValue? (path : List String) (key : String) (value : Json) (table : Table) : Option Table :=
  match path with
  | [] => putNew? key value table
  | _ :: _ => putAlong? value .header path key table

/-- The header of a table. -/
def openTable? (path : List String) (key : String) (root : Table) : Option Table :=
  changeAt? (fun table =>
    match table.lookup key with
    | none => some (put key (.table .header []) table)
    | some (.table .passage inner) => some (put key (.table .header inner) table)
    | _ => none) path root

/-- The header of one more item of a list of tables. -/
def openItem? (path : List String) (key : String) (root : Table) : Option Table :=
  changeAt? (fun table =>
    match table.lookup key with
    | none => some (put key (.tables [[]]) table)
    | some (.tables items) => some (put key (.tables (items ++ [[]])) table)
    | _ => none) path root

end Table
end StreamWatch.Toml
