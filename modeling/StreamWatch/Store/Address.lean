/-
**Where the table is kept.**

The address of a database begins with the kind of the database. A database of the kind kept in files is opened
here: a missing file is created, with the directories above it, unless the address itself says how the file is
to be opened. Databases of other kinds are on servers, none of which can be reached.
-/

import StreamWatch.Number.Decimal
import StreamWatch.Text.Search

namespace StreamWatch

open Text

/-- The kind of a database. -/
inductive DatabaseKind where
  | sqlite
  | postgres
  | mysql
deriving DecidableEq, Repr

namespace DatabaseKind

/-- The name of a kind. -/
def name : DatabaseKind → String
  | sqlite => "SQLite"
  | postgres => "PostgreSQL"
  | mysql => "MySQL"

/-- What addresses of each kind begin with. -/
def schemes : List (String × DatabaseKind) :=
  [("sqlite:", sqlite), ("postgres:", postgres), ("postgresql:", postgres), ("mysql:", mysql)]

/-- The kind of an address. -/
def ofAddress? (address : String) : Option DatabaseKind :=
  (schemes.find? fun (scheme, _) => (afterStart? scheme.toList address.toList).isSome).map (·.2)

end DatabaseKind

/-- Why a database cannot be opened. -/
inductive OpenError where
  | unsupported (address : String)
  | unreachable
deriving DecidableEq, Repr

/-- What is wrong, in words. -/
def OpenError.message : OpenError → String
  | unsupported address => s!"Unsupported database URL format: {address}"
  | unreachable => "Failed to connect to database"

/-- The directories and files there are, by their paths. -/
structure Files where
  directories : List (List Char)
  files : List (List Char)
deriving Inhabited

namespace Files

/-- Whether there is a file or a directory at a path. -/
def has (files : Files) (path : List Char) : Bool :=
  files.files.contains path || files.directories.contains path

/-- The path to the directory that a path leads into; a path without one leads into the current
directory. -/
def parent (path : List Char) : List Char :=
  ((path.reverse.dropWhile (· != '/')).drop 1).reverse

/-- Whether there is the directory that a path leads into. -/
def hasParent (files : Files) (path : List Char) : Bool :=
  (parent path).isEmpty || files.directories.contains (parent path)

/-- A directory with all directories above it. -/
def ancestors : (fuel : Nat) → List Char → List (List Char)
  | 0, _ => []
  | fuel + 1, path => if path.isEmpty then [] else path :: ancestors fuel (parent path)

/-- The files with a directory made. -/
def makeDirectory (files : Files) (path : List Char) : Files :=
  { files with directories := ancestors path.length path ++ files.directories }

end Files

/-- How a database file is opened. -/
inductive OpenMode where
  | readOnly
  | readWrite
  | create
  | memory
deriving DecidableEq, Repr

/-- A database that is open. -/
structure OpenDatabase where
  kind : DatabaseKind
  isWritable : Bool
  /-- whether what it holds outlasts its use -/
  isLasting : Bool
  files : Files

namespace Address

/-- The address without the kind and the slashes after it. -/
def body (address : List Char) : List Char :=
  match afterStart? "sqlite:".toList address with
  | some ('/' :: '/' :: rest) => rest
  | some rest => rest
  | none => address

/-- The pieces of a text between ampersands. -/
def parameters : List Char → List (List Char)
  | [] => [[]]
  | '&' :: rest => [] :: parameters rest
  | c :: rest =>
    match parameters rest with
    | [] => [[c]]
    | first :: more => (c :: first) :: more

/-- The mode of an address after one parameter. A parameter that is not known makes the address useless. -/
def parameterMode? (mode : OpenMode) (parameter : List Char) : Option OpenMode :=
  match String.ofList parameter with
  | "mode=ro" => some .readOnly
  | "mode=rw" => some .readWrite
  | "mode=rwc" => some .create
  | "mode=memory" => some .memory
  | "cache=private" | "cache=shared" | "immutable=true" | "immutable=1" | "immutable=false"
  | "immutable=0" | "" => some mode
  | _ => none

/-- The path and the mode of an address. -/
def target? (address : List Char) : Option (List Char × OpenMode) :=
  let inner := body address
  let path := inner.takeWhile (· != '?')
  let query := (inner.dropWhile (· != '?')).drop 1
  if path = ":memory:".toList then some (path, .memory)
  else ((parameters query).foldlM parameterMode? .readWrite).map fun mode => (path, mode)

/-- The address with what makes a missing file be created, and the files with the directories above it. -/
def prepare (files : Files) (address : List Char) : List Char × Files :=
  if mentions "mode=".toList address || mentions ":memory:".toList address then (address, files)
  else
    let path := body address
    if files.has path then (address, files)
    else
      let mark := if address.contains '?' then '&' else '?'
      (address ++ mark :: "mode=rwc".toList,
        if files.hasParent path then files else files.makeDirectory (Files.parent path))

/-- Opens the file of an address. -/
def openFile? (files : Files) (path : List Char) : OpenMode → Option (Bool × Files)
  | .memory => some (true, files)
  | mode =>
    if path.isEmpty then some (mode != .readOnly, files)
    else if files.directories.contains path then none
    else if files.files.contains path then some (mode != .readOnly, files)
    else if mode = .create ∧ files.hasParent path then
      some (true, { files with files := path :: files.files })
    else none

/-- Opens the database of an address, with at most so many connections to it. -/
def connect (files : Files) (address : String) (maxConnections : Option UInt32) :
    Except OpenError OpenDatabase :=
  match DatabaseKind.ofAddress? address with
  | none => .error (.unsupported address)
  | some .sqlite =>
    let (prepared, files) := prepare files address.toList
    let opened := do
      let (path, mode) ← target? prepared
      if maxConnections = some 0 ∧ !mentions ":memory:".toList prepared then none
      let (isWritable, files) ← openFile? files path mode
      return ⟨.sqlite, isWritable, mode != .memory && !path.isEmpty, files⟩
    match opened with
    | some database => .ok database
    | none => .error .unreachable
  | some _ => .error .unreachable

end Address
end StreamWatch
