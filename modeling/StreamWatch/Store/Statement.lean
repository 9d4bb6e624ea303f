/-
**Setting single cells of the table.**

A cell is set to a literal or to another cell of its row. What a column is declared as decides how a value is
stored in it: numbers become texts in columns of text, and texts that look like numbers become numbers in
columns of numbers.
-/

import StreamWatch.Json.Reader
import StreamWatch.Number.Real
import StreamWatch.Store.Table
import StreamWatch.Text.Blank

namespace StreamWatch

open Number Text

/-- What a column is declared as. -/
inductive Affinity where
  | integer
  | real
  | numeric
  | text
deriving DecidableEq, Repr

/-- A column of the table. -/
structure Column where
  name : String
  affinity : Affinity
  mayBeNull : Bool
  get : Row → Cell
  set : Cell → Row → Row

namespace Column

/-- The columns of the table, but for its key. -/
def all : List Column :=
  [⟨"probe_status", .text, false, (·.status), fun cell row => { row with status := cell }⟩,
   ⟨"resolution", .text, true, (·.resolution), fun cell row => { row with resolution := cell }⟩,
   ⟨"bitrate", .integer, true, (·.bitrate), fun cell row => { row with bitrate := cell }⟩,
   ⟨"video_bitrate", .integer, true, (·.videoBitrate), fun cell row => { row with videoBitrate := cell }⟩,
   ⟨"fps", .real, true, (·.frameRate), fun cell row => { row with frameRate := cell }⟩,
   ⟨"audio_channels", .integer, true, (·.audioChannels), fun cell row => { row with audioChannels := cell }⟩,
   ⟨"video_codec", .text, true, (·.videoCodec), fun cell row => { row with videoCodec := cell }⟩,
   ⟨"audio_codec", .text, true, (·.audioCodec), fun cell row => { row with audioCodec := cell }⟩,
   ⟨"is_black_screen", .numeric, true, (·.isBlackScreen), fun cell row => { row with isBlackScreen := cell }⟩,
   ⟨"consecutive_failures", .integer, false, (·.streak), fun cell row => { row with streak := cell }⟩,
   ⟨"last_error", .text, true, (·.lastError), fun cell row => { row with lastError := cell }⟩,
   ⟨"last_probed_at", .text, false, (·.probedAt), fun cell row => { row with probedAt := cell }⟩]

/-- The column of a name in any case. -/
def ofName? (name : String) : Option Column :=
  all.find? fun column => column.name.toList == name.toList.map Char.toLower

end Column

namespace Affinity

/-- A number with a fraction as a whole number, when it is one. -/
def wholeOf? (x : Binary64) : Option Int :=
  if !x.isFinite then none
  else
    let (significand, power) := x.decompose
    let sign : Int := if x.isNegative then -1 else 1
    let value : Option Nat :=
      if 0 ≤ power then some (significand * twoTo power.natAbs)
      else if significand % twoTo power.natAbs = 0 then some (significand / twoTo power.natAbs) else none
    (value.map fun n => sign * n).filter isSigned

/-- The number of digits with an optional fraction and exponent, blanks around it let pass. -/
def numberOf? (text : List Char) : Option Cell :=
  let isSpace (c : Char) : Bool := c == ' ' || (9 ≤ c.toNat && c.toNat ≤ 13)
  let text := ((text.dropWhile isSpace).reverse.dropWhile isSpace).reverse
  match signedWord? text with
  | some n => some (.integer n)
  | none => if text.any isDigit && !text.any (fun c => c == 'n' || c == 'N') then (real? text).map .real else none

/-- A number in a column of whole numbers. -/
def wholeCell : Cell → Cell
  | .real x => match wholeOf? x with
    | some n => .integer n
    | none => .real x
  | cell => cell

/-- The cell as a column stores it. -/
def store (affinity : Affinity) (cell : Cell) : Cell :=
  let number : Cell := match cell with
    | .text value => (numberOf? value.toList).getD cell
    | _ => cell
  match affinity with
  | .integer => wholeCell number
  | .numeric => wholeCell number
  | .real => match number with
    | .integer n => .real (.ofInt n)
    | other => other
  | .text => match cell with
    | .integer n => .text (toString n)
    | .real x => .text (shortestText x)
    | other => other

end Affinity

/-! ### Literals -/

/-- What stands between single quotes, two of which stand for one. -/
def sqlText? : List Char → Option (List Char)
  | ['\''] => some []
  | '\'' :: '\'' :: rest => (sqlText? rest).map ('\'' :: ·)
  | '\'' :: _ => none
  | c :: rest => (sqlText? rest).map (c :: ·)
  | [] => none

/-- The bytes of pairs of hexadecimal digits up to a closing quote. -/
def sqlBytes? : List Char → Option (List UInt8)
  | ['\''] => some []
  | a :: b :: rest => do
    let byte := (← Json.hexValue? a) * 16 + (← Json.hexValue? b)
    pure (UInt8.ofNat byte :: (← sqlBytes? rest))
  | _ => none

/-- A number without a sign; whole numbers beyond 63 bits lose their last digits. -/
def sqlNumber? (negative : Bool) (text : List Char) : Option Cell :=
  if text.any fun c => !(isDigit c || c == '.' || c == 'e' || c == 'E' || c == '+' || c == '-') then none
  else
    match signedWord? (if negative then '-' :: text else text) with
    | some n => some (.integer n)
    | none => (magnitude? text).map fun x => .real (if negative then x.negate else x)

/-- The value of a literal, or of another cell of the row. -/
def literal? (row : Row) (source : String) : Option Cell :=
  let text := trim source.toList
  let word := String.ofList (text.map Char.toLower)
  if word = "null" then some .null
  else if word = "true" then some (.integer 1)
  else if word = "false" then some (.integer 0)
  else
    match text with
    | '\'' :: rest => (sqlText? rest).map fun chars => .text (String.ofList chars)
    | 'x' :: '\'' :: rest => (sqlBytes? rest).map .blob
    | 'X' :: '\'' :: rest => (sqlBytes? rest).map .blob
    | '-' :: rest => sqlNumber? true (trimStart rest)
    | '+' :: rest => sqlNumber? false (trimStart rest)
    | _ => sqlNumber? false text <|> (Column.ofName? word).map (·.get row)

namespace Table

/-- The key of a row as a column of its own: only a whole number that no other row has can be set. -/
def setKey? (table : Table) (id : Int) (row : Row) (cell : Cell) : Option Table :=
  match Affinity.integer.store cell with
  | .integer key =>
    if key ≠ id ∧ table.contains key then none
    else some (SortedMap.insert (table.filter fun other _ => other != id) key row)
  | _ => none

/-- Sets one cell of the row of a stream. Answers the number of rows changed and the table, or nothing when
the literal or the column makes no sense or the column refuses the value. -/
def setCell? (table : Table) (id : Int) (column literal : String) : Option (Nat × Table) :=
  match table.get? id with
  | none =>
    let isColumn := column.toLower == "stream_id" || (Column.ofName? column).isSome
    if isColumn && (literal? default literal).isSome then some (0, table) else none
  | some row => do
    let cell ← literal? row literal
    if column.toLower = "stream_id" then (table.setKey? id row cell).map (1, ·)
    else
      let column ← Column.ofName? column
      if cell = .null ∧ !column.mayBeNull then none
      else some (1, SortedMap.insert table id (column.set (column.affinity.store cell) row))

end Table
end StreamWatch
