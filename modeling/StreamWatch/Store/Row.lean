/-
**Rows of the table of probe records.**

A cell holds a value of any kind: what a column is declared as changes how values are stored in it, but forbids
none. A record is written as a row of cells of the kinds that belong there. Reading checks every cell.

* `Row.ofStats`: the row of a record, which has no place for a bit rate beyond 63 bits;
* `Row.toStats`: the record of a row whose cells are all of the right kind.
-/

import StreamWatch.Store.Call

namespace StreamWatch

/-- A value in a table. A point in time is held in the table's own form. -/
inductive Cell where
  | null
  | integer (value : Int)
  | real (value : Binary64)
  | text (value : String)
  | blob (value : List UInt8)
  | instant (value : Instant)
deriving DecidableEq, Inhabited, Repr

namespace Cell

/-- A text, when there has to be one. -/
def toText : Cell → Except StoreError String
  | text value => .ok value
  | _ => .error .database

/-- A whole number, when there has to be one. -/
def toInteger : Cell → Except StoreError Int
  | integer value => .ok value
  | _ => .error .database

/-- A whole number of 32 bits with a sign, when there has to be one. -/
def toHalf : Cell → Except StoreError Int
  | integer value => if Number.isSignedHalf value then .ok value else .error .database
  | _ => .error .database

/-- A number with a fraction, when there has to be one. -/
def toReal : Cell → Except StoreError Binary64
  | real value => .ok value
  | _ => .error .database

/-- A truth value, when there has to be one. Every number but zero is true. -/
def toBool : Cell → Except StoreError Bool
  | integer value => .ok (value != 0)
  | _ => .error .database

/-- A point in time, when there has to be one. -/
def toInstant : Cell → Except StoreError Instant
  | instant value => .ok value
  | text value => (Instant.parse value).mapError fun _ => .database
  | _ => .error .database

/-- A cell that may be empty. -/
def optional {α : Type} (read : Cell → Except StoreError α) : Cell → Except StoreError (Option α)
  | null => .ok none
  | cell => (read cell).map some

/-- The cell of a value that may be absent. -/
def ofOption {α : Type} (write : α → Cell) : Option α → Cell
  | some value => write value
  | none => null

/-- The cell of a truth value. -/
def ofBool (value : Bool) : Cell := integer (if value then 1 else 0)

/-- The cell of a number with a fraction; one that is no number is not kept. -/
def ofReal (value : Binary64) : Cell :=
  if value.exponentBits = 2047 ∧ value.fractionBits ≠ 0 then null else real value

/-- Whether a cell compares as at least a number. Texts and bytes compare above all numbers. -/
def reaches (bound : Nat) : Cell → Bool
  | null => false
  | integer value => (bound : Int) ≤ value
  | real value => (bound : Nat).toFloat ≤ value.toFloat
  | _ => true

end Cell

/-- A row of the table, but for its key. -/
structure Row where
  status : Cell
  resolution : Cell
  bitrate : Cell
  videoBitrate : Cell
  frameRate : Cell
  audioChannels : Cell
  videoCodec : Cell
  audioCodec : Cell
  isBlackScreen : Cell
  streak : Cell
  lastError : Cell
  probedAt : Cell
deriving DecidableEq, Inhabited, Repr

namespace Row

/-- The cell of a bit rate, when it has a place in the table. -/
def bitrateCell (bitrate : UInt64) : Except StoreError Cell :=
  if bitrate.toNat < Number.signedBound then .ok (.integer bitrate.toNat)
  else
    let value := bitrate.toNat
    .error (.invalidValue "bitrate" s!"{value} does not fit the column")

/-- The cell of a bit rate that may be absent. -/
def optionalBitrate : Option UInt64 → Except StoreError Cell
  | some bitrate => bitrateCell bitrate
  | none => .ok .null

/-- The cell of a number of channels, of which 32 bits with a sign are kept. -/
def channelsCell (channels : UInt32) : Cell := .integer (Int.bmod channels.toNat Number.halfBound)

/-- The largest run of failures that has a place in the table. -/
def maxStreak : Nat := Number.signedHalfBound - 1

/-- The row of a record. -/
def ofStats (stats : StreamStats) : Except StoreError Row := do
  let bitrate ← optionalBitrate stats.metrics.bitrate
  let videoBitrate ← optionalBitrate stats.metrics.videoBitrate
  pure
    { status := .text stats.status.name
      resolution := .ofOption .text stats.metrics.resolution
      bitrate
      videoBitrate
      frameRate := .ofOption .ofReal stats.metrics.frameRate
      audioChannels := .ofOption channelsCell stats.metrics.audioChannels
      videoCodec := .ofOption .text stats.metrics.videoCodec
      audioCodec := .ofOption .text stats.metrics.audioCodec
      isBlackScreen := .ofOption .ofBool stats.isBlackScreen
      streak := .integer (min stats.consecutiveFailures.toNat maxStreak)
      lastError := .ofOption .text stats.lastError
      probedAt := .instant stats.lastProbedAt }

/-- The status a text names. -/
def statusOf (text : String) : Except StoreError ProbeStatus :=
  match ProbeStatus.ofName? text with
  | some status => .ok status
  | none =>
    let message := ProbeStatus.unknownNameMessage
    .error (.invalidValue "probe_status" s!"'{text}': {message}")

/-- The record of a row. A negative number is read as zero. -/
def toStats (id : Int) (row : Row) : Except StoreError StreamStats := do
  let status ← row.status.toText
  let resolution ← Cell.optional Cell.toText row.resolution
  let bitrate ← Cell.optional Cell.toInteger row.bitrate
  let videoBitrate ← Cell.optional Cell.toInteger row.videoBitrate
  let frameRate ← Cell.optional Cell.toReal row.frameRate
  let audioChannels ← Cell.optional Cell.toHalf row.audioChannels
  let videoCodec ← Cell.optional Cell.toText row.videoCodec
  let audioCodec ← Cell.optional Cell.toText row.audioCodec
  let isBlackScreen ← Cell.optional Cell.toBool row.isBlackScreen
  let streak ← row.streak.toHalf
  let lastError ← Cell.optional Cell.toText row.lastError
  let lastProbedAt ← row.probedAt.toInstant
  let status ← statusOf status
  pure
    { streamId := id
      status
      metrics :=
        { resolution
          bitrate := bitrate.map fun n => UInt64.ofNat n.toNat
          videoBitrate := videoBitrate.map fun n => UInt64.ofNat n.toNat
          frameRate
          audioChannels := audioChannels.map fun n => UInt32.ofNat n.toNat
          videoCodec
          audioCodec }
      isBlackScreen
      consecutiveFailures := UInt32.ofNat streak.toNat
      lastError
      lastProbedAt }

end Row
end StreamWatch
