/-
**A store that keeps its records in a table.**

Recording a probe reads the row of the stream, then writes a whole row: a new one when there was none, else
over the one that was there. Both halves are stated apart, for something may happen between them.

* `Table.insert`, `Table.update`: a new row needs a free key, an old one a key that is taken;
* `Table.answer`: what the store answers a call with, and the table afterwards.
-/

import StreamWatch.SortedMap
import StreamWatch.Store.Row

namespace StreamWatch

/-- Rows by the ids of their streams. -/
abbrev Table := SortedMap Int Row

namespace Table

/-- The record of a stream. -/
def find (table : Table) (id : Int) : Except StoreError (Option StreamStats) :=
  match table.get? id with
  | none => .ok none
  | some row => (row.toStats id).map some

/-- The records of the rows that satisfy a condition. All of them have to be readable. -/
def select (table : Table) (keep : Int → Row → Bool) : Except StoreError (List StreamStats) :=
  (table.filter keep).entries.mapM fun (id, row) => row.toStats id

/-- The table with a new row, and the record of that row. -/
def insert (table : Table) (stats : StreamStats) (row : Row) : Except StoreError StreamStats × Table :=
  if table.contains stats.streamId then (.error .database, table)
  else (row.toStats stats.streamId, SortedMap.insert table stats.streamId row)

/-- The table with a row written over an old one, and the record of that row. -/
def update (table : Table) (stats : StreamStats) (row : Row) : Except StoreError StreamStats × Table :=
  if table.contains stats.streamId then
    (row.toStats stats.streamId, SortedMap.insert table stats.streamId row)
  else (.error .database, table)

/-- Writes a record over an old row or into a new one. -/
def save (table : Table) (stats : StreamStats) (isKnown : Bool) : Except StoreError StreamStats × Table :=
  match Row.ofStats stats with
  | .error error => (.error error, table)
  | .ok row => if isKnown then table.update stats row else table.insert stats row

/-- The record to write once the row of the stream has been read, and whether there was one. -/
def recordOf (first : StreamStats) (next : StreamStats → StreamStats) :
    Option StreamStats → StreamStats × Bool
  | some stats => (next stats, true)
  | none => (first, false)

/-- Reads the row of a stream and writes its next record. -/
def record (table : Table) (id : Int) (first : StreamStats) (next : StreamStats → StreamStats) :
    Except StoreError StreamStats × Table :=
  match table.find id with
  | .error error => (.error error, table)
  | .ok known =>
    let (stats, isKnown) := recordOf first next known
    table.save stats isKnown

/-- The row with its run of failures forgotten. -/
def withoutStreak (row : Row) : Row := { row with streak := .integer 0 }

/-- The table with the runs of failures of some streams forgotten. -/
def reset (table : Table) (ids : List Int) : Table :=
  table.mapValues fun id row => if ids.contains id then withoutStreak row else row

/-- The number of rows with one of some ids. -/
def countOf (table : Table) (ids : List Int) : Nat :=
  (table.filter fun id _ => ids.contains id).entries.length

/-- Whether a row's run of failures has reached a threshold above zero. -/
def isStruck (threshold : UInt32) (row : Row) : Bool :=
  row.streak.reaches (min threshold.toNat Row.maxStreak)

/-- What the store answers a call with, and the table afterwards. -/
def answer (now : Instant) (table : Table) : (call : StoreCall) → call.Reply × Table
  | .get id => (table.find id, table)
  | .getMany ids =>
    (if ids.isEmpty then .ok [] else table.select fun id _ => ids.contains id, table)
  | .listAll => (table.select fun _ _ => true, table)
  | .listByStatus statuses =>
    (if statuses.isEmpty then .ok []
      else table.select fun _ row => statuses.any fun status => row.status == .text status.name, table)
  | .listStruck threshold =>
    (if threshold = 0 then .ok [] else table.select fun _ row => isStruck threshold row, table)
  | .recordSuccess id metrics isBlackScreen =>
    table.record id (.ofSuccess id metrics isBlackScreen now) (·.applySuccess metrics isBlackScreen now)
  | .recordFailure id status error =>
    table.record id (.ofFailure id status error now) (·.applyFailure status error now)
  | .reset ids => if ids.isEmpty then (.ok 0, table) else (.ok (table.countOf ids), table.reset ids)

end Table
end StreamWatch
