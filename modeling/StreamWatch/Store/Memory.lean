/-
**A store that keeps its records in memory.**

* `Memory.answer`: what it answers a call with, and what it keeps afterwards.
-/

import StreamWatch.SortedMap
import StreamWatch.Store.Call

namespace StreamWatch

/-- Records by the ids of their streams. -/
abbrev Memory := SortedMap Int StreamStats

namespace Memory

/-- The record of a stream after a successful probe. -/
def afterSuccess (memory : Memory) (now : Instant) (id : Int) (metrics : Metrics)
    (isBlackScreen : Option Bool) : StreamStats :=
  match memory.get? id with
  | some stats => stats.applySuccess metrics isBlackScreen now
  | none => .ofSuccess id metrics isBlackScreen now

/-- The record of a stream after a failed probe. -/
def afterFailure (memory : Memory) (now : Instant) (id : Int) (status : ProbeStatus)
    (error : Option String) : StreamStats :=
  match memory.get? id with
  | some stats => stats.applyFailure status error now
  | none => .ofFailure id status error now

/-- The records that satisfy a condition. -/
def select (memory : Memory) (keep : StreamStats → Bool) : List StreamStats :=
  memory.values.filter keep

/-- The store with the runs of failures of some streams forgotten. -/
def reset (memory : Memory) (ids : List Int) : Memory :=
  ids.foldl (fun memory id => memory.modify id StreamStats.resetStreak) memory

/-- Whether a record's run of failures has reached a threshold above zero. -/
def isStruck (threshold : UInt32) (stats : StreamStats) : Bool :=
  threshold != 0 && threshold ≤ stats.consecutiveFailures

/-- What the store answers a call with, and what it keeps afterwards. -/
def answer (now : Instant) (memory : Memory) : (call : StoreCall) → call.Reply × Memory
  | .get id => (.ok (memory.get? id), memory)
  | .getMany ids => (.ok ((memory.filter fun id _ => ids.contains id).values), memory)
  | .listAll => (.ok memory.values, memory)
  | .listByStatus statuses => (.ok (memory.select fun stats => statuses.contains stats.status), memory)
  | .listStruck threshold => (.ok (memory.select (isStruck threshold)), memory)
  | .recordSuccess id metrics isBlackScreen =>
    let stats := memory.afterSuccess now id metrics isBlackScreen
    (.ok stats, memory.insert id stats)
  | .recordFailure id status error =>
    let stats := memory.afterFailure now id status error
    (.ok stats, memory.insert id stats)
  | .reset ids => (.ok (ids.filter memory.contains).length, memory.reset ids)

end Memory
end StreamWatch
