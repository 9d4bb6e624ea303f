/-
**Taking struck streams out of channels.**

A stream that failed so many times in a row is struck. The task takes struck streams out of every channel that
carries them, one channel after the other; a channel that cannot be changed stays as it is and does not stop
the others. The runs of failures of the streams that were taken out are forgotten at the end, also when the
task was asked to stop in between.

* `Cleanup.affected`: the channels that carry a struck stream;
* `Cleanup.run`: a whole execution.
-/

import StreamWatch.Remote.Pages
import StreamWatch.Settings.Task
import StreamWatch.Task.Result

namespace StreamWatch

/-- What a cleanup has done so far. -/
structure CleanupLog where
  /-- the streams taken out of some channel, by ascending id -/
  removed : SortedMap Int Unit := .empty
  errors : List String := []

namespace CleanupLog

/-- The log with some streams taken out. -/
def remove (log : CleanupLog) (ids : List Int) : CleanupLog :=
  { log with removed := ids.foldl (fun removed id => removed.insert id ()) log.removed }

/-- The log with an error more. -/
def fail (log : CleanupLog) (error : String) : CleanupLog := { log with errors := log.errors ++ [error] }

/-- The streams taken out, as a document value. -/
def removedJson (log : CleanupLog) : Json := idList log.removed.keys

end CleanupLog

namespace Cleanup

open Program

/-- The channels that carry a struck stream. -/
def affected (struck : List Int) (channels : List Channel) : List Channel :=
  channels.filter fun channel => channel.streams.any struck.contains

/-- Takes the struck streams out of one channel. -/
def runChannel (struck : List Int) (log : CleanupLog) (channel : Channel) : Work TaskCell CleanupLog := do
  change (·.update { item := some (some channel.name) })
  let (dropped, kept) := channel.streams.partition struck.contains
  match ← Work.remote (.updateChannel channel.id ⟨kept⟩) with
  | .ok _ =>
    change (·.count 1 0 0)
    return log.remove dropped
  | .error error =>
    let reason := error.message
    change (·.count 0 1 0)
    return log.fail s!"channel {channel.id}: {reason}"

/-- Takes the struck streams out of some channels, until the task is asked to stop. It tells whether it was. -/
def runChannels (struck : List Int) (log : CleanupLog) : List Channel → Work TaskCell (Bool × CleanupLog)
  | [] => pure (false, log)
  | channel :: rest => do
    if ← look (·.isCancelled) then
      return (true, log)
    runChannels struck (← runChannel struck log channel) rest

/-- Forgets the runs of failures of the streams that were taken out. -/
def resetRemoved (log : CleanupLog) : Work TaskCell CleanupLog := do
  if log.removed.keys.isEmpty then
    return log
  match ← Work.store (.reset log.removed.keys) with
  | .ok _ => return log
  | .error error =>
    let reason := error.message
    return log.fail s!"resetting failure counts: {reason}"

/-- Ends an execution that had nothing to do. -/
def idle (message : String) : Work TaskCell TaskReport := do
  change (·.update { status := some "completed" })
  return .ofProgress (← look (·.progress)) message

/-- What an execution says that went through its channels. -/
def completedMessage (removed : Nat) (p : Progress) : String :=
  s!"Removed {removed} struck streams from {p.succeeded} channels ({p.failed} failed)"

/-- Takes some struck streams out of the channels there are. -/
def runStruck (pageSize : UInt32) (struck : List Int) : Work TaskCell TaskReport := do
  change (·.update { status := some "loading channels" })
  match ← Pages.channels pageSize with
  | .error error => return .fatal .fetchFailed ("Failed to fetch channels: " ++ error.message)
  | .ok channels =>
    let channels := affected struck channels
    change (·.update { status := some "updating channels", total := some channels.length })
    let (isStopped, log) ← runChannels struck {} channels
    let log ← resetRemoved log
    if isStopped then
      let p ← look (·.progress)
      return ((TaskReport.cancelled p s!"Cleanup cancelled after {p.processed} of {p.total} channels").withDetail
        "removed_streams" log.removedJson).withErrors log.errors
    change (·.update { status := some "completed", item := some none })
    let p ← look (·.progress)
    return (((TaskReport.ofProgress p (completedMessage log.removed.keys.length p)).withDetail
      "struck_streams" (.ofNat struck.length)).withDetail
      "removed_streams" log.removedJson).withErrors log.errors

/-- A whole execution. -/
def run (settings : CleanupSettings) (pageSize : UInt32) : Work TaskCell TaskReport := do
  change (·.start "loading struck streams")
  if settings.threshold = 0 then
    return (← idle "Struck stream cleanup is disabled").withDetail "disabled" (.bool true)
  match ← Work.store (.listStruck settings.threshold) with
  | .error error => return .fatal .fetchFailed ("Failed to load struck streams: " ++ error.message)
  | .ok [] => idle s!"No streams at or above {settings.threshold.toNat} consecutive failures"
  | .ok records => runStruck pageSize (records.map (·.streamId))

end Cleanup
end StreamWatch
