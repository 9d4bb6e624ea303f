/-
**The tasks that probe streams.**

One probes every stream, the other those whose last probe failed. Both use the one engine there is. While a run
of the engine is a task's own, its progress is the task's, and a request to stop the task is one to stop the
run.

* `ProbeTask.drive`: a run of the engine on behalf of a task;
* `ProbeTask.cancel`: a request to stop the task.
-/

import StreamWatch.Engine.Run
import StreamWatch.Settings.Task
import StreamWatch.Task.Result

namespace StreamWatch

/-- A probe task beside the engine. -/
structure ProbeTask where
  cell : TaskCell := {}
  /-- whether the engine is asked to run on behalf of this task -/
  ownsRun : Bool := false
  engine : EngineCell := {}
deriving DecidableEq, Inhabited, Repr

namespace ProbeTask

open Program

/-- How often the progress of the engine becomes that of the task. -/
def period : Duration := .ofMillis 250

/-- Makes the run the task's own. -/
def own (task : ProbeTask) : ProbeTask := { task with ownsRun := true }

/-- Makes the run no longer the task's own. -/
def disown (task : ProbeTask) : ProbeTask := { task with ownsRun := false }

/-- Asks the engine to stop. -/
def stopEngine (task : ProbeTask) : ProbeTask := { task with engine := task.engine.cancel }

/-- Makes the progress of the engine that of the task. -/
def takeProgress (task : ProbeTask) : ProbeTask :=
  { task with cell := task.cell.replace task.engine.progress }

/-- What is done beside a run: a request to stop is passed on, and the progress of the engine becomes that of
the task. -/
def follow (task : ProbeTask) : ProbeTask :=
  takeProgress (if task.cell.isCancelled then task.stopEngine else task)

/-- A program over the cell of the task. -/
def onCell {α : Type} (work : Work TaskCell α) : Work ProbeTask α :=
  work.zoom (·.cell) fun cell task => { task with cell }

/-- A program over the engine. -/
def onEngine {α : Type} (work : Work EngineCell α) : Work ProbeTask α :=
  work.zoom (·.engine) fun engine task => { task with engine }

/-- The progress that a summary tells. -/
def progressOf (summary : RunSummary) : Progress :=
  { total := summary.total
    current := summary.processed
    succeeded := summary.succeeded
    failed := summary.failed
    skipped := summary.skipped }

/-- What an execution says whose run was stopped. -/
def cancelledMessage (s : RunSummary) : String :=
  s!"Probe run cancelled after {s.processed} of {s.total} streams"

/-- What an execution says whose run went through all streams. -/
def completedMessage (s : RunSummary) : String :=
  s!"Probed {s.total} streams: {s.succeeded} ok, {s.failed} failed ({s.timedOut} timed out), {s.skipped} skipped"

/-- The report of a run. -/
def report (summary : RunSummary) : TaskReport :=
  let p := progressOf summary
  let report := if summary.isCancelled then TaskReport.cancelled p (cancelledMessage summary)
    else TaskReport.ofProgress p (completedMessage summary)
  ((report.withDetail "timeout_count" (.ofNat summary.timedOut)).withDetail
    "black_screen_count" (.ofNat summary.black)).withErrors summary.errors

/-- A run of the engine on behalf of the task. -/
def drive (settings : ProbingSettings) (pageSize : UInt32) (only : Option (List Int)) (skipRefresh : Bool) :
    Work ProbeTask TaskReport := do
  change own
  holding disown
  watching period follow
  let outcome ← onEngine (Engine.run settings pageSize only skipRefresh)
  unwatching
  let report ← match outcome with
    | .ok summary => do
      change takeProgress
      pure (report summary)
    | .error .alreadyRunning =>
      pure (.fatal .probeAlreadyRunning "Another probe run is already in progress")
    | .error (.fetch error) => pure (.fatal .fetchFailed ("Failed to fetch streams: " ++ error.message))
  lettingGo
  return report

/-- The report of a task that has no engine. -/
def withoutEngine : TaskReport := .fatal .noProber "No stream prober is configured"

/-- Probes every stream. -/
def probeAll (hasEngine : Bool) (probing : ProbingSettings) (pageSize : UInt32) (settings : ProbeAllSettings) :
    Work ProbeTask TaskReport := do
  onCell (change (·.start "starting"))
  if hasEngine then drive probing pageSize none !settings.refreshAccounts
  else return withoutEngine

/-- Probes the streams whose last probe failed or ran out of time. -/
def reprobeFailed (hasEngine : Bool) (probing : ProbingSettings) (pageSize : UInt32) :
    Work ProbeTask TaskReport := do
  onCell (change (·.start "loading failed streams"))
  if !hasEngine then
    return withoutEngine
  match ← Work.store (.listByStatus [.failed, .timeout]) with
  | .error error => return .fatal .fetchFailed ("Failed to load failed streams: " ++ error.message)
  | .ok [] =>
    onCell (change (·.update { status := some "completed" }))
    return .ofProgress {} "No failed streams to re-probe"
  | .ok records => drive probing pageSize (some (records.map (·.streamId))) true

/-- A request to stop the task. It reaches the engine only while the run is the task's own. -/
def cancel {Question : Type} {Answer : Question → Type} (hasEngine : Bool) :
    Program ProbeTask Question Answer Unit := do
  change fun task => { task with cell := task.cell.cancel }
  if hasEngine then
    if ← look (·.ownsRun) then
      change stopEngine

end ProbeTask
end StreamWatch
