/-
**The state of the probe engine.**

An engine runs one probe run at a time. Whether one is running, whether it was asked to stop, how far it has come
and what the last one came to is all that can be seen of it.
-/

import StreamWatch.Engine.Summary
import StreamWatch.Task.Progress

namespace StreamWatch

/-- The state of a probe engine. -/
structure EngineCell where
  isProbing : Bool := false
  isCancelled : Bool := false
  progress : Progress := {}
  lastRun : Option RunSummary := none
deriving DecidableEq, Inhabited, Repr

namespace EngineCell

/-- Takes the engine for a run. -/
def take (cell : EngineCell) : EngineCell := { cell with isProbing := true }

/-- Gives the engine back. -/
def free (cell : EngineCell) : EngineCell := { cell with isProbing := false }

/-- Asks the run to start no more probes. -/
def cancel (cell : EngineCell) : EngineCell := { cell with isCancelled := true }

/-- Takes back a request to stop. -/
def rearm (cell : EngineCell) : EngineCell := { cell with isCancelled := false }

/-- Starts counting anew. -/
def start (cell : EngineCell) : EngineCell := { cell with progress := { status := "starting" } }

/-- Tells what the run is doing. -/
def say (status : String) (cell : EngineCell) : EngineCell :=
  { cell with progress := { cell.progress with status } }

/-- Tells that so many streams are being probed. -/
def sayProbing (total : Nat) (cell : EngineCell) : EngineCell :=
  { cell with progress := { cell.progress with total, status := "probing" } }

/-- Tells the name of the stream that was started last. -/
def sayItem (name : String) (cell : EngineCell) : EngineCell :=
  { cell with progress := { cell.progress with item := some name } }

/-- Counts the outcome of a stream. -/
def count (outcome : StreamOutcome) (cell : EngineCell) : EngineCell :=
  let p := { cell.progress with current := cell.progress.current + 1 }
  { cell with
    progress := match outcome with
      | .succeeded _ => { p with succeeded := p.succeeded + 1 }
      | .failed _ | .timedOut _ => { p with failed := p.failed + 1 }
      | .skipped _ => { p with skipped := p.skipped + 1 }
      | .notStarted => p }

/-- Tells that the run has ended. -/
def finish (isCancelled : Bool) (cell : EngineCell) : EngineCell :=
  { cell with
    progress := { cell.progress with
      status := if isCancelled then "cancelled" else "completed"
      item := none } }

/-- Keeps what the last run came to. -/
def keep (summary : RunSummary) (cell : EngineCell) : EngineCell := { cell with lastRun := some summary }

end EngineCell
end StreamWatch
