/-
**How far a task has come.**

* `Progress.processed`: what was counted is the sum of successes, failures and skips;
* `TaskCell`: the one place a running task writes its progress to, and where it is asked to stop.
-/

import StreamWatch.Json.Decode

namespace StreamWatch

open Json

/-- How far a task has come. -/
structure Progress where
  total : Nat := 0
  current : Nat := 0
  status : String := ""
  item : Option String := none
  succeeded : Nat := 0
  failed : Nat := 0
  skipped : Nat := 0
deriving DecidableEq, Inhabited, Repr

namespace Progress

/-- The number of items that are done with. -/
def processed (p : Progress) : Nat := p.succeeded + p.failed + p.skipped

/-- Counts items; the current one moves on by as many. -/
def count (p : Progress) (succeeded failed skipped : Nat) : Progress :=
  { p with
    succeeded := p.succeeded + succeeded
    failed := p.failed + failed
    skipped := p.skipped + skipped
    current := p.current + (succeeded + failed + skipped) }

/-- Progress read from a document value. -/
def decode : Decoder Progress :=
  (Progress.mk <$> Fields.required "total" .natural <*> .required "current" .natural
    <*> .required "status" .string <*> .optional "current_item" .string
    <*> .required "success_count" .natural <*> .required "failed_count" .natural
    <*> .required "skipped_count" .natural).decode

/-- Progress as a document value. -/
def toJson (p : Progress) : Json :=
  .ofMembers [("total", .ofNat p.total), ("current", .ofNat p.current), ("status", .str p.status),
    ("current_item", .ofOption .str p.item), ("success_count", .ofNat p.succeeded),
    ("failed_count", .ofNat p.failed), ("skipped_count", .ofNat p.skipped)]

end Progress

/-- New values for some parts of a task's progress. -/
structure ProgressUpdate where
  total : Option Nat := none
  current : Option Nat := none
  status : Option String := none
  item : Option (Option String) := none
deriving DecidableEq, Inhabited, Repr

namespace ProgressUpdate

/-- Progress with the parts that have a new value overwritten. -/
def apply (update : ProgressUpdate) (p : Progress) : Progress :=
  { p with
    total := update.total.getD p.total
    current := update.current.getD p.current
    status := update.status.getD p.status
    item := update.item.getD p.item }

end ProgressUpdate

/-- The progress of a task and whether it was asked to stop. Only the running task writes the progress. -/
structure TaskCell where
  progress : Progress := {}
  isCancelled : Bool := false
deriving DecidableEq, Inhabited, Repr

namespace TaskCell

/-- Starts counting anew. A request to stop that came before still stands. -/
def start (cell : TaskCell) (status : String) : TaskCell := { cell with progress := { status } }

/-- Overwrites some parts of the progress. -/
def update (cell : TaskCell) (update : ProgressUpdate) : TaskCell :=
  { cell with progress := update.apply cell.progress }

/-- Counts items. -/
def count (cell : TaskCell) (succeeded failed skipped : Nat) : TaskCell :=
  { cell with progress := cell.progress.count succeeded failed skipped }

/-- Puts other progress in place of the whole. -/
def replace (cell : TaskCell) (progress : Progress) : TaskCell := { cell with progress }

/-- Asks the task to stop. -/
def cancel (cell : TaskCell) : TaskCell := { cell with isCancelled := true }

/-- Takes back a request to stop, for a new execution. -/
def rearm (cell : TaskCell) : TaskCell := { cell with isCancelled := false }

end TaskCell
end StreamWatch
