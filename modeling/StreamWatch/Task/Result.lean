/-
**What an execution of a task came to.**

An execution in which something succeeded, or in which there was nothing to do, is a success. One in which
every item failed is not, nor is one that was cancelled or never began its work.

* `ofProgress_isSuccess_iff`: when the counts of an execution make it a success;
* `TaskReport.finalState`: the state an execution leaves its task in.
-/

import StreamWatch.Task.Progress

namespace StreamWatch

open Json

/-- Where a task is in its life. -/
inductive TaskState where
  | idle
  | running
  | completed
  | failed
  | cancelled
deriving DecidableEq, Inhabited, Repr

namespace TaskState

/-- The name of a state. -/
def name : TaskState → String
  | idle => "idle"
  | running => "running"
  | completed => "completed"
  | failed => "failed"
  | cancelled => "cancelled"

/-- Whether an execution ended whose result nobody took yet. -/
def isFinished : TaskState → Bool
  | completed | failed | cancelled => true
  | idle | running => false

/-- A state read from a document value. -/
def decode : Decoder TaskState :=
  .variant ([idle, running, completed, failed, cancelled].map fun s => (s.name, s))

end TaskState

/-- Why an execution was no success. -/
inductive TaskFault where
  | cancelled
  | noProber
  | probeAlreadyRunning
  | invalidSettings
  | fetchFailed
  | allFailed
  | brokeOff
deriving DecidableEq, Repr

/-- The code a result carries for a fault. -/
def TaskFault.code : TaskFault → String
  | cancelled => "CANCELLED"
  | noProber => "NO_PROBER"
  | probeAlreadyRunning => "PROBE_ALREADY_RUNNING"
  | invalidSettings => "INVALID_CONFIG"
  | fetchFailed => "FETCH_FAILED"
  | allFailed => "ALL_FAILED"
  | brokeOff => "TASK_PANICKED"

/-- What an execution came to, whichever task it was of and whenever it was. -/
structure TaskReport where
  isSuccess : Bool
  message : String
  error : Option String := none
  total : Nat := 0
  succeeded : Nat := 0
  failed : Nat := 0
  skipped : Nat := 0
  details : List (String × Json) := []
deriving Inhabited

namespace TaskReport

/-- An execution that came to nothing before any work was done. -/
def fatal (fault : TaskFault) (message : String) : TaskReport :=
  { isSuccess := false, message, error := some fault.code }

/-- Whether counts make an execution a success: something succeeded, or nothing failed either. -/
def isSuccessOf (p : Progress) : Bool := 0 < p.succeeded || p.failed == 0

/-- An execution that went through its items. -/
def ofProgress (p : Progress) (message : String) : TaskReport :=
  { isSuccess := isSuccessOf p
    message
    error := if isSuccessOf p then none else some TaskFault.allFailed.code
    total := p.total
    succeeded := p.succeeded
    failed := p.failed
    skipped := p.skipped }

/-- An execution that was asked to stop before it was through. -/
def cancelled (p : Progress) (message : String) : TaskReport :=
  { ofProgress p message with
    isSuccess := false
    error := some TaskFault.cancelled.code }

/-- The report with a detail; a detail of that name gives way to it. -/
def withDetail (report : TaskReport) (name : String) (value : Json) : TaskReport :=
  { report with details := putMember name value report.details }

/-- The report with the errors of single items, if there are any. -/
def withErrors (report : TaskReport) (errors : List String) : TaskReport :=
  if errors.isEmpty then report else report.withDetail "errors" (.list (errors.map .str))

/-- Whether the execution was asked to stop. -/
def isCancelled (report : TaskReport) : Bool := report.error == some TaskFault.cancelled.code

/-- The state an execution leaves its task in. -/
def finalState (report : TaskReport) : TaskState :=
  if report.isCancelled then .cancelled else if report.isSuccess then .completed else .failed

/-- An execution leaves its task in a state of having ended. -/
theorem finalState_isFinished (report : TaskReport) : report.finalState.isFinished = true := by
  unfold finalState
  split
  · rfl
  · split
    · rfl
    · rfl

theorem finalState_ne_running (report : TaskReport) : report.finalState ≠ .running := by
  intro running
  have ended := report.finalState_isFinished
  rw [running] at ended
  exact nomatch ended

/-- The members that stand for a report in documents. -/
def members (report : TaskReport) : List (String × Json) :=
  [("success", .bool report.isSuccess), ("message", .str report.message),
    ("total_items", .ofNat report.total), ("success_count", .ofNat report.succeeded),
    ("failed_count", .ofNat report.failed), ("skipped_count", .ofNat report.skipped),
    ("details", .object report.details)] ++
    (report.error.map fun code => ("error", Json.str code)).toList

/-- An execution that went through its items is a success unless items failed and none succeeded. -/
theorem ofProgress_isSuccess_iff (p : Progress) (message : String) :
    (ofProgress p message).isSuccess = true ↔ p.failed = 0 ∨ 0 < p.succeeded := by
  simp [ofProgress, isSuccessOf, or_comm]

end TaskReport

/-- What an execution of a task came to. -/
structure TaskResult extends TaskReport where
  taskId : String
  startedAt : Instant
  completedAt : Instant
deriving Inhabited

namespace TaskResult

/-- A result of its single parts. -/
def ofParts (taskId : String) (isSuccess : Bool) (message : String) (error : Option String)
    (startedAt completedAt : Instant) (total succeeded failed skipped : Nat)
    (details : List (String × Json)) : TaskResult :=
  { isSuccess, message, error, total, succeeded, failed, skipped, details, taskId, startedAt, completedAt }

/-- A result read from a document value. -/
def decode : Decoder TaskResult :=
  (ofParts <$> Fields.required "task_id" .string <*> .required "success" .bool
    <*> .required "message" .string <*> .withDefault "error" (.option .string) none
    <*> .required "started_at" .instant <*> .required "completed_at" .instant
    <*> .required "total_items" .natural <*> .required "success_count" .natural
    <*> .required "failed_count" .natural <*> .required "skipped_count" .natural
    <*> .withDefault "details" .members []).decode

/-- The members that stand for a result, but for its times. -/
def outcomeMembers (result : TaskResult) : List (String × Json) :=
  ("task_id", .str result.taskId) :: result.toTaskReport.members

/-- A result as a document value. -/
def toJson (result : TaskResult) : Json :=
  .ofMembers (result.outcomeMembers ++ [("started_at", .str result.startedAt.format),
    ("completed_at", .str result.completedAt.format)])

end TaskResult
end StreamWatch
