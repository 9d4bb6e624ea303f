/-
**What a probe run came to.**

Every stream of a run has one outcome, and the summary counts them.

* `RunSummary.ofOutcomes`: the summary of the outcomes of a run;
* `RunSummary.processed`: the streams of a run that were probed or skipped.
-/

import StreamWatch.Remote.Error
import StreamWatch.Stats.Record

namespace StreamWatch

/-- What happened to one stream in a probe run. -/
inductive StreamOutcome where
  | succeeded (isBlackScreen : Bool)
  | failed (reason : String)
  | timedOut (reason : String)
  | skipped (reason : String)
  /-- the run was cancelled before the stream's turn came -/
  | notStarted
deriving DecidableEq, Repr

/-- Why there was no probe run. -/
inductive EngineError where
  | alreadyRunning
  | fetch (error : RemoteError)
deriving DecidableEq, Repr

/-- What went wrong, in words. -/
def EngineError.message : EngineError → String
  | alreadyRunning => "A probe run is already in progress"
  | fetch error => "Failed to fetch streams: " ++ error.message

/-- What a probe run came to. Timeouts are counted among the failures too. -/
structure RunSummary where
  total : Nat
  succeeded : Nat := 0
  failed : Nat := 0
  timedOut : Nat := 0
  skipped : Nat := 0
  black : Nat := 0
  isCancelled : Bool
  /-- a line for each stream that failed or was skipped -/
  errors : List String := []
  startedAt : Instant
  completedAt : Instant
deriving DecidableEq, Inhabited, Repr

namespace RunSummary

/-- The streams that were probed or skipped. -/
def processed (summary : RunSummary) : Nat := summary.succeeded + summary.failed + summary.skipped

/-- The line of a stream that failed or was skipped. -/
def errorLine (id : Int) (reason : String) : String := s!"{id}: {reason}"

/-- The summary with one more outcome counted. -/
def count (summary : RunSummary) (id : Int) : StreamOutcome → RunSummary
  | .succeeded isBlackScreen =>
    { summary with
      succeeded := summary.succeeded + 1
      black := summary.black + (if isBlackScreen then 1 else 0) }
  | .failed reason =>
    { summary with
      failed := summary.failed + 1
      errors := summary.errors ++ [errorLine id reason] }
  | .timedOut reason =>
    { summary with
      failed := summary.failed + 1
      timedOut := summary.timedOut + 1
      errors := summary.errors ++ [errorLine id reason] }
  | .skipped reason =>
    { summary with
      skipped := summary.skipped + 1
      errors := summary.errors ++ [errorLine id reason] }
  | .notStarted => summary

/-- The summary of the outcomes of a run over so many streams. A request to stop that came after the last
stream had started changes nothing. -/
def ofOutcomes (total : Nat) (cancelSeen : Bool) (startedAt completedAt : Instant)
    (outcomes : List (Int × StreamOutcome)) : RunSummary :=
  let start : RunSummary := { total, isCancelled := false, startedAt, completedAt }
  let summary := outcomes.foldl (fun summary (id, outcome) => summary.count id outcome) start
  { summary with
    errors := summary.errors.mergeSort fun a b => a ≤ b
    isCancelled := cancelSeen && summary.processed < total }

/-- The members that stand for a summary, but for its times. -/
def countMembers (summary : RunSummary) : List (String × Json) :=
  [("total_streams", .ofNat summary.total), ("success_count", .ofNat summary.succeeded),
    ("failed_count", .ofNat summary.failed), ("timeout_count", .ofNat summary.timedOut),
    ("skipped_count", .ofNat summary.skipped), ("black_screen_count", .ofNat summary.black),
    ("cancelled", .bool summary.isCancelled), ("errors", .list (summary.errors.map .str))]

end RunSummary
end StreamWatch
