/-
**The record of a stream's latest probe.**

A record tells the outcome of the latest probe alone, and how many probes in a row have failed. A probe
that fails leaves no technical facts behind.

* `applySuccess_streak`, `applyFailure_streak`: a success ends the run of failures, a failure adds one to
  it, up to the largest number of 32 bits.
-/

import StreamWatch.Stats.Metrics

namespace StreamWatch

/-- How a probe ended. -/
inductive ProbeStatus where
  | success
  | failed
  | timeout
deriving DecidableEq, Inhabited, Repr

namespace ProbeStatus

/-- The name of a status. -/
def name : ProbeStatus → String
  | success => "success"
  | failed => "failed"
  | timeout => "timeout"

/-- The statuses with their names. -/
def named : List (String × ProbeStatus) :=
  [("success", success), ("failed", failed), ("timeout", timeout)]

/-- The status of a name. -/
def ofName? (text : String) : Option ProbeStatus := named.lookup text

/-- What is said of a text that names no status. -/
def unknownNameMessage : String := "Matching variant not found"

/-- Failures and timeouts are both failures. -/
def isFailure : ProbeStatus → Bool
  | success => false
  | _ => true

/-- A status read from a document value. -/
def decode : Json.Decoder ProbeStatus := .variant named

end ProbeStatus

/-- The largest run of failures that is counted. -/
def maxStreak : Nat := Number.halfBound - 1

/-- What is known of a stream from its latest probe. -/
structure StreamStats where
  streamId : Int
  status : ProbeStatus
  metrics : Metrics
  isBlackScreen : Option Bool
  consecutiveFailures : UInt32
  lastError : Option String
  lastProbedAt : Instant
deriving DecidableEq, Inhabited, Repr

namespace StreamStats

/-- The record after a successful probe. -/
def applySuccess (stats : StreamStats) (metrics : Metrics) (isBlackScreen : Option Bool)
    (now : Instant) : StreamStats :=
  { stats with
    status := .success
    metrics := metrics
    isBlackScreen := isBlackScreen
    consecutiveFailures := 0
    lastError := none
    lastProbedAt := now }

/-- One more failure, up to the largest number of 32 bits. -/
def longerStreak (streak : UInt32) : UInt32 :=
  if streak.toNat < maxStreak then streak + 1 else streak

/-- The record after a failed probe. -/
def applyFailure (stats : StreamStats) (status : ProbeStatus) (error : Option String)
    (now : Instant) : StreamStats :=
  { stats with
    status := status
    metrics := {}
    isBlackScreen := none
    consecutiveFailures := longerStreak stats.consecutiveFailures
    lastError := error
    lastProbedAt := now }

/-- A record that tells nothing but the stream and a status. -/
def blank (streamId : Int) (status : ProbeStatus) (now : Instant) : StreamStats :=
  ⟨streamId, status, {}, none, 0, none, now⟩

/-- The record of a first probe that succeeded. -/
def ofSuccess (streamId : Int) (metrics : Metrics) (isBlackScreen : Option Bool) (now : Instant) :
    StreamStats :=
  (blank streamId .success now).applySuccess metrics isBlackScreen now

/-- The record of a first probe that failed. -/
def ofFailure (streamId : Int) (status : ProbeStatus) (error : Option String) (now : Instant) :
    StreamStats :=
  (blank streamId status now).applyFailure status error now

/-- Whether the latest probe saw a black screen. -/
def isBlack (stats : StreamStats) : Bool := stats.isBlackScreen == some true

/-- The record with its run of failures forgotten. -/
def resetStreak (stats : StreamStats) : StreamStats := { stats with consecutiveFailures := 0 }

/-- The fields of a record in documents. -/
def fields : Json.Fields StreamStats :=
  StreamStats.mk <$> .required "stream_id" .signedWord <*> .required "probe_status" ProbeStatus.decode
    <*> Metrics.fields <*> .optional "is_black_screen" .bool
    <*> .required "consecutive_failures" .halfWord <*> .optional "last_error" .string
    <*> .required "last_probed_at" .instant

/-- A record read from a document value. -/
def decode : Json.Decoder StreamStats := fields.decode

/-- A success ends the run of failures. -/
@[simp] theorem applySuccess_streak (stats : StreamStats) (metrics : Metrics)
    (isBlackScreen : Option Bool) (now : Instant) :
    (stats.applySuccess metrics isBlackScreen now).consecutiveFailures = 0 := rfl

/-- A failure adds one to the run of failures, up to the largest number of 32 bits. -/
theorem applyFailure_streak (stats : StreamStats) (status : ProbeStatus) (error : Option String)
    (now : Instant) :
    (stats.applyFailure status error now).consecutiveFailures.toNat =
      min (stats.consecutiveFailures.toNat + 1) maxStreak := by
  have bound : stats.consecutiveFailures.toNat < 4294967296 := stats.consecutiveFailures.toNat_lt
  simp only [applyFailure, longerStreak]
  split
  · next less =>
    simp only [maxStreak, Number.halfBound] at less ⊢
    rw [UInt32.toNat_add, show (1 : UInt32).toNat = 1 from rfl]
    omega
  · next notLess => simp only [maxStreak, Number.halfBound] at notLess ⊢; omega

end StreamStats
end StreamWatch
