/-
**Probe runs.**

A run takes the engine, has the accounts of providers refreshed unless it is told not to, fetches the streams,
probes so many of them at a time, and keeps the outcome of each in the store. A run that was asked to stop starts
no more probes.

* `Engine.probeStream`: what a run does with one stream;
* `Engine.run`: a whole run;
* `Engine.probeUrl`: a single address, outside of any run.
-/

import StreamWatch.Engine.Cell
import StreamWatch.Remote.Pages
import StreamWatch.Text.Blank

namespace StreamWatch.Engine

open Program

/-- Whether a stream shows a black screen, when that is looked for and could be told. -/
def blackVerdict {σ : Type} (settings : ProbingSettings) (url : String) : Work σ (Option Bool) := do
  if settings.detectBlackScreen then
    return (← Work.sample url settings.sample).toOption
  else return none

/-- Probes an address and keeps the outcome. What cannot be kept does not count as a success. -/
def probeAndKeep (settings : ProbingSettings) (id : Int) (url : String) : Work EngineCell StreamOutcome := do
  match ← Work.probe url with
  | .ok metrics =>
    let isBlackScreen ← blackVerdict settings url
    match ← Work.store (.recordSuccess id metrics isBlackScreen) with
    | .ok _ => return .succeeded (isBlackScreen == some true)
    | .error error => return .failed ("storing result failed: " ++ error.message)
  | .error error =>
    let status : ProbeStatus := if error.isTimeout then .timeout else .failed
    let _ ← Work.store (.recordFailure id status (some error.message))
    return if error.isTimeout then .timedOut error.message else .failed error.message

/-- The address of a stream without blanks around it, when it has one. -/
def address? (stream : Stream) : Option String :=
  (stream.url.map Text.trimmed).filter (· != "")

/-- What a run does with one stream when its turn comes. -/
def probeStream (settings : ProbingSettings) (stream : Stream) :
    Work EngineCell (Int × StreamOutcome) := do
  if ← look (·.isCancelled) then
    return (stream.id, .notStarted)
  change (EngineCell.sayItem stream.name)
  let outcome ← match address? stream with
    | none => pure (.skipped "no stream URL")
    | some url => probeAndKeep settings stream.id url
  change (EngineCell.count outcome)
  return (stream.id, outcome)

/-- Has accounts refreshed one after the other, until the run is asked to stop. An account that cannot be
refreshed changes nothing for the others. -/
def refreshEach : List Account → Work EngineCell Unit
  | [] => pure ()
  | account :: rest => do
    if ← look (·.isCancelled) then
      return
    let _ ← Work.remote (.refreshAccount account.id)
    refreshEach rest

/-- Has every active account refreshed. -/
def refreshAccounts : Work EngineCell Unit := do
  change (EngineCell.say "refreshing accounts")
  match ← Work.remote .accounts with
  | .ok accounts => refreshEach (accounts.filter (·.isActive))
  | .error _ => return

/-- The streams of a run: those of some ids, or all there are. -/
def fetch (pageSize : UInt32) : Option (List Int) → Work EngineCell (Except RemoteError (List Stream))
  | some ids => Work.remote (.streamsByIds ids)
  | none => Pages.streams pageSize

/-- A run that has taken the engine. -/
def runTaken (settings : ProbingSettings) (pageSize : UInt32) (only : Option (List Int))
    (skipRefresh : Bool) : Work EngineCell (Except EngineError RunSummary) := do
  change EngineCell.rearm
  let startedAt ← Work.now
  change EngineCell.start
  if !skipRefresh then
    refreshAccounts
  change (EngineCell.say "fetching streams")
  match ← fetch pageSize only with
  | .error error =>
    change (EngineCell.say "failed")
    return .error (.fetch error)
  | .ok streams =>
    change (EngineCell.sayProbing streams.length)
    let outcomes ← Work.probeStreams settings streams
    let cancelSeen ← look (·.isCancelled)
    let completedAt ← Work.now
    let summary := RunSummary.ofOutcomes streams.length cancelSeen startedAt completedAt outcomes
    change (EngineCell.finish summary.isCancelled)
    change (EngineCell.keep summary)
    return .ok summary

/-- A run over the streams of some ids, or over all there are. While another run has the engine nothing
happens. -/
def run (settings : ProbingSettings) (pageSize : UInt32) (only : Option (List Int)) (skipRefresh : Bool) :
    Work EngineCell (Except EngineError RunSummary) := do
  let before ← exchange EngineCell.take
  if before.isProbing then
    return .error .alreadyRunning
  holding EngineCell.free
  let summary ← runTaken settings pageSize only skipRefresh
  lettingGo
  return summary

/-- What an address tells, and whether it shows a black screen. Nothing is kept. -/
def probeUrl {σ : Type} (settings : ProbingSettings) (url : String) :
    Work σ (Except ProbeError (Metrics × Option Bool)) := do
  match ← Work.probe url with
  | .error error => return .error error
  | .ok metrics => return .ok (metrics, ← blackVerdict settings url)

end StreamWatch.Engine
