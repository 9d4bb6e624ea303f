/-
**Refreshing guide sources.**

Every active guide source is refreshed, one after the other. A refresh goes on after it was asked for, so the
source is looked at again and again: a moved time of its last update tells that the refresh has finished,
and after long enough it is taken to have finished anyway. A source that cannot be refreshed does not stop the
others.

* `GuideRefresh.maxLooks`: how often a source is looked at, at most;
* `GuideRefresh.refresh`: the refresh of one source;
* `GuideRefresh.run`: a whole execution.
-/

import StreamWatch.Engine.Ask
import StreamWatch.Settings.Task
import StreamWatch.Task.Result

namespace StreamWatch

/-- How it was told that a refresh has finished. -/
inductive RefreshVerdict where
  /-- the time of the last update has moved -/
  | updated
  /-- nothing moved for long enough -/
  | assumed
deriving DecidableEq, Repr

/-- Why a guide source was not refreshed. -/
inductive RefreshFault where
  | refused (error : RemoteError)
  | unfinished (within : Duration)
deriving DecidableEq, Repr

/-- What went wrong, in words. -/
def RefreshFault.message : RefreshFault → String
  | refused error => "refresh request failed: " ++ error.message
  | unfinished within => "refresh did not finish within " ++ within.format

/-- What a refresh of many sources has done so far. -/
structure GuideLog where
  /-- the sources whose refresh was only taken to have finished -/
  assumed : List Int := []
  errors : List String := []

namespace GuideRefresh

open Program

/-- What a look at a source tells, so long after its refresh was asked for. -/
def verdict? (settings : RefreshSettings) (previous : Option Instant) (source : GuideSource)
    (elapsed : Nat) : Option RefreshVerdict :=
  if source.updatedAt.isSome ∧ source.updatedAt ≠ previous then some .updated
  else if settings.assumeAfter.toNanos < elapsed then some .assumed
  else none

/-- How often a source is looked at, at most: each look comes no sooner than one pause after the one before,
and none is begun when the longest wait is over. -/
def maxLooks (settings : RefreshSettings) : Nat :=
  settings.maxWait.toNanos / settings.pollInterval.toNanos + 1

variable {σ : Type}

/-- Looks at a source until its refresh has finished, at most so many times. -/
def watch (settings : RefreshSettings) (source : GuideSource) (since : Nat) :
    (looks : Nat) → Work σ (Except RefreshFault RefreshVerdict)
  | 0 => pure (.error (.unfinished settings.maxWait))
  | looks + 1 => do
    if settings.maxWait.toNanos ≤ (← Work.clock) - since then
      return .error (.unfinished settings.maxWait)
    Work.sleep settings.pollInterval
    match ← Work.remote (.guideSource source.id) with
    | .error _ => watch settings source since looks
    | .ok current =>
      match verdict? settings source.updatedAt current ((← Work.clock) - since) with
      | some verdict => return .ok verdict
      | none => watch settings source since looks

/-- Has a source refreshed and waits until that has finished. -/
def refresh (settings : RefreshSettings) (source : GuideSource) :
    Work σ (Except RefreshFault RefreshVerdict) := do
  match ← Work.remote (.refreshGuideSource source.id) with
  | .error error => return .error (.refused error)
  | .ok _ => watch settings source (← Work.clock) (maxLooks settings)

/-- What is done with one source. An inactive one is skipped. -/
def runSource (settings : RefreshSettings) (log : GuideLog) (source : GuideSource) :
    Work TaskCell GuideLog := do
  if !source.isActive then
    change (·.count 0 0 1)
    return log
  change (·.update { item := some (some source.name) })
  match ← refresh settings source with
  | .ok verdict =>
    change (·.count 1 0 0)
    return if verdict = .assumed then { log with assumed := log.assumed ++ [source.id] } else log
  | .error fault =>
    let reason := fault.message
    change (·.count 0 1 0)
    return { log with errors := log.errors ++ [s!"{source.name} ({source.id}): {reason}"] }

/-- What is done with some sources, until the task is asked to stop. It tells whether it was. -/
def runSources (settings : RefreshSettings) (log : GuideLog) :
    List GuideSource → Work TaskCell (Bool × GuideLog)
  | [] => pure (false, log)
  | source :: rest => do
    if ← look (·.isCancelled) then
      return (true, log)
    runSources settings (← runSource settings log source) rest

/-- What an execution says that went through its sources. -/
def completedMessage (p : Progress) : String :=
  s!"Refreshed {p.succeeded} EPG sources ({p.failed} failed, {p.skipped} skipped)"

/-- A whole execution. -/
def run (settings : RefreshSettings) : Work TaskCell TaskReport := do
  change (·.start "loading EPG sources")
  match settings.check with
  | .error message => return .fatal .invalidSettings message
  | .ok _ =>
  match ← Work.remote .guideSources with
  | .error error => return .fatal .fetchFailed ("Failed to fetch EPG sources: " ++ error.message)
  | .ok sources =>
    change (·.update { status := some "refreshing", total := some sources.length })
    let (isStopped, log) ← runSources settings {} sources
    if isStopped then
      let p ← look (·.progress)
      return (TaskReport.cancelled p s!"EPG refresh cancelled after {p.processed} of {p.total} sources").withErrors
        log.errors
    change (·.update { status := some "completed", item := some none })
    let p ← look (·.progress)
    return ((TaskReport.ofProgress p (completedMessage p)).withDetail
      "assumed_complete" (idList log.assumed)).withErrors log.errors

end GuideRefresh
end StreamWatch
