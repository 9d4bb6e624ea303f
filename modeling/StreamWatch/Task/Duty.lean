/-
**What tasks are there for.**

There are four duties, and that of working through a batch. A duty comes with its settings, which can be
changed while the task runs; an execution keeps to those it began with.

* `Duty.change`: the duty with some of its settings changed;
* `Duty.check`: what is wrong with a duty that cannot be fulfilled.
-/

import StreamWatch.Settings.Task
import StreamWatch.Task.Batch

namespace StreamWatch

open Json

/-- What a task is there for, with its settings. -/
inductive Duty where
  /-- to probe every stream -/
  | probeAll (settings : ProbeAllSettings)
  /-- to probe the streams again whose last probe failed -/
  | reprobeFailed
  /-- to take struck streams out of channels -/
  | cleanup (settings : CleanupSettings)
  /-- to refresh guide sources -/
  | guideRefresh (settings : RefreshSettings)
  /-- to work through a batch, so long at each item -/
  | batch (id : String) (pace : Duration) (settings : BatchSettings)
deriving Inhabited

namespace Duty

/-- The name by which a task is known. -/
def id : Duty → String
  | probeAll _ => "stream_probe"
  | reprobeFailed => "reprobe_failed"
  | cleanup _ => "struck_stream_cleanup"
  | guideRefresh _ => "epg_refresh"
  | batch id .. => id

/-- What a task is called. -/
def title : Duty → String
  | probeAll _ => "Stream probe"
  | reprobeFailed => "Re-probe failed streams"
  | cleanup _ => "Struck stream cleanup"
  | guideRefresh _ => "EPG refresh"
  | batch .. => "Batch"

/-- What a task does, in a sentence. -/
def description : Duty → String
  | probeAll _ => "Probe all streams and record their quality and health"
  | reprobeFailed => "Probe again every stream whose last probe failed or timed out"
  | cleanup _ => "Remove streams that keep failing from all channels"
  | guideRefresh _ => "Refresh all active EPG sources and wait for each import to finish"
  | batch .. => "Processes a fixed batch of items"

/-- The settings of a duty as a document value. -/
def settingsJson : Duty → Json
  | probeAll settings => settings.toJson
  | reprobeFailed => .object []
  | cleanup settings => settings.toJson
  | guideRefresh settings => settings.toJson
  | batch _ _ settings => settings.toJson

/-- Whether a duty needs an engine. -/
def needsEngine : Duty → Bool
  | probeAll _ | reprobeFailed => true
  | _ => false

/-- Accepts a change of settings there are none of. -/
def changeNothing : Json → Except String Unit
  | .object [] => .ok ⟨⟩
  | .object _ => .error "reprobe_failed takes no configuration"
  | _ => .error MergeError.notAnObject.message

/-- Refresh settings with a change laid over them. The outcome has to be one under which a refresh can
finish. -/
def changeRefresh (settings : RefreshSettings) (change : Json) : Except String RefreshSettings := do
  let merged ← (mergeSettings RefreshSettings.toJson RefreshSettings.decode settings change).mapError
    (·.message)
  merged.check
  pure merged

/-- The duty with a change laid over its settings. -/
def change (duty : Duty) (change : Json) : Except String Duty :=
  match duty with
  | probeAll settings =>
    ((mergeSettings ProbeAllSettings.toJson ProbeAllSettings.decode settings change).mapError
      (·.message)).map probeAll
  | reprobeFailed => (changeNothing change).map fun _ => reprobeFailed
  | cleanup settings =>
    ((mergeSettings CleanupSettings.toJson CleanupSettings.decode settings change).mapError
      (·.message)).map cleanup
  | guideRefresh settings => (changeRefresh settings change).map guideRefresh
  | batch id pace settings => (settings.change change).map (batch id pace)

/-- Refuses a duty that cannot be fulfilled. -/
def check (hasEngine : Bool) (duty : Duty) : Except String Unit :=
  match duty with
  | probeAll _ | reprobeFailed => if hasEngine then .ok ⟨⟩ else .error "no stream prober is configured"
  | cleanup _ => .ok ⟨⟩
  | guideRefresh settings => settings.check
  | batch _ _ settings => settings.check

/-- The duties there are under some settings of the service, in the order in which they are registered. -/
def standard (settings : Settings) : List Duty :=
  [probeAll ⟨settings.probing.refreshAccounts⟩, reprobeFailed, cleanup {}, guideRefresh settings.refresh]

end Duty
end StreamWatch
