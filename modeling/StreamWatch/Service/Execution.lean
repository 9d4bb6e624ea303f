/-
**Executions of tasks.**

An execution does what the duty of its task says, with the settings that the task had when it began.
-/

import StreamWatch.Service.State
import StreamWatch.Task.Cleanup
import StreamWatch.Task.GuideRefresh

namespace StreamWatch.Service

open Program

/-- What a duty has a task do. -/
def fulfil (setup : Setup) (id : String) : Duty → Work Service TaskReport
  | .probeAll settings =>
    onProbeTask id (ProbeTask.probeAll setup.hasEngine setup.settings.probing
      setup.settings.remote.pageSize settings)
  | .reprobeFailed =>
    onProbeTask id (ProbeTask.reprobeFailed setup.hasEngine setup.settings.probing
      setup.settings.remote.pageSize)
  | .cleanup settings => onCell id (Cleanup.run settings setup.settings.remote.pageSize)
  | .guideRefresh settings => onCell id (GuideRefresh.run settings)
  | .batch _ pace settings => onCell id (Batch.run settings pace)

/-- An execution of a task. There is none of a task that is not known. -/
def execute (setup : Setup) (id : String) : Work Service TaskResult := do
  let startedAt ← Work.now
  match ← look (·.tasks.get? id) with
  | none => breakOff
  | some task =>
    let report ← fulfil setup id task.duty
    return { report with taskId := id, startedAt, completedAt := ← Work.now }

/-- The result of an execution that broke off. -/
def brokenOff (id : String) (startedAt completedAt : Instant) : TaskResult :=
  { TaskReport.fatal .brokeOff "Task execution aborted" with taskId := id, startedAt, completedAt }

/-- A request to stop a task. -/
def cancelTask {Question : Type} {Answer : Question → Type} (setup : Setup) (id : String) :
    Program Service Question Answer Unit := do
  match ← look (·.tasks.get? id) with
  | none => return
  | some task =>
    if task.duty.needsEngine then onProbeTask id (ProbeTask.cancel setup.hasEngine)
    else onCell id (change (·.cancel))

end StreamWatch.Service
