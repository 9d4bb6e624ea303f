/-
**The state of the service.**

There is one engine, one scheduler, and the tasks, each with its duty and its cell. An execution of a task sees
of all this only its own cell, and the engine when it probes.

* `Service.onCell`, `Service.onProbeTask`: programs over the part of a task.
-/

import StreamWatch.Scheduler.Table
import StreamWatch.Task.Duty
import StreamWatch.Task.ProbeRun

namespace StreamWatch

/-- What the service was started with. -/
structure Setup where
  settings : Settings := {}
  /-- whether tasks are given an engine -/
  hasEngine : Bool := true
deriving Inhabited

/-- A task: what it is there for, how far it has come, and whether the engine runs on its behalf. -/
structure Task where
  duty : Duty
  cell : TaskCell := {}
  ownsRun : Bool := false
deriving Inhabited

/-- The state of the service. -/
structure Service where
  engine : EngineCell := {}
  tasks : SortedMap String Task := .empty
  scheduler : Scheduler := {}
deriving Inhabited

namespace Service

/-- The service before anything happened, with tasks of some duties. Of two duties of one name the first
counts. -/
def ofDuties (duties : List Duty) : Service :=
  { tasks := .ofList (duties.reverse.map fun duty => (duty.id, { duty })) }

/-- The cell of a task. -/
def cellOf (id : String) (service : Service) : TaskCell :=
  ((service.tasks.get? id).map (·.cell)).getD {}

/-- The service with the cell of a task written. -/
def putCell (id : String) (cell : TaskCell) (service : Service) : Service :=
  { service with tasks := service.tasks.modify id fun task => { task with cell } }

/-- A task beside the engine. -/
def probeTaskOf (id : String) (service : Service) : ProbeTask :=
  { cell := service.cellOf id
    ownsRun := ((service.tasks.get? id).map (·.ownsRun)).getD false
    engine := service.engine }

/-- The service with a task and the engine written. -/
def putProbeTask (id : String) (task : ProbeTask) (service : Service) : Service :=
  { service with
    engine := task.engine
    tasks := service.tasks.modify id fun old => { old with cell := task.cell, ownsRun := task.ownsRun } }

variable {Question : Type} {Answer : Question → Type} {α : Type}

/-- A program over the cell of a task. -/
def onCell (id : String) (program : Program TaskCell Question Answer α) : Program Service Question Answer α :=
  program.zoom (cellOf id) (putCell id)

/-- A program over a task beside the engine. -/
def onProbeTask (id : String) (program : Program ProbeTask Question Answer α) :
    Program Service Question Answer α :=
  program.zoom (probeTaskOf id) (putProbeTask id)

/-- A program over the engine. -/
def onEngine (program : Program EngineCell Question Answer α) : Program Service Question Answer α :=
  program.zoom (·.engine) fun engine service => { service with engine }

end Service
end StreamWatch
