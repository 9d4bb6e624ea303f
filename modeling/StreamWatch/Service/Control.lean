/-
**Steering the service.**

Tasks are registered, started and given other settings. Settings that a task cannot work with are refused, and
the ones before are put back.

* `Service.trigger`: the begin of an execution;
* `Service.changeSettings`: a change of the settings of a registered task;
* `Service.registerAll`: the registration of all tasks as the settings of the service say;
* `Service.status`: what is told about a task.
-/

import StreamWatch.Service.State

namespace StreamWatch

/-- What is told about a task. -/
structure TaskStatus where
  id : String
  title : String
  description : String
  entry : Entry
  /-- how far it has come, while it is running -/
  progress : Option Progress
deriving Inhabited

namespace Service

/-- The service with what the scheduler made of a request. -/
def withScheduler (service : Service) (scheduler : Scheduler) : Service := { service with scheduler }

/-- The service with the duty of a task written. -/
def putDuty (id : String) (duty : Duty) (service : Service) : Service :=
  { service with tasks := service.tasks.modify id fun task => { task with duty } }

/-- Begins an execution of a task. A request to stop that came before is taken back. -/
def trigger (service : Service) (now : Instant) (id : String) : Except SchedulingError Service := do
  let scheduler ← service.scheduler.start now id
  pure { (service.putCell id (service.cellOf id).rearm) with scheduler }

/-- Registers a task. -/
def register (service : Service) (now : Instant) (id : String) (timing : Timing) (isEnabled : Bool) :
    Except SchedulingError Service :=
  (service.scheduler.register now id timing isEnabled).map service.withScheduler

/-- The duty of a registered task. -/
def dutyOf (service : Service) (id : String) : Except SchedulingError Duty := do
  let _ ← service.scheduler.entry id
  match service.tasks.get? id with
  | some task => pure task.duty
  | none => throw (.unknownTask id)

/-- The duty that is kept of a changed duty with which a task cannot work: the one before, laid over it. -/
def restored (before changed : Duty) : Duty := ((changed.change before.settingsJson).toOption).getD changed

/-- A change of the settings of a registered task, and the service after it. -/
def changeSettings (setup : Setup) (service : Service) (id : String) (change : Json) :
    Except SchedulingError Unit × Service :=
  match service.dutyOf id with
  | .error error => (.error error, service)
  | .ok before =>
    match before.change change with
    | .error message => (.error (.badSettings id message), service)
    | .ok changed =>
      match changed.check setup.hasEngine with
      | .ok _ => (.ok ⟨⟩, service.putDuty id changed)
      | .error message => (.error (.badSettings id message), service.putDuty id (restored before changed))

/-- Registers one task as the settings of the service say. A task they do not name starts only when asked to. -/
def registerAsSet (setup : Setup) (now : Instant) (service : Service) (id : String) :
    Except SchedulingError Unit × Service :=
  let finish (service : Service) (timing : Timing) (isEnabled : Bool) :=
    match service.register now id timing isEnabled with
    | .ok after => (.ok ⟨⟩, after)
    | .error error => (.error error, service)
  match setup.settings.scheduler.tasks.get? id, (service.tasks.get? id).map (·.duty) with
  | some ⟨isEnabled, timing, some settings⟩, some duty =>
    match duty.change settings with
    | .ok changed => finish (service.putDuty id changed) timing isEnabled
    | .error message => (.error (.badSettings id message), service)
  | some entry, _ => finish service entry.timing entry.enabled
  | none, _ => finish service .manual true

/-- Registers tasks as the settings of the service say, until one is refused. -/
def registerAll (setup : Setup) (now : Instant) (service : Service) :
    List String → Except SchedulingError Unit × Service
  | [] => (.ok ⟨⟩, service)
  | id :: rest =>
    match service.registerAsSet setup now id with
    | (.ok _, after) => registerAll setup now after rest
    | (.error error, after) => (.error error, after)

/-- What is told about a registered task. -/
def statusOf (service : Service) (id : String) (entry : Entry) : TaskStatus :=
  let duty := (service.tasks.get? id).map (·.duty)
  { id
    title := (duty.map Duty.title).getD ""
    description := (duty.map Duty.description).getD ""
    entry
    progress := if entry.state = .running then some (service.cellOf id).progress else none }

/-- What is told about a task. -/
def status (service : Service) (id : String) : Except SchedulingError TaskStatus :=
  (service.scheduler.entry id).map (service.statusOf id)

/-- What is told about all registered tasks, by ascending name. -/
def statuses (service : Service) : List TaskStatus :=
  service.scheduler.entries.entries.map fun (id, entry) => service.statusOf id entry

end Service
end StreamWatch
