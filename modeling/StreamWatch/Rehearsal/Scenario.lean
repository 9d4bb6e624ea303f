/-
**What can be done in a rehearsal.**

Each step of a scenario is a play with an answer. Some run to their ends, others launch a job and go on, to wait
for its end later. A step about a task that is not known has no answer.

* `Scenario.body`: what the jobs do;
* `Stage.rehearse`: a whole scenario.
-/

import StreamWatch.Rehearsal.Machine
import StreamWatch.Rehearsal.World
import StreamWatch.Service.Control

namespace StreamWatch.Rehearsal

open Program

/-- The largest number of steps of a rehearsal, and of the looks at whether something has ended. -/
def maxSteps : Nat := 281474976710656

/-- Waits until something holds of the world. -/
def waitUntil (isOver : World → Bool) : Scenario Unit := do
  let _ ← Program.get (Wait.condition isOver none)
  return ()

/-- Waits until something holds of the world, or no longer than so long. It tells whether it held. -/
def waitFor (isOver : World → Bool) (limit : Duration) : Scenario Bool :=
  Program.get (Wait.condition isOver (some limit))

/-- Lets time go by. -/
def rest (length : Duration) : Scenario Unit := do
  let _ ← waitFor (fun _ => false) length
  return ()

/-- The milliseconds since the rehearsal began. -/
def millisNow : Scenario Nat := do
  return (← Program.get Wait.clock) / nanosPerMilli

/-- Looks at the service. -/
def lookAtService {α : Type} (f : Service → α) : Scenario α := look fun world => f world.service

/-- Changes the service. -/
def changeService (f : Service → Service) : Scenario Unit :=
  change fun world => { world with service := f world.service }

/-- Has the service do what may be refused. What is refused changes nothing. -/
def attempt {ε α : Type} (f : Service → Except ε (α × Service)) : Scenario (Except ε α) := do
  let before ← exchange fun world =>
    match f world.service with
    | .ok (_, service) => { world with service }
    | .error _ => world
  return (f before.service).map (·.1)

/-- Has the service do what may be refused after it began. -/
def attemptAll {ε α : Type} (f : Service → Except ε α × Service) : Scenario (Except ε α) := do
  let before ← exchange fun world => { world with service := (f world.service).2 }
  return (f before.service).1

/-- Has the service do what may be refused and tells nothing. -/
def request {ε : Type} (f : Service → Except ε Service) : Scenario (Except ε Unit) :=
  attempt fun service => (f service).map ((), ·)

/-- A number for a job. -/
def newNumber : Scenario Nat := do
  return (← exchange fun world => { world with nextJob := world.nextJob + 1 }).nextJob

/-- Has a thread of its own do a job. -/
def launch (job : Job) : Scenario Unit := Program.get (Wait.launch job)

/-- What a job came to, once it has ended. -/
def awaitEnding (number : Nat) : Scenario Ending := do
  waitUntil fun world => (world.endings.lookup number).isSome
  return (← look fun world => world.endings.lookup number).getD .broken

/-- A job that keeps what it comes to, also when it breaks off. -/
def keeping {α : Type} (number : Nat) (ending : α → Ending) (play : Scenario α) : Scenario Unit := do
  holding (World.close number .broken)
  let result ← play
  change (World.close number (ending result))
  lettingGo

namespace Stage

variable (stage : Stage)

/-! ### Probe runs -/

/-- A probe run. -/
def probeAll (only : Option (List Int)) (skipRefresh : Bool) :
    Scenario (Except EngineError RunSummary) :=
  stage.onService (Service.onEngine (Engine.run stage.setup.settings.probing
    stage.setup.settings.remote.pageSize only skipRefresh))

/-- Launches a probe run. -/
def launchProbeAll (only : Option (List Int)) (skipRefresh : Bool) : Scenario Unit := do
  let number ← newNumber
  change fun world => { world with runs := world.runs ++ [number] }
  launch (.probeRun number only skipRefresh)

/-- What the oldest probe run launched came to, unless it broke off, if one was launched. -/
def joinProbe : Scenario (Option (Option (Except EngineError RunSummary))) := do
  match (← exchange fun world => { world with runs := world.runs.drop 1 }).runs with
  | [] => return none
  | number :: _ =>
    match ← awaitEnding number with
    | .run result => return some (some result)
    | _ => return some none

/-- Probes an address outside of any run. -/
def probeUrl (url : String) : Scenario (Except ProbeError (Metrics × Option Bool)) :=
  stage.onService (Engine.probeUrl stage.setup.settings.probing url)

/-- Asks the engine to stop, and tells whether it was running. -/
def cancelProbe : Scenario Bool := do
  changeService fun service => { service with engine := service.engine.cancel }
  lookAtService (·.engine.isProbing)

/-! ### Tasks -/

/-- A step about a task that has to be known. -/
def withTask {α : Type} (id : String) (step : Duty → Scenario α) : Scenario (Option α) := do
  match ← lookAtService (·.tasks.get? id) with
  | none => return none
  | some task => return some (← step task.duty)

/-- An execution of a task. -/
def runTask (id : String) : Scenario (Option TaskResult) :=
  withTask id fun _ => stage.onService (Service.execute stage.setup id)

/-- Launches an execution of a task. -/
def launchTask (id : String) : Scenario (Option Unit) :=
  withTask id fun _ => do
    let number ← newNumber
    change fun world => { world with executions := world.executions ++ [number] }
    launch (.execution number id)

/-- What the oldest execution launched came to, unless it broke off, if one was launched. -/
def joinTask : Scenario (Option (Option TaskResult)) := do
  match (← exchange fun world => { world with executions := world.executions.drop 1 }).executions with
  | [] => return none
  | number :: _ =>
    match ← awaitEnding number with
    | .execution result => return some (some result)
    | _ => return some none

/-- Asks a task to stop, and tells whether it was asked to. -/
def cancelTask (id : String) : Scenario (Option Bool) :=
  withTask id fun _ => do
    stage.onService (Service.cancelTask stage.setup id)
    lookAtService fun service => (service.cellOf id).isCancelled

/-- Takes back a request to stop a task. -/
def rearmTask (id : String) : Scenario (Option Unit) :=
  withTask id fun _ => changeService fun service => service.putCell id (service.cellOf id).rearm

/-- How far a task has come. -/
def taskProgress (id : String) : Scenario (Option Progress) :=
  withTask id fun _ => lookAtService fun service => (service.cellOf id).progress

/-- The settings of a task. -/
def taskSettings (id : String) : Scenario (Option Json) := withTask id fun duty => pure duty.settingsJson

/-- Changes the settings of a task. -/
def changeTask (id : String) (change : Json) : Scenario (Option (Except String Unit)) :=
  withTask id fun duty =>
    match duty.change change with
    | .error message => pure (.error message)
    | .ok changed => do
      changeService (Service.putDuty id changed)
      return .ok ()

/-- Whether a task can work with its settings. -/
def checkTask (id : String) : Scenario (Option (Except String Unit)) :=
  withTask id fun duty => pure (duty.check stage.setup.hasEngine)

/-! ### The scheduler -/

/-- Registers a task. -/
def register (id : String) (timing : Timing) (isEnabled : Bool) :
    Scenario (Option (Except SchedulingError Unit)) :=
  withTask id fun _ => request (·.register stage.now id timing isEnabled)

/-- Registers tasks as the settings of the service say. -/
def registerAll (ids : List String) : Scenario (Except SchedulingError Unit) :=
  attemptAll fun service => service.registerAll stage.setup stage.now ids

/-- Takes the result of a task. -/
def takeResult (id : String) : Scenario (Except SchedulingError (Option TaskResult)) :=
  attempt fun service => (service.scheduler.takeResult id).map fun (result, scheduler) =>
    (result, service.withScheduler scheduler)

/-- Gives a task another timing. -/
def setTiming (id : String) (timing : Timing) : Scenario (Except SchedulingError Unit) :=
  request fun service => (service.scheduler.setTiming id timing).map service.withScheduler

/-- Lets a task start by itself, or no longer. -/
def setEnabled (id : String) (isEnabled : Bool) : Scenario (Except SchedulingError Unit) :=
  request fun service => (service.scheduler.setEnabled id isEnabled).map service.withScheduler

/-- Changes the settings of a registered task. -/
def changeSettings (id : String) (change : Json) : Scenario (Except SchedulingError Unit) :=
  attemptAll fun service => service.changeSettings stage.setup id change

/-- Starts a task. -/
def trigger (id : String) : Scenario (Except SchedulingError Unit) := do
  match ← request (·.trigger stage.now id) with
  | .error error => return .error error
  | .ok _ =>
    change fun world => { world with underWay := world.underWay + 1 }
    launch (.scheduled id)
    return .ok ()

/-- Asks a running task to stop. -/
def cancel (id : String) : Scenario (Except SchedulingError Unit) := do
  match ← lookAtService (·.scheduler.checkRunning id) with
  | .error error => return .error error
  | .ok _ =>
    stage.onService (Service.cancelTask stage.setup id)
    return .ok ()

/-- Starts tasks one after the other, and tells which were started. -/
def startEach : List String → Scenario (List String)
  | [] => pure []
  | id :: rest => do
    match ← stage.trigger id with
    | .ok _ => return id :: (← startEach rest)
    | .error _ => startEach rest

/-- Starts the tasks that are due so many seconds from now, and tells which were started. -/
def runDue (seconds : Int) : Scenario (List String) := do
  let now : Instant := { stage.now with seconds := stage.now.seconds + seconds }
  stage.startEach (← lookAtService (·.scheduler.due now))

/-- The state of a task once it is not running, looked at every ten milliseconds. -/
def awaitTask (id : String) : (looks : Nat) → Scenario (Except SchedulingError TaskState)
  | 0 => pure (.ok .running)
  | looks + 1 => do
    match ← lookAtService (·.scheduler.entry id) with
    | .error error => return .error error
    | .ok entry =>
      if entry.state = .running then
        rest (.ofMillis 10)
        awaitTask id looks
      else return .ok entry.state

/-- Asks the running tasks to stop. -/
def cancelEach : List String → Scenario Unit
  | [] => pure ()
  | id :: rest => do
    stage.onService (Service.cancelTask stage.setup id)
    cancelEach rest

/-- Asks the running tasks to stop, and waits for their ends as long as is set. It tells how many milliseconds that
took. -/
def shutdown : Scenario Nat := do
  let before ← millisNow
  stage.cancelEach (← lookAtService (·.scheduler.running))
  let _ ← waitFor (fun world => world.underWay == 0) stage.setup.settings.scheduler.shutdownGrace
  return (← millisNow) - before

/-- Looks for due tasks at every check until the job is asked to end. -/
def checkLoop (number : Nat) : (checks : Nat) → Scenario Unit
  | 0 => pure ()
  | checks + 1 => do
    if ← waitFor (fun world => world.dismissed.contains number)
        stage.setup.settings.scheduler.checkInterval then
      let _ ← stage.shutdown
    else
      let _ ← stage.runDue 0
      checkLoop number checks

/-- Has due tasks looked for during so many milliseconds. It tells whether that went well. -/
def runChecks (millis : Nat) : Scenario Bool := do
  let number ← newNumber
  launch (.checks number)
  rest (.ofMillis millis)
  change fun world => { world with dismissed := number :: world.dismissed }
  match ← awaitEnding number with
  | .checks => return true
  | _ => return false

/-! ### The remote -/

/-- Gives a channel an order of streams. -/
def applyOrder (channel : Int) (ordered : List Int) : Scenario (Except RemoteError Unit) :=
  stage.onService (Work.remote (.updateChannel channel ⟨ordered⟩))

/-- Every channel. -/
def allChannels (size : UInt32) : Scenario (Except RemoteError (List Channel)) :=
  stage.onService (Pages.channels size)

/-- Every stream. -/
def allStreams (size : UInt32) : Scenario (Except RemoteError (List Stream)) :=
  stage.onService (Pages.streams size)

/-! ### What was noted down -/

/-- Collects the calls to the remote. -/
def collectCalls : Scenario (List String) := do
  return (← exchange fun world => { world with calls := [] }).calls

/-- Collects the addresses probed. -/
def collectProbes : Scenario (List String) := do
  return (← exchange fun world => { world with probed := [] }).probed

/-- Collects the samples taken, in the order of their texts. -/
def collectSamples : Scenario (List String) := do
  return (← exchange fun world => { world with samples := [] }).samples.mergeSort fun a b => a ≤ b

/-- Collects the messages that executions have ended. -/
def collectCompletions : Scenario (Mailbox Completion) := do
  return (← exchange fun world =>
    { world with service := { world.service with scheduler := world.service.scheduler.collect.2 } }
    ).service.scheduler.collect.1

/-! ### Jobs and the whole -/

/-- An execution that the scheduler keeps an eye on. One that breaks off has a result too. -/
def runScheduled (id : String) : Scenario Unit := do
  let number ← newNumber
  launch (.execution number id)
  let result ← match ← awaitEnding number with
    | .execution result => pure result
    | _ => pure (Service.brokenOff id stage.now stage.now)
  changeService fun service => { service with scheduler := service.scheduler.finish result }
  change fun world => { world with underWay := world.underWay - 1 }

/-- What a job does. Checks without a pause between them break off. -/
def runJob : Job → Scenario Unit
  | .probeRun number only skipRefresh => keeping number .run (stage.probeAll only skipRefresh)
  | .execution number id =>
    keeping number .execution (stage.onService (Service.execute stage.setup id))
  | .scheduled id => stage.runScheduled id
  | .checks number =>
    keeping number (fun _ => .checks)
      (if stage.setup.settings.scheduler.checkInterval.isZero then breakOff
       else stage.checkLoop number maxSteps)

/-- What a job does, as a play without a result. -/
def body {α : Type} (job : Job) : Scenario (Option α) := do
  stage.runJob job
  return none

/-- The answers of some steps, one after the other. -/
def inOrder {α : Type} : List (Scenario α) → Scenario (List α)
  | [] => pure []
  | step :: rest => do
    let answer ← step
    return answer :: (← inOrder rest)

/-- The answers of the steps of a scenario, if it comes to its end. -/
def rehearse {α : Type} (world : World) (steps : List (Scenario α)) : Option (List α) :=
  Machine.run stage.body maxSteps (Machine.ofPlay world (some <$> inOrder steps))

end Stage
end StreamWatch.Rehearsal
