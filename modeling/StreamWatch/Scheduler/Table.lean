/-
**Which tasks there are, and where each is in its life.**

A task is registered once, under its own name. It starts when it is due or when it is asked to, and never
twice at a time. When it has ended, its result waits until it is taken, and a message tells of the end.

* `Entry.next?`: when a task is to start next;
* `Scheduler.due`: the tasks that are to start now;
* `Scheduler.start`, `Scheduler.finish`: the begin and the end of an execution.
-/

import StreamWatch.Scheduler.Error
import StreamWatch.Scheduler.Mailbox
import StreamWatch.SortedMap
import StreamWatch.Task.Result

namespace StreamWatch

/-- What the scheduler knows of a task. -/
structure Entry where
  timing : Timing
  isEnabled : Bool
  state : TaskState := .idle
  registeredAt : Instant
  lastRun : Option Instant := none
  lastResult : Option TaskResult := none
deriving Inhabited

namespace Entry

/-- The point in time from which the next start counts. -/
def base (entry : Entry) : Instant := entry.lastRun.getD entry.registeredAt

/-- When the task is to start next. -/
def next? (entry : Entry) : Option Instant :=
  if entry.isEnabled then entry.timing.next? entry.base else none

/-- Whether the task is to start now. -/
def isDue (now : Instant) (entry : Entry) : Bool :=
  entry.state != .running && entry.next?.any (· ≤ now)

end Entry

/-- The message that an execution has ended. -/
structure Completion where
  state : TaskState
  result : TaskResult
deriving Inhabited

/-- The tasks by their names, and the messages that executions have ended. -/
structure Scheduler where
  entries : SortedMap String Entry := .empty
  completions : Mailbox Completion := {}
deriving Inhabited

namespace Scheduler

/-- What is known of a task, which has to be registered. -/
def entry (scheduler : Scheduler) (id : String) : Except SchedulingError Entry :=
  match scheduler.entries.get? id with
  | some entry => .ok entry
  | none => .error (.unknownTask id)

/-- The scheduler with an entry written. -/
def write (scheduler : Scheduler) (id : String) (entry : Entry) : Scheduler :=
  { scheduler with entries := scheduler.entries.insert id entry }

/-- Accepts a timing under which a task can start. -/
def checkTiming (id : String) (timing : Timing) : Except SchedulingError Unit :=
  timing.check.mapError (.badTiming id)

/-- Registers a task under a name that no other has. -/
def register (scheduler : Scheduler) (now : Instant) (id : String) (timing : Timing) (isEnabled : Bool) :
    Except SchedulingError Scheduler := do
  checkTiming id timing
  if scheduler.entries.contains id then throw (.alreadyRegistered id)
  else pure (scheduler.write id { timing, isEnabled, registeredAt := now })

/-- Begins an execution of a task that is not running. -/
def start (scheduler : Scheduler) (now : Instant) (id : String) : Except SchedulingError Scheduler := do
  let entry ← scheduler.entry id
  if entry.state = .running then throw (.alreadyRunning id)
  else pure (scheduler.write id { entry with state := .running, lastRun := some now })

/-- Ends an execution. -/
def finish (scheduler : Scheduler) (result : TaskResult) : Scheduler :=
  let state := result.finalState
  { entries := scheduler.entries.modify result.taskId fun entry =>
      { entry with state, lastResult := some result }
    completions := scheduler.completions.post ⟨state, result⟩ }

/-- The tasks that are to start now, by ascending name. -/
def due (scheduler : Scheduler) (now : Instant) : List String :=
  (scheduler.entries.filter fun _ entry => entry.isDue now).keys

/-- The tasks that are running, by ascending name. -/
def running (scheduler : Scheduler) : List String :=
  (scheduler.entries.filter fun _ entry => entry.state == .running).keys

/-- Accepts a task that is running. -/
def checkRunning (scheduler : Scheduler) (id : String) : Except SchedulingError Unit := do
  if (← scheduler.entry id).state = .running then pure ⟨⟩ else throw (.notRunning id)

/-- Gives a task another timing. -/
def setTiming (scheduler : Scheduler) (id : String) (timing : Timing) : Except SchedulingError Scheduler := do
  checkTiming id timing
  let entry ← scheduler.entry id
  pure (scheduler.write id { entry with timing })

/-- Lets a task start by itself, or no longer. -/
def setEnabled (scheduler : Scheduler) (id : String) (isEnabled : Bool) :
    Except SchedulingError Scheduler := do
  let entry ← scheduler.entry id
  pure (scheduler.write id { entry with isEnabled })

/-- Takes the result of a task whose execution has ended. -/
def takeResult (scheduler : Scheduler) (id : String) :
    Except SchedulingError (Option TaskResult × Scheduler) := do
  let entry ← scheduler.entry id
  if entry.state.isFinished then pure (entry.lastResult, scheduler.write id { entry with state := .idle })
  else pure (none, scheduler)

/-- Collects the messages that executions have ended. -/
def collect (scheduler : Scheduler) : Mailbox Completion × Scheduler :=
  (scheduler.completions, { scheduler with completions := {} })

end Scheduler
end StreamWatch
