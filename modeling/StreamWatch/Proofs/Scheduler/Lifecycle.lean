/-
**The life of a task.**

Requests to the service, looks for due tasks and ends of executions come in any order. A course is
the service together with what an onlooker writes down beside it: which task every start was of,
which executions are under way, and which messages were sent. An action of a course is what the
service does on a request, or an end of an execution, whether it returned or broke off; executions
may change the engine and the tasks at any time, and leave the scheduler alone (`leaves_executeOf`).

* `Ledger`: the invariant that ties the scheduler to what was written down;
* `ledger_perform`: every action keeps it;
* `after_lifecycle`: what it says about a task after any actions whatsoever.
-/

import StreamWatch.Proofs.Program.Frame
import StreamWatch.Proofs.Scheduler.Requests
import StreamWatch.Service.Control
import StreamWatch.Service.Execution

namespace StreamWatch

/-! ### What executions and requests to stop leave alone -/

namespace Service

open Program

/-- An execution of a task leaves alone whatever is not changed by writing what is the task's own and the engine. -/
theorem leaves_executeOf {κ : Type} {keep : Service → κ} (setup : Setup) (id : String)
    (cell : ∀ cell service, keep (putCell id cell service) = keep service)
    (task : ∀ task service, keep (putProbeTask id task service) = keep service) : (execute setup id).Leaves keep := by
  refine leaves_bind (leaves_get _ _) fun startedAt => leaves_bind (leaves_look _ _) fun found => ?_
  cases found with
  | none => trivial
  | some known =>
    refine leaves_bind ?_ fun report => leaves_bind (leaves_get _ _) fun completedAt => leaves_done _ _
    cases known.duty with
    | probeAll settings => exact leaves_zoom task _
    | reprobeFailed => exact leaves_zoom task _
    | cleanup settings => exact leaves_zoom cell _
    | guideRefresh settings => exact leaves_zoom cell _
    | batch name pace settings => exact leaves_zoom cell _

/-- A request to stop a task leaves the scheduler alone. -/
theorem leaves_cancelTask {Question : Type} {Answer : Question → Type} (setup : Setup) (id : String) :
    (cancelTask setup id : Program Service Question Answer Unit).Leaves (·.scheduler) := by
  refine leaves_bind (leaves_look _ _) fun found => ?_
  cases found with
  | none => trivial
  | some known =>
    have task (task : ProbeTask) (service : Service) :
        (putProbeTask id task service).scheduler = service.scheduler := rfl
    have cell (cell : TaskCell) (service : Service) : (putCell id cell service).scheduler = service.scheduler := rfl
    by_cases needsEngine : known.duty.needsEngine = true
    · simp only [if_pos needsEngine]
      exact leaves_zoom task _
    · simp only [if_neg needsEngine]
      exact leaves_zoom cell _

/-- The service after a request to stop a task. -/
def afterCancel (setup : Setup) (id : String) (service : Service) : Service :=
  ((cancelTask setup id : Program Service Empty (fun _ => Empty) Unit).alone nofun service).2

theorem scheduler_afterCancel (setup : Setup) (id : String) (service : Service) :
    (service.afterCancel setup id).scheduler = service.scheduler :=
  keep_alone (leaves_cancelTask setup id) nofun service

/-- A change of settings leaves the scheduler alone. -/
theorem scheduler_changeSettings (setup : Setup) (service : Service) (id : String) (change : Json) :
    (service.changeSettings setup id change).2.scheduler = service.scheduler := by
  unfold changeSettings
  split
  · rfl
  · split
    · rfl
    · split
      · rfl
      · rfl

/-- A task starts when the scheduler starts it. -/
theorem eq_of_trigger {service after : Service} {now : Instant} {id : String}
    (granted : service.trigger now id = .ok after) :
    service.scheduler.start now id = .ok after.scheduler := by
  unfold trigger at granted
  cases started : service.scheduler.start now id with
  | error error =>
    rw [started] at granted
    exact nomatch granted
  | ok scheduler =>
    rw [started] at granted
    cases granted
    rfl

theorem trigger_of_refused {service : Service} {now : Instant} {id : String} {error : SchedulingError}
    (refused : service.scheduler.start now id = .error error) :
    service.trigger now id = .error error := by
  rw [trigger, refused]
  rfl

/-- Registering a task changes the scheduler as the scheduler registers it. -/
theorem eq_of_register {service after : Service} {now : Instant} {id : String} {timing : Timing}
    {isEnabled : Bool} (granted : service.register now id timing isEnabled = .ok after) :
    service.scheduler.register now id timing isEnabled = .ok after.scheduler := by
  unfold register at granted
  cases registered : service.scheduler.register now id timing isEnabled with
  | error error =>
    rw [registered] at granted
    exact nomatch granted
  | ok scheduler =>
    rw [registered] at granted
    cases granted
    rfl

end Service

/-! ### Courses -/

/-- An execution that is under way. Executions are numbered in the order in which they were started. -/
structure Flight where
  number : Nat
  task : String
deriving DecidableEq

/-- A message that an execution has ended, with the number of that execution. -/
structure Notice where
  number : Nat
  completion : Completion

/-- The service, and what an onlooker writes down beside it. -/
structure Course where
  service : Service
  /-- the tasks that were started, in the order of their starts -/
  starts : List String := []
  /-- the executions under way -/
  flights : List Flight := []
  /-- the messages that were sent, the oldest first -/
  sent : List Notice := []
  /-- the tasks that each look for due tasks has found and not tried to start yet -/
  found : List (List String) := []

/-- What can happen to the service. -/
inductive Action where
  | register (now : Instant) (id : String) (timing : Timing) (isEnabled : Bool)
  | trigger (now : Instant) (id : String)
  /-- a look for due tasks, which are started one after the other -/
  | look (now : Instant)
  /-- an attempt to start the next of the tasks that a look has found -/
  | startFound (look : Nat) (now : Instant)
  | cancel (id : String)
  | takeResult (id : String)
  | setEnabled (id : String) (isEnabled : Bool)
  | setTiming (id : String) (timing : Timing)
  | changeSettings (id : String) (change : Json)
  /-- what executions do in between -/
  | work (engine : EngineCell) (tasks : SortedMap String Task)
  /-- an execution returns -/
  | comeBack (number : Nat) (report : TaskReport) (startedAt completedAt : Instant)
  /-- an execution breaks off -/
  | breakOff (number : Nat) (startedAt completedAt : Instant)

namespace Course

open Scheduler

/-- The course before anything happened. -/
def fresh (engine : EngineCell) (tasks : SortedMap String Task) : Course :=
  { service := { engine, tasks } }

/-- The course after a request that may be refused. -/
def request (course : Course) : Except SchedulingError Service → Except SchedulingError Unit × Course
  | .ok service => (.ok ⟨⟩, { course with service })
  | .error error => (.error error, course)

/-- The course after a start, which the service has granted. -/
def launched (course : Course) (service : Service) (id : String) : Course :=
  { course with
    service
    starts := course.starts ++ [id]
    flights := course.flights ++ [⟨course.starts.length, id⟩] }

/-- The course after the end of an execution. -/
def landed (course : Course) (flight : Flight) (result : TaskResult) : Course :=
  { course with
    service := course.service.withScheduler (course.service.scheduler.finish result)
    flights := course.flights.erase flight
    sent := course.sent ++ [⟨flight.number, ⟨result.finalState, result⟩⟩] }

/-- The course after an attempt to start a task. -/
def start (course : Course) (now : Instant) (id : String) : Except SchedulingError Unit × Course :=
  match course.service.trigger now id with
  | .ok service => (.ok ⟨⟩, course.launched service id)
  | .error error => (.error error, course)

/-- The course after an attempt to start the next of the tasks that a look has found, if there is
one. -/
def startFound (course : Course) (look : Nat) (now : Instant) : Except SchedulingError Unit × Course :=
  match course.found[look]? with
  | some (id :: rest) => { course with found := course.found.set look rest }.start now id
  | _ => (.ok ⟨⟩, course)

/-- The course after the end of the execution of some number, if it is under way, with the result of
its task. -/
def conclude (course : Course) (number : Nat) (outcome : String → TaskResult) : Course :=
  match course.flights.find? (·.number = number) with
  | some flight => course.landed flight (outcome flight.task)
  | none => course

/-- What is answered to an action, and the course after it. -/
def perform (setup : Setup) (course : Course) : Action → Except SchedulingError Unit × Course
  | .register now id timing isEnabled =>
    course.request (course.service.register now id timing isEnabled)
  | .trigger now id => course.start now id
  | .look now => (.ok ⟨⟩, { course with found := course.found ++ [course.service.scheduler.due now] })
  | .startFound look now => course.startFound look now
  | .cancel id =>
    course.request
      ((course.service.scheduler.checkRunning id).map fun _ => course.service.afterCancel setup id)
  | .takeResult id =>
    course.request
      ((course.service.scheduler.takeResult id).map fun taken => course.service.withScheduler taken.2)
  | .setEnabled id isEnabled =>
    course.request ((course.service.scheduler.setEnabled id isEnabled).map course.service.withScheduler)
  | .setTiming id timing =>
    course.request ((course.service.scheduler.setTiming id timing).map course.service.withScheduler)
  | .changeSettings id change =>
    let changed := course.service.changeSettings setup id change
    (changed.1, { course with service := changed.2 })
  | .work engine tasks => (.ok ⟨⟩, { course with service := { course.service with engine, tasks } })
  | .comeBack number report startedAt completedAt =>
    (.ok ⟨⟩, course.conclude number fun task => { report with taskId := task, startedAt, completedAt })
  | .breakOff number startedAt completedAt =>
    (.ok ⟨⟩, course.conclude number fun task => Service.brokenOff task startedAt completedAt)

/-- The course after some actions. -/
def after (setup : Setup) (engine : EngineCell) (tasks : SortedMap String Task)
    (actions : List Action) : Course :=
  actions.foldl (fun course action => (course.perform setup action).2) (fresh engine tasks)

/-! ### The ledger -/

/-- How many executions of a task are under way. -/
def underWay (course : Course) (id : String) : Nat := course.flights.countP (·.task = id)

/-- How many messages were sent about a task. -/
def told (course : Course) (id : String) : Nat := course.sent.countP (·.completion.result.taskId = id)

/-- Whether a start was of a task, and the latest such start. -/
def IsLatest (starts : List String) (number : Nat) (id : String) : Prop :=
  starts[number]? = some id ∧ ∀ later, starts[later]? = some id → later ≤ number

/-- **What was written down and what the scheduler knows agree.** -/
structure Ledger (course : Course) : Prop where
  /-- one execution of a running task is under way -/
  running : ∀ id, course.service.scheduler.stateOf id = some .running → course.underWay id = 1
  /-- no execution of any other task is -/
  idle : ∀ id, course.service.scheduler.stateOf id ≠ some .running → course.underWay id = 0
  /-- every start is under way or has had its message -/
  tally : ∀ id, course.starts.count id = course.told id + course.underWay id
  /-- an execution is under way or has had its message, and not twice -/
  numbers : (course.flights.map (·.number) ++ course.sent.map (·.number)).Perm
    (List.range course.starts.length)
  /-- an execution under way is the latest of its task -/
  flown : ∀ flight ∈ course.flights, IsLatest course.starts flight.number flight.task
  /-- a message is about the task that was started, and tells the state its result leads to -/
  honest : ∀ notice ∈ course.sent,
    course.starts[notice.number]? = some notice.completion.result.taskId ∧
    notice.completion.state = notice.completion.result.finalState
  /-- the messages were posted one after the other -/
  posted : course.service.scheduler.completions =
    course.sent.foldl (fun mailbox notice => mailbox.post notice.completion) {}
  /-- a task that has ended has the result that the message about its latest execution told -/
  finished : ∀ id entry, course.service.scheduler.entries.get? id = some entry →
    entry.state.isFinished = true →
    ∃ notice ∈ course.sent, IsLatest course.starts notice.number id ∧
      entry.lastResult = some notice.completion.result ∧ notice.completion.state = entry.state

variable {course : Course}

theorem ledger_fresh (engine : EngineCell) (tasks : SortedMap String Task) :
    (fresh engine tasks).Ledger where
  running _ found := nomatch found
  idle _ _ := rfl
  tally _ := rfl
  numbers := .nil
  flown := nofun
  honest := nofun
  posted := rfl
  finished _ _ found := nomatch found

/-- What starts and ends nothing keeps the ledger. -/
theorem Ledger.of_quiet (ledger : course.Ledger) {service : Service}
    (quiet : Quiet course.service.scheduler service.scheduler) (found : List (List String)) :
    Ledger { course with service, found } where
  running id isRunning := ledger.running id ((quiet.running id).mp isRunning)
  idle id notRunning := ledger.idle id fun before => notRunning ((quiet.running id).mpr before)
  tally := ledger.tally
  numbers := ledger.numbers
  flown := ledger.flown
  honest := ledger.honest
  posted := quiet.completions.trans ledger.posted
  finished id entry found ended := by
    obtain ⟨old, before, state, result⟩ := quiet.finished id entry found ended
    rw [← state, ← result]
    rw [← state] at ended
    exact ledger.finished id old before ended

theorem Ledger.of_same (ledger : course.Ledger) {service : Service}
    (same : service.scheduler = course.service.scheduler) (found : List (List String)) :
    Ledger { course with service, found } := by
  refine ledger.of_quiet ?_ found
  rw [same]
  exact .refl _

/-- A request keeps the ledger when it starts and ends nothing, should it be granted. -/
theorem Ledger.request (ledger : course.Ledger) {reply : Except SchedulingError Service}
    (quiet : ∀ service, reply = .ok service → Quiet course.service.scheduler service.scheduler) :
    (course.request reply).2.Ledger := by
  cases reply with
  | error error => exact ledger
  | ok service => exact ledger.of_quiet (quiet service rfl) course.found

/-- A task with an execution under way is running. -/
theorem Ledger.running_of_flight (ledger : course.Ledger) {flight : Flight}
    (flies : flight ∈ course.flights) :
    course.service.scheduler.stateOf flight.task = some .running := by
  refine Decidable.byContradiction fun notRunning => ?_
  exact List.countP_eq_zero.mp (ledger.idle _ notRunning) flight flies (decide_eq_true rfl)

/-! ### A start -/

theorem isLatest_start (starts : List String) (id : String) :
    IsLatest (starts ++ [id]) starts.length id := by
  refine ⟨by simp, fun later started => ?_⟩
  have bound := (List.getElem?_eq_some_iff.mp started).1
  simp only [List.length_append, List.length_singleton] at bound
  omega

/-- A start of a task leaves the latest starts of the others as they are. -/
theorem IsLatest.start {starts : List String} {number : Nat} {id other : String}
    (latest : IsLatest starts number other) (differ : other ≠ id) :
    IsLatest (starts ++ [id]) number other := by
  have bound := (List.getElem?_eq_some_iff.mp latest.1).1
  refine ⟨by rw [List.getElem?_append_left bound]; exact latest.1, fun later started => ?_⟩
  by_cases early : later < starts.length
  · rw [List.getElem?_append_left early] at started
    exact latest.2 later started
  · rw [List.getElem?_append_right (Nat.not_lt.mp early), List.getElem?_singleton] at started
    split at started
    · exact absurd (Option.some.inj started).symm differ
    · exact nomatch started

theorem underWay_launched (course : Course) (service : Service) (id other : String) :
    (course.launched service id).underWay other =
      course.underWay other + if id = other then 1 else 0 := by
  simp only [underWay, launched, List.countP_append, List.countP_singleton, decide_eq_true_eq]

/-- **A start keeps the ledger**: what was not running before is running, with one execution under
way. -/
theorem Ledger.launched (ledger : course.Ledger) {service : Service} {now : Instant} {id : String}
    (started : course.service.scheduler.start now id = .ok service.scheduler) :
    (course.launched service id).Ledger := by
  obtain ⟨entry, found, notRunning, written⟩ := start_eq_ok_iff.mp started
  have idle : course.underWay id = 0 := by
    refine ledger.idle id fun running => notRunning ?_
    rw [stateOf_of_entry found] at running
    exact Option.some.inj running
  have written : (course.launched service id).service.scheduler = _ := written
  refine { running := fun other isRunning => ?_, idle := fun other isIdle => ?_, tally := fun other => ?_,
           numbers := ?_, flown := fun flight flies => ?_, honest := fun notice sent => ?_, posted := ?_,
           finished := fun other kept there ended => ?_ }
  · rw [underWay_launched]
    by_cases same : id = other
    · rw [← same, idle, if_pos rfl]
    · rw [written, stateOf_write_of_ne (Ne.symm same)] at isRunning
      rw [ledger.running other isRunning, if_neg same]
  · rw [underWay_launched]
    by_cases same : id = other
    · subst same
      rw [written, stateOf_of_entry (get?_write_self _ _ _)] at isIdle
      exact absurd rfl isIdle
    · rw [written, stateOf_write_of_ne (Ne.symm same)] at isIdle
      rw [ledger.idle other isIdle, if_neg same]
  · show (course.starts ++ [id]).count other = course.told other + _
    rw [underWay_launched, List.count_append, ledger.tally other, Nat.add_assoc, List.count_singleton]
    simp only [beq_iff_eq]
  · show ((course.flights ++ [_]).map _ ++ _).Perm (List.range (course.starts ++ [id]).length)
    rw [List.length_append, List.length_singleton, List.range_succ, List.map_append, List.append_assoc]
    refine (List.perm_append_comm.append_left _).trans ?_
    rw [← List.append_assoc]
    exact ledger.numbers.append_right _
  · rcases List.mem_append.mp flies with before | new
    · refine (ledger.flown flight before).start fun same => ?_
      exact List.countP_eq_zero.mp idle flight before (decide_eq_true same)
    · rw [List.mem_singleton.mp new]
      exact isLatest_start course.starts id
  · obtain ⟨named, honest⟩ := ledger.honest notice sent
    refine ⟨?_, honest⟩
    show (course.starts ++ [id])[notice.number]? = _
    rw [List.getElem?_append_left (List.getElem?_eq_some_iff.mp named).1]
    exact named
  · rw [written]
    exact ledger.posted
  · rw [written] at there
    by_cases same : other = id
    · subst same
      rw [get?_write_self, Option.some.injEq] at there
      subst there
      exact nomatch ended
    · rw [get?_write_of_ne same] at there
      obtain ⟨notice, sent, latest, result, state⟩ := ledger.finished other kept there ended
      exact ⟨notice, sent, latest.start same, result, state⟩

/-! ### An end -/

theorem underWay_landed {flight : Flight} (flies : flight ∈ course.flights) (result : TaskResult)
    (id : String) :
    (course.landed flight result).underWay id + (if flight.task = id then 1 else 0) =
      course.underWay id := by
  show (course.flights.erase flight).countP _ + _ = course.flights.countP _
  rw [(List.perm_cons_erase flies).countP_eq, List.countP_cons]
  simp only [decide_eq_true_eq]

theorem told_landed (flight : Flight) (result : TaskResult) (id : String) :
    (course.landed flight result).told id = course.told id + if result.taskId = id then 1 else 0 := by
  simp only [told, landed, List.countP_append, List.countP_singleton, decide_eq_true_eq]

/-- **An end keeps the ledger**: of its task one execution less is under way, none that is, and
there is one message more, about its latest start. -/
theorem Ledger.landed (ledger : course.Ledger) {flight : Flight} (flies : flight ∈ course.flights)
    {result : TaskResult} (task : result.taskId = flight.task) :
    (course.landed flight result).Ledger := by
  have running := ledger.running_of_flight flies
  obtain ⟨entry, found, -⟩ := stateOf_eq_some_iff.mp running
  have ended : (course.landed flight result).service.scheduler.entries.get? flight.task =
      some { entry with state := result.finalState, lastResult := some result } := by
    rw [← task] at found ⊢
    exact get?_finish_self result found
  have others {other : String} (differ : other ≠ flight.task) :
      (course.landed flight result).service.scheduler.entries.get? other =
        course.service.scheduler.entries.get? other := by
    rw [← task] at differ
    exact get?_finish_of_ne result differ
  refine { running := fun other isRunning => ?_, idle := fun other isIdle => ?_, tally := fun other => ?_,
           numbers := ?_, flown := fun other flies => ?_, honest := fun notice sent => ?_, posted := ?_,
           finished := fun other kept there isFinished => ?_ }
  · have left := underWay_landed flies result other
    by_cases same : flight.task = other
    · rw [← same, stateOf_of_entry ended, Option.some.injEq] at isRunning
      exact absurd isRunning result.finalState_ne_running
    · rw [stateOf, others (Ne.symm same)] at isRunning
      rw [if_neg same, ledger.running other isRunning] at left
      exact left
  · have left := underWay_landed flies result other
    by_cases same : flight.task = other
    · rw [if_pos same, ← same, ledger.running _ running] at left
      rw [← same]
      exact Nat.succ.inj left
    · rw [stateOf, others (Ne.symm same)] at isIdle
      rw [if_neg same, ledger.idle other isIdle] at left
      exact left
  · have left := underWay_landed flies result other
    show course.starts.count other = _
    rw [told_landed, ledger.tally other, task, ← left]
    omega
  · show ((course.flights.erase flight).map _ ++ (course.sent ++ [_]).map _).Perm _
    refine List.Perm.trans ?_ ledger.numbers
    rw [List.map_append, ← List.append_assoc]
    refine List.perm_append_comm.trans ?_
    exact ((List.perm_cons_erase flies).map (·.number)).symm.append_right _
  · exact ledger.flown other (List.mem_of_mem_erase flies)
  · rcases List.mem_append.mp sent with before | new
    · exact ledger.honest notice before
    · rw [List.mem_singleton.mp new]
      refine ⟨?_, rfl⟩
      show course.starts[flight.number]? = some result.taskId
      rw [task]
      exact (ledger.flown flight flies).1
  · show course.service.scheduler.completions.post _ = (course.sent ++ [_]).foldl _ _
    rw [List.foldl_append, ledger.posted]
    rfl
  · by_cases same : other = flight.task
    · subst same
      rw [ended, Option.some.injEq] at there
      refine ⟨_, List.mem_append_right _ List.mem_cons_self, ledger.flown flight flies, ?_⟩
      rw [← there]
      exact ⟨rfl, rfl⟩
    · rw [others same] at there
      obtain ⟨notice, sent, latest, state⟩ := ledger.finished other kept there isFinished
      exact ⟨notice, List.mem_append_left _ sent, latest, state⟩

/-! ### Any action, and any number of them -/

theorem Ledger.start (ledger : course.Ledger) (now : Instant) (id : String) :
    (course.start now id).2.Ledger := by
  unfold Course.start
  split
  · next service triggered => exact ledger.launched (Service.eq_of_trigger triggered)
  · exact ledger

theorem Ledger.startFound (ledger : course.Ledger) (look : Nat) (now : Instant) :
    (course.startFound look now).2.Ledger := by
  unfold Course.startFound
  split
  · next id rest waiting => exact (ledger.of_same rfl (course.found.set look rest)).start now id
  · exact ledger

theorem Ledger.conclude (ledger : course.Ledger) (number : Nat) (outcome : String → TaskResult)
    (named : ∀ id, (outcome id).taskId = id) : (course.conclude number outcome).Ledger := by
  unfold Course.conclude
  split
  · next flight flown => exact ledger.landed (List.mem_of_find?_eq_some flown) (named flight.task)
  · exact ledger

/-- A request that the scheduler answers keeps the ledger when it starts and ends nothing. -/
theorem Ledger.ask (ledger : course.Ledger) {α : Type} {reply : Except SchedulingError α}
    {next : α → Service} (quiet : ∀ value, reply = .ok value →
      Quiet course.service.scheduler (next value).scheduler) :
    (course.request (reply.map next)).2.Ledger := by
  refine ledger.request fun service granted => ?_
  cases reply with
  | error error => exact nomatch granted
  | ok value =>
    cases granted
    exact quiet value rfl

/-- **Every action keeps the ledger**, whatever is answered to it. -/
theorem ledger_perform (setup : Setup) (ledger : course.Ledger) (action : Action) :
    (course.perform setup action).2.Ledger := by
  cases action with
  | register now id timing isEnabled =>
    exact ledger.request fun service granted => quiet_register (Service.eq_of_register granted)
  | trigger now id => exact ledger.start now id
  | look now => exact ledger.of_same rfl _
  | startFound look now => exact ledger.startFound look now
  | cancel id =>
    refine ledger.ask fun _ _ => ?_
    rw [Service.scheduler_afterCancel]
    exact .refl _
  | takeResult id => exact ledger.ask fun taken granted => quiet_takeResult granted
  | setEnabled id isEnabled => exact ledger.ask fun scheduler granted => quiet_setEnabled granted
  | setTiming id timing => exact ledger.ask fun scheduler granted => quiet_setTiming granted
  | changeSettings id change =>
    exact ledger.of_same (course.service.scheduler_changeSettings setup id change) _
  | work engine tasks =>
    refine ledger.of_same ?_ course.found
    rfl
  | comeBack number report startedAt completedAt =>
    exact ledger.conclude number (fun task => { report with taskId := task, startedAt, completedAt })
      fun _ => rfl
  | breakOff number startedAt completedAt =>
    exact ledger.conclude number (fun task => Service.brokenOff task startedAt completedAt) fun _ => rfl

theorem ledger_after (setup : Setup) (engine : EngineCell) (tasks : SortedMap String Task)
    (actions : List Action) :
    (after setup engine tasks actions).Ledger := by
  suffices later : ∀ course : Course, course.Ledger →
      (actions.foldl (fun course action => (course.perform setup action).2) course).Ledger from
    later _ (ledger_fresh engine tasks)
  induction actions with
  | nil => exact fun course ledger => ledger
  | cons action rest ih => exact fun course ledger => ih _ (ledger_perform setup ledger action)

/-! ### What the ledger says -/

/-- A start of a running task is refused, and nothing comes of it. -/
theorem perform_trigger_of_running (setup : Setup) {id : String}
    (running : course.service.scheduler.stateOf id = some .running) (now : Instant) :
    course.perform setup (.trigger now id) = (.error (.alreadyRunning id), course) := by
  show course.start now id = _
  rw [Course.start, Service.trigger_of_refused (start_of_running running)]

/-- A request to stop a task that is not running is refused, and nothing comes of it. -/
theorem perform_cancel_of_not_running (setup : Setup) {id : String} {entry : Entry}
    (found : course.service.scheduler.entries.get? id = some entry)
    (notRunning : entry.state ≠ .running) :
    course.perform setup (.cancel id) = (.error (.notRunning id), course) := by
  rw [perform, checkRunning_of_not_running found notRunning]
  rfl

/-- **The life of the tasks**, as the scheduler tells it and as it was. -/
structure Lifecycle (setup : Setup) (course : Course) : Prop where
  /-- a registered task is running when one execution of it is under way, and else none is -/
  running_iff : ∀ id entry, course.service.scheduler.entries.get? id = some entry →
    (entry.state = .running ↔ course.underWay id = 1) ∧
      (entry.state ≠ .running ↔ course.underWay id = 0)
  /-- there were as many starts of a task as there were messages about it and executions of it are
  under way -/
  tally : ∀ id, course.starts.count id = course.told id + course.underWay id
  /-- of every single start, the execution is under way or its message was sent, and not both and
  not twice -/
  numbers : (course.flights.map (·.number) ++ course.sent.map (·.number)).Perm
    (List.range course.starts.length)
  flown : ∀ flight ∈ course.flights, course.starts[flight.number]? = some flight.task
  /-- a message is about the task whose start it answers, and tells the state that its result leads
  to -/
  honest : ∀ notice ∈ course.sent,
    course.starts[notice.number]? = some notice.completion.result.taskId ∧
    notice.completion.state = notice.completion.result.finalState
  /-- the messages are those the scheduler has posted -/
  posted : course.service.scheduler.completions =
    course.sent.foldl (fun mailbox notice => mailbox.post notice.completion) {}
  /-- a task that has ended has the result of its latest execution, and its state is the one that
  result leads to -/
  finished : ∀ id entry, course.service.scheduler.entries.get? id = some entry →
    entry.state.isFinished = true →
    ∃ notice ∈ course.sent, IsLatest course.starts notice.number id ∧
      entry.lastResult = some notice.completion.result ∧
      notice.completion.result.finalState = entry.state
  /-- a running task is not started once more -/
  alreadyRunning : ∀ id entry, course.service.scheduler.entries.get? id = some entry →
    entry.state = .running →
    ∀ now, course.perform setup (.trigger now id) = (.error (.alreadyRunning id), course)
  /-- a task that is not running is not asked to stop -/
  notRunning : ∀ id entry, course.service.scheduler.entries.get? id = some entry →
    entry.state ≠ .running →
    course.perform setup (.cancel id) = (.error (.notRunning id), course)

theorem Ledger.running_iff (ledger : course.Ledger) {id : String} {entry : Entry}
    (found : course.service.scheduler.entries.get? id = some entry) :
    (entry.state = .running ↔ course.underWay id = 1) ∧
      (entry.state ≠ .running ↔ course.underWay id = 0) := by
  have state := stateOf_of_entry found
  by_cases running : entry.state = .running
  · rw [running] at state
    have one := ledger.running id state
    exact ⟨⟨fun _ => one, fun _ => running⟩, ⟨fun idle => absurd running idle, fun none => by omega⟩⟩
  · have none := ledger.idle id fun is => running (Option.some.inj (state.symm.trans is))
    exact ⟨⟨fun is => absurd is running, fun one => by omega⟩, ⟨fun _ => none, fun _ => running⟩⟩

/-- **Whatever happened to the service, and in whatever order**, each task is in the state its
executions put it in: it is running while one of them is under way, each of them has one message at
its end, and the result that is kept is that of the latest. -/
theorem after_lifecycle (setup : Setup) (engine : EngineCell) (tasks : SortedMap String Task)
    (actions : List Action) : Lifecycle setup (after setup engine tasks actions) := by
  have ledger := ledger_after setup engine tasks actions
  refine { running_iff := fun id entry found => ledger.running_iff found, tally := ledger.tally,
           numbers := ledger.numbers, flown := fun flight flies => (ledger.flown flight flies).1,
           honest := ledger.honest, posted := ledger.posted, finished := fun id entry found ended => ?_,
           alreadyRunning := fun id entry found running => perform_trigger_of_running setup ?_,
           notRunning := fun id entry found notRunning =>
             perform_cancel_of_not_running setup found notRunning }
  · obtain ⟨notice, sent, latest, result, state⟩ := ledger.finished id entry found ended
    exact ⟨notice, sent, latest, result, (ledger.honest notice sent).2.symm.trans state⟩
  · rw [stateOf_of_entry found, running]

end Course
end StreamWatch
