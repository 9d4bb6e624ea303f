/-
**A request to stop a task sticks to the execution that was under way.**

Executions of a task that goes through items follow each other: a trigger begins one, its steps and those of others
come in any order, with requests to stop the task among them, and when it has ended the scheduler is told. A request
that was accepted while items were left has the execution begin no more of them and end as stopped; it has nothing to
do with the next one, nor has one that came too late.

* `Logbook`, `Logbook.Step`: a task with its executions, and what may happen to it;
* `Sticks`: whether requests to stop were heeded in an execution, and only those made in it;
* `Orderly`, `Orderly.step`: what holds of a logbook all the time;
* `cancel_sticks`: what holds of every execution that has ended, and that every other one can come to its end.
-/

import StreamWatch.Proofs.Scheduler.Lifecycle
import StreamWatch.Proofs.Task.Post

namespace StreamWatch

open Post Program

/-! ### Logbooks -/

/-- A task with its executions. -/
structure Logbook where
  post : Post
  /-- the execution under way, if there is one -/
  thread : Option (Thread Post.anyone TaskResult) := none
  /-- what was noted of the executions that have ended, and their results -/
  ended : List (Notes × TaskResult) := []

namespace Logbook

/-- The post once the scheduler was told of a result. -/
def told (result : TaskResult) (post : Post) : Post :=
  { post with service := post.service.withScheduler (post.service.scheduler.finish result) }

/-- What may happen to a task. -/
inductive Step (setup : Setup) (id : String) : Logbook → Logbook → Prop
  /-- an execution is begun, of which nothing is noted yet -/
  | triggers {post : Post} {thread : Option (Thread Post.anyone TaskResult)} {ended : List (Notes × TaskResult)}
      {service : Service} (now : Instant) (granted : post.service.trigger now id = .ok service) :
      Step setup id ⟨post, thread, ended⟩
        ⟨{ post with service, notes := {} }, some (.awake (work id (Service.execute setup id)) {}), ended⟩
  /-- a request to stop the task is accepted, and noted -/
  | cancels {post : Post} {thread : Option (Thread Post.anyone TaskResult)} {ended : List (Notes × TaskResult)}
      (granted : post.service.scheduler.checkRunning id = .ok ⟨⟩) :
      Step setup id ⟨post, thread, ended⟩
        ⟨{ post with service := post.service.afterCancel setup id, notes := post.notes.stop }, thread, ended⟩
  | goesOn {post later : Post} {thread next : Thread Post.anyone TaskResult} {ended : List (Notes × TaskResult)}
      (step : Thread.Step Post.anyone thread post next later) :
      Step setup id ⟨post, some thread, ended⟩ ⟨later, some next, ended⟩
  /-- the execution ends with a result -/
  | comesBack {post : Post} {result : TaskResult} {beside : Beside Post} {ended : List (Notes × TaskResult)}
      (letsGo : beside.held = []) :
      Step setup id ⟨post, some (.awake (.done result) beside), ended⟩
        ⟨told result post, none, ended ++ [(post.notes, result)]⟩
  /-- the execution ends without one -/
  | breaksOff {post : Post} {beside : Beside Post} {ended : List (Notes × TaskResult)} (startedAt completedAt : Instant)
      (letsGo : beside.held = []) :
      Step setup id ⟨post, some (.awake .breakOff beside), ended⟩
        ⟨told (Service.brokenOff id startedAt completedAt) post, none,
          ended ++ [(post.notes, Service.brokenOff id startedAt completedAt)]⟩
  /-- others do what they like, but for what is the task's own -/
  | others {post later : Post} {thread : Option (Thread Post.anyone TaskResult)} {ended : List (Notes × TaskResult)}
      (spares : Spares id post later)
      (running : later.service.scheduler.stateOf id = some .running ↔
        post.service.scheduler.stateOf id = some .running) :
      Step setup id ⟨post, thread, ended⟩ ⟨later, thread, ended⟩

/-- What may have become of a task after some time. -/
abbrev Reaches (setup : Setup) (id : String) : Logbook → Logbook → Prop := Relation.ReflTransGen (Step setup id)

/-- **Whether the requests to stop that were made in an execution were heeded, and no others.** -/
structure Sticks (notes : Notes) (report : TaskReport) : Prop where
  /-- the report is about the items that were listed -/
  total : report.total = notes.items
  /-- every item that was begun was finished, and counted once -/
  counts : report.tally = notes.shares.sum
  single : ∀ share ∈ notes.shares, share.size = 1
  finished : notes.shares.length = notes.begun
  /-- asked to stop while items were left, the execution began no more, and was stopped -/
  stops : ∀ begun, notes.stopped = some begun → begun < notes.items → report.isCancelled = true ∧ notes.begun = begun
  /-- it was stopped only if it was asked to while items were left -/
  lasts : report.isCancelled = true → ∃ begun, notes.stopped = some begun ∧ begun < notes.items
  /-- otherwise it began every item -/
  all : report.isCancelled = false → notes.begun = notes.items

section
variable {mayReset : Bool} {report : TaskReport} {sheet : Sheet}

theorem isCancelled_of_tells {p : Progress} {isStopped : Bool} {lines : Nat}
    (tells : report.Tells p isStopped lines) : report.isCancelled = isStopped := by
  rw [TaskReport.isCancelled, beq_eq_decide]
  exact Bool.eq_iff_iff.mpr (decide_eq_true_iff.trans tells.stopped_iff)

/-- A report of what keeps an execution from its work does not say that it was stopped. -/
theorem isCancelled_fatal {fault : TaskFault} (hinders : fault ∈ TaskReport.hindrances) (message : String) :
    (TaskReport.fatal fault message).isCancelled = false := by
  rw [TaskReport.isCancelled, beq_eq_false_iff_ne]
  exact fun same => (TaskReport.code_of_hinders fault hinders).1 (Option.some.inj same)

/-- **What is reported tells that requests to stop were heeded.** -/
theorem sticks_of_reported (reported : Reported mayReset report sheet) : Sticks sheet.notes report := by
  cases reported with
  | hindered fault message hinders fatal none =>
    have going : report.isCancelled = false := by
      rw [fatal]
      exact isCancelled_fatal hinders message
    have unbegun : sheet.notes.begun = 0 := none.rest
    have unfinished : sheet.notes.shares = [] :=
      List.eq_nil_of_length_eq_zero (none.started.symm.trans unbegun)
    refine ⟨?_, ?_, none.single, none.started.symm, fun begun _ left => ?_, fun stopped => ?_, fun _ => ?_⟩
    · rw [fatal, none.listed]
      rfl
    · rw [fatal, unfinished]
      rfl
    · rw [none.listed] at left
      exact absurd left (Nat.not_lt_zero _)
    · rw [going] at stopped
      cases stopped
    · rw [unbegun, none.listed]
  | @ended lines isStopped settled tells =>
    obtain ⟨⟨items, left, underway, some⟩, asked, -⟩ := settled
    have told : report.isCancelled = isStopped := isCancelled_of_tells tells
    have rest := underway.rest
    refine ⟨?_, tells.tally.trans underway.counted, underway.single, underway.started.symm, fun begun noted more => ?_,
      fun stopped => ?_, fun going => ?_⟩
    · rw [tells.total, underway.said, underway.listed]
    · obtain rfl := underway.inTime begun noted
      rw [underway.listed] at more
      exact ⟨told.trans (some.mpr (by omega)), rfl⟩
    · rw [told] at stopped
      have known : sheet.notes.stopped.isSome = true := underway.known.symm.trans (asked stopped)
      obtain ⟨begun, noted⟩ := Option.isSome_iff_exists.mp known
      have more := some.mp stopped
      refine ⟨begun, noted, ?_⟩
      rw [underway.inTime begun noted, underway.listed]
      omega
    · rw [told] at going
      have none : ¬ 0 < left := fun more => by
        rw [some.mpr more] at going
        cases going
      rw [underway.listed]
      omega

end

/-! ### What holds of a logbook -/

/-- What an execution leaves alone: the scheduler, and what the task is there for. -/
def kept (id : String) (post : Post) : Scheduler × Option Trade := (post.service.scheduler, post.service.tradeOf id)

section
variable {setup : Setup} {id : String} {trade : Trade} {logbook next : Logbook}

theorem leaves_work : (work id (Service.execute setup id)).Leaves (kept id) := by
  have leaves : (Service.execute setup id).Leaves fun service => (service.scheduler, service.tradeOf id) :=
    Service.leaves_executeOf setup id
      (fun cell service => congrArg (service.scheduler, ·) (Service.tradeOf_putCell cell))
      fun task service => congrArg (service.scheduler, ·) (Service.tradeOf_putProbeTask task)
  exact leaves_zoom_of_leaves (fun _ _ => rfl) leaves

/-- What an execution comes to. -/
def Goal (id : String) (trade : Trade) (result : TaskResult) (beside : Beside Post) (post : Post) : Prop :=
  beside = {} ∧ result.taskId = id ∧ post.service.tradeOf id = some trade ∧
    Reported trade.mayReset result.toTaskReport (post.sheet id)

/-- **What holds of a logbook all the time**: an execution is under way while the task is running, it is on its course,
and in all that have ended requests to stop were heeded, and only those made in them. -/
structure Orderly (id : String) (trade : Trade) (logbook : Logbook) : Prop where
  known : logbook.post.service.tradeOf id = some trade
  running : logbook.post.service.scheduler.stateOf id = some .running ↔ logbook.thread.isSome = true
  onCourse : ∀ thread, logbook.thread = some thread →
    thread.OnCourse (manner id) (Goal id trade) logbook.post ∧ thread.Leaves (kept id)
  sticks : ∀ entry ∈ logbook.ended, Sticks entry.1 entry.2.toTaskReport

/-- A request to stop a task that goes through items is noted in its cell. -/
theorem afterCancel_eq {service : Service} (known : service.tradeOf id = some trade) (chore : trade ≠ .probing) :
    service.afterCancel setup id = service.putCell id (service.cellOf id).cancel := by
  obtain ⟨task, found, trades⟩ := Service.exists_task known
  have engineless : task.duty.needsEngine = false := by
    cases duty : task.duty with
    | probeAll | reprobeFailed =>
      rw [duty] at trades
      exact absurd (Option.some.inj trades).symm chore
    | cleanup | guideRefresh | batch => rfl
  have asks : (Service.cancelTask setup id : Program Service Empty (fun _ => Empty) Unit) = (do
      let found ← look (·.tasks.get? id)
      found.elim (pure ⟨⟩) fun task =>
        if task.duty.needsEngine then Service.onProbeTask id (ProbeTask.cancel setup.hasEngine)
        else Service.onCell id (change (·.cancel))) := by
    unfold Service.cancelTask
    congr
    funext found
    cases found <;> rfl
  rw [Service.afterCancel, asks]
  show (alone _ ((service.tasks.get? id).elim _ _) service).2 = _
  rw [found]
  show (alone _ (if task.duty.needsEngine = true then _ else _) service).2 = _
  rw [engineless]
  rfl

/-- A task that is started is running, and a request to stop it that came before is taken back. -/
theorem trigger_eq_ok {service after : Service} {now : Instant} (granted : service.trigger now id = .ok after) :
    ∃ scheduler, after = { service.putCell id (service.cellOf id).rearm with scheduler } ∧
      scheduler.stateOf id = some .running := by
  have started := Service.eq_of_trigger granted
  unfold Service.trigger at granted
  rw [started] at granted
  obtain ⟨entry, -, -, same⟩ := Scheduler.start_eq_ok_iff.mp started
  refine ⟨after.scheduler, (Except.ok.inj granted).symm, ?_⟩
  rw [same]
  exact Scheduler.stateOf_of_entry (Scheduler.get?_write_self _ _ _)

theorem Orderly.step (orderly : Orderly id trade logbook) (chore : trade ≠ .probing)
    (step : Step setup id logbook next) : Orderly id trade next := by
  obtain ⟨known, running, onCourse, sticks⟩ := orderly
  cases step with
  | @triggers post thread ended service now granted =>
    obtain ⟨scheduler, rfl, isRunning⟩ := trigger_eq_ok granted
    have trades : (post.service.putCell id (post.service.cellOf id).rearm).tradeOf id = some trade :=
      (Service.tradeOf_putCell _).trans known
    refine ⟨trades, iff_of_true isRunning rfl, fun under same => ?_, sticks⟩
    cases same
    -- the trigger takes back what was asked before, and nothing is noted yet
    refine ⟨fares_chore setup chore trades ?_, leaves_work, fun _ among => absurd among List.not_mem_nil, nofun⟩
    show Unbegun ⟨(post.service.putCell id (post.service.cellOf id).rearm).cellOf id, {}⟩
    rw [Service.cellOf_putCell known]
    exact ⟨⟨rfl, nofun⟩, rfl, rfl, rfl, rfl, rfl, rfl⟩
  | @cancels post thread ended granted =>
    rw [afterCancel_eq known chore]
    have changed : Others id post (post.stop id) := .stops post
    refine ⟨changed.tradeOf.trans known, running, fun under same => ?_, sticks⟩
    exact ⟨(onCourse under same).1.others changed, (onCourse under same).2⟩
  | @goesOn post later thread next ended step =>
    obtain ⟨onCourse, leaves⟩ := onCourse thread rfl
    obtain ⟨leaves, same⟩ := leaves.step (fun _ _ _ _ _ => False.elim) (fun _ _ _ _ _ _ answered => by
      obtain ⟨value, -, rfl⟩ := answered
      rfl) step
    obtain ⟨scheduler, trades⟩ := Prod.mk.inj same
    refine ⟨trades.trans known, ?_, fun under same => ?_, sticks⟩
    · rw [scheduler]
      exact running.trans (iff_of_true rfl rfl)
    · cases same
      exact ⟨(onCourse.step (fun _ _ _ goal => congrArg Beside.held goal.1) step).2, leaves⟩
  | @comesBack post result beside ended letsGo =>
    obtain ⟨-, task, trades, reported⟩ := (onCourse _ rfl).1 post .refl
    obtain ⟨entry, found, -⟩ := Scheduler.stateOf_eq_some_iff.mp (running.mpr rfl)
    -- the result carries the name of the task, so it is its own entry that is written
    have state : (post.service.scheduler.finish result).stateOf id = some result.finalState := by
      rw [← task] at found ⊢
      exact Scheduler.stateOf_of_entry (Scheduler.get?_finish_self result found)
    refine ⟨trades, ?_, fun _ under => (nomatch under), fun entry among => ?_⟩
    · refine iff_of_false (fun isRunning => ?_) Bool.false_ne_true
      exact result.finalState_ne_running (Option.some.inj (state.symm.trans isRunning))
    · rcases List.mem_append.mp among with earlier | last
      · exact sticks entry earlier
      · rw [List.mem_singleton.mp last]
        exact sticks_of_reported reported
  | breaksOff startedAt completedAt letsGo =>
    exact (onCourse _ rfl).1.elim
  | @others post later thread ended spares kept =>
    have changed : Others id post later := .spares spares
    refine ⟨changed.tradeOf.trans known, kept.trans running, fun under same => ?_, sticks⟩
    exact ⟨(onCourse under same).1.others changed, (onCourse under same).2⟩

theorem Orderly.reaches (orderly : Orderly id trade logbook) (chore : trade ≠ .probing)
    (reached : Reaches setup id logbook next) : Orderly id trade next := by
  induction reached with
  | refl => exact orderly
  | tail _ step ih => exact ih.step chore step

theorem orderly_start {service : Service} (known : service.tradeOf id = some trade)
    (idle : service.scheduler.stateOf id ≠ some .running) : Orderly id trade { post := { service } } where
  known := known
  running := iff_of_false idle Bool.false_ne_true
  onCourse _ under := nomatch under
  sticks _ among := absurd among List.not_mem_nil

/-- What an execution does by itself happens to its task. -/
theorem reaches_of_thread {ended : List (Notes × TaskResult)} {first last : Thread Post.anyone TaskResult × Post}
    (reached : Thread.Reaches Post.anyone (fun _ _ => False) first last) :
    Reaches setup id ⟨first.2, some first.1, ended⟩ ⟨last.2, some last.1, ended⟩ := by
  induction reached with
  | refl => exact .refl
  | tail _ move ih =>
    cases move with
    | own step => exact ih.tail (.goesOn step)
    | others changed => exact changed.elim

/-- **An execution under way can come to its end.** -/
theorem Orderly.exists_end (orderly : Orderly id trade logbook) (chore : trade ≠ .probing)
    (under : logbook.thread.isSome = true) : ∃ result later, Reaches setup id logbook later ∧ later.thread = none ∧
      later.ended = logbook.ended ++ [(later.post.notes, result)] := by
  obtain ⟨post, thread, ended⟩ := logbook
  obtain ⟨thread, rfl⟩ := Option.isSome_iff_exists.mp under
  obtain ⟨result, beside, last, reached⟩ := (orderly.onCourse thread rfl).1.exists_end fun _ _ => False
  have reached : Reaches setup id ⟨post, some thread, ended⟩ ⟨last, some (.awake (done result) beside), ended⟩ :=
    reaches_of_thread reached
  obtain ⟨rfl, -⟩ := ((orderly.reaches chore reached).onCourse _ rfl).1 last .refl
  exact ⟨result, _, reached.tail (.comesBack rfl), rfl, rfl⟩

/-- **A request to stop a task sticks to the execution that was under way**: whatever happens to the task, requests to
stop were heeded in every execution that has ended, and only those that were made in it; and an execution under way
can always come to its end. -/
theorem cancel_sticks {service : Service} (known : service.tradeOf id = some trade) (chore : trade ≠ .probing)
    (idle : service.scheduler.stateOf id ≠ some .running) (reached : Reaches setup id { post := { service } } logbook) :
    (∀ entry ∈ logbook.ended, Sticks entry.1 entry.2.toTaskReport) ∧
      (logbook.thread.isSome = true → ∃ result later, Reaches setup id logbook later ∧ later.thread = none ∧
        later.ended = logbook.ended ++ [(later.post.notes, result)]) :=
  have orderly := (orderly_start known idle).reaches chore reached
  ⟨orderly.sticks, orderly.exists_end chore⟩

end

/-- A service with the refresh of guide sources for its only task. -/
def onlyRefresh : Service :=
  (Service.ofDuties [.guideRefresh {}]).withScheduler
    (({} : Scheduler).write "epg_refresh" { timing := .manual, isEnabled := true, registeredAt := default })

/-- A refresh of guide sources that is asked to stop before its first step begins none of them. -/
theorem cancel_sticks_atOnce : ∃ logbook notes result,
    Reaches {} "epg_refresh" { post := { service := onlyRefresh } } logbook ∧ logbook.ended = [(notes, result)] ∧
      notes.stopped = some 0 ∧ notes.items = 1 ∧ Sticks notes result.toTaskReport := by
  have listed : ∃ logbook notes result, Reaches {} "epg_refresh" { post := { service := onlyRefresh } } logbook ∧
      logbook.ended = [(notes, result)] ∧ notes.stopped = some 0 ∧ notes.items = 1 := by
    refine ⟨?_, ?_, ?_, ?_, ?_, ?_, ?_⟩
    rotate_left 3
    · refine .head (.triggers default rfl) ?_
      refine .head (.cancels rfl) ?_
      -- the execution sees what time it is, and starts
      refine .head (.goesOn .asks) ?_
      refine .head (.goesOn (.answered nofun ⟨default, rfl, rfl⟩)) ?_
      refine .head (.goesOn .act) ?_
      refine .head (.goesOn .act) ?_
      -- one source is listed
      refine .head (.goesOn .asks) ?_
      refine .head (.goesOn (.answered nofun ⟨.ok [default], rfl, rfl⟩)) ?_
      refine .head (.goesOn .act) ?_
      -- the request to stop is found
      refine .head (.goesOn .act) ?_
      refine .head (.goesOn .act) ?_
      refine .head (.goesOn .asks) ?_
      refine .head (.goesOn (.answered nofun ⟨default, rfl, rfl⟩)) ?_
      refine .head (.comesBack rfl) ?_
      exact .refl
    · rfl
    · rfl
    · rfl
  obtain ⟨logbook, notes, result, reached, ended, stopped, items⟩ := listed
  have known : onlyRefresh.tradeOf "epg_refresh" = some .guideRefresh := rfl
  have sticks := (cancel_sticks known nofun (by decide) reached).1
  rw [ended] at sticks
  exact ⟨logbook, notes, result, reached, ended, stopped, items, sticks _ List.mem_cons_self⟩

end Logbook
end StreamWatch
