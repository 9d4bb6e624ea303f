/-
**Executions of tasks, under the eyes of an onlooker.**

An execution works on the service, of which others make what they like, but for what is the task's own: its progress,
what it is there for, and requests to stop it, which they may make but not take back. The onlooker keeps notes of
the task, and of whether it is on its behalf that the engine runs.

* `Trade`: what the standard tasks are there for;
* `Post`, `Post.Others`: the service with the notes, and what others make of it;
* `fares_execute`: an execution comes to what its duty comes to;
* `fares_chore`: executions of the tasks that go through items.
-/

import StreamWatch.Proofs.Program.Mirror
import StreamWatch.Proofs.Task.Rounds
import StreamWatch.Service.Execution

namespace StreamWatch

open Program

/-! ### Trades -/

/-- What a standard task is there for, whatever its settings. -/
inductive Trade where
  | probing
  | cleanup
  | guideRefresh
deriving DecidableEq

/-- Whether it belongs to the task to have runs of failures forgotten. -/
def Trade.mayReset : Trade → Bool
  | cleanup => true
  | probing | guideRefresh => false

/-- What a duty is there for. Working through a batch is no trade. -/
def Duty.trade? : Duty → Option Trade
  | .probeAll _ | .reprobeFailed => some .probing
  | .cleanup _ => some .cleanup
  | .guideRefresh _ => some .guideRefresh
  | .batch .. => none

namespace Service

variable {id : String} {service : Service}

/-- What a task is there for, if it is known. -/
def tradeOf (id : String) (service : Service) : Option Trade := (service.tasks.get? id).bind (·.duty.trade?)

theorem exists_task {trade : Trade} (known : service.tradeOf id = some trade) :
    ∃ task, service.tasks.get? id = some task ∧ task.duty.trade? = some trade :=
  Option.bind_eq_some_iff.mp known

theorem tasks_putCell (cell : TaskCell) : (service.putCell id cell).tasks.get? id =
    (service.tasks.get? id).map fun task => { task with cell } := by
  show (service.tasks.modify id _).get? id = _
  simp only [SortedMap.get?_modify, if_true]

theorem tasks_putProbeTask (task : ProbeTask) : (service.putProbeTask id task).tasks.get? id =
    (service.tasks.get? id).map fun old => { old with cell := task.cell, ownsRun := task.ownsRun } := by
  show (service.tasks.modify id _).get? id = _
  simp only [SortedMap.get?_modify, if_true]

theorem cellOf_putCell {trade : Trade} (known : service.tradeOf id = some trade) (cell : TaskCell) :
    (service.putCell id cell).cellOf id = cell := by
  obtain ⟨task, found, -⟩ := exists_task known
  rw [cellOf, tasks_putCell, found]
  rfl

theorem tradeOf_putCell (cell : TaskCell) : (service.putCell id cell).tradeOf id = service.tradeOf id := by
  rw [tradeOf, tasks_putCell, tradeOf]
  cases service.tasks.get? id <;> rfl

theorem tradeOf_putProbeTask (task : ProbeTask) : (service.putProbeTask id task).tradeOf id = service.tradeOf id := by
  rw [tradeOf, tasks_putProbeTask, tradeOf]
  cases service.tasks.get? id <;> rfl

/-- An execution ends at once when its task is not known. -/
theorem execute_eq (setup : Setup) (id : String) : execute setup id = (do
    let startedAt ← Work.now
    let found ← look (·.tasks.get? id)
    found.elim breakOff fun task => do
      let report ← fulfil setup id task.duty
      return { report with taskId := id, startedAt, completedAt := ← Work.now }) := by
  unfold execute
  congr
  funext startedAt
  congr
  funext found
  cases found <;> rfl

end Service

theorem Ask.nonempty_reply (ask : Ask) : Nonempty ask.Reply := by
  cases ask with
  | remote call => exact ⟨.error .transport⟩
  | store call => exact ⟨.error .database⟩
  | probe | sample => exact ⟨.error (.timeout 0)⟩
  | sleep => exact ⟨⟨⟩⟩
  | clock => exact ⟨0⟩
  | wallClock => exact ⟨default⟩
  | probeStreams => exact ⟨[]⟩

/-! ### The post -/

/-- The service, and what is noted of one task. -/
structure Post where
  service : Service
  /-- whether it is on behalf of the task that the engine runs -/
  isOurs : Bool := false
  notes : Notes := {}

namespace Post

variable {id : String} {post later : Post}

/-- The cell of the task with what was noted of it. -/
def sheet (id : String) (post : Post) : Sheet := ⟨post.service.cellOf id, post.notes⟩

/-- The post after the task has written the service. -/
def put (id : String) (service : Service) (post : Post) : Post where
  service
  isOurs := if service.engine.isProbing = post.service.engine.isProbing then post.isOurs else service.engine.isProbing
  notes := post.notes.acted (post.service.cellOf id) (service.cellOf id)

/-- The post after the task has written its cell. -/
def putCell (id : String) (cell : TaskCell) (post : Post) : Post := post.put id (post.service.putCell id cell)

/-- A program of the task, over the post. -/
def work {α : Type} (id : String) (work : Work Service α) : Work Post α := work.zoom Post.service (put id)

/-- The post after an answer. -/
def heard (ask : Ask) (reply : ask.Reply) (post : Post) : Post := { post with notes := post.notes.heard ask reply }

/-- The post after a request to stop the task. -/
def stop (id : String) (post : Post) : Post :=
  { post with service := post.service.putCell id (post.service.cellOf id).cancel, notes := post.notes.stop }

/-- Whatever is asked is answered, in one moment, with anything. -/
def anyone : Outside Post Ask Ask.Reply where
  Course := Unit
  begins _ _ := ⟨⟩
  goesOn _ _ _ _ _ := False
  answers ask _ _ post reply after := ∃ value, reply = some value ∧ after = post.heard ask value

/-- What others do who leave a task alone: nothing to its cell, to what it is there for, or to the notes of it. As long
as the engine runs on its behalf they do not take back a request to stop the engine. -/
structure Spares (id : String) (post later : Post) : Prop where
  trade : later.service.tradeOf id = post.service.tradeOf id
  sheet : later.sheet id = post.sheet id
  isOurs : later.isOurs = post.isOurs
  stopped : post.isOurs = true → post.service.engine.isCancelled = true → later.service.engine.isCancelled = true

/-- What others do: they leave the task alone, or ask it to stop. -/
inductive Others (id : String) : Post → Post → Prop
  | spares {post later : Post} (spares : Spares id post later) : Others id post later
  | stops (post : Post) : Others id post (post.stop id)

/-- The manner in which an execution of a task runs. -/
abbrev manner (id : String) : Manner Post := { rely := Others id }

theorem sheet_putCell {trade : Trade} (known : post.service.tradeOf id = some trade) (cell : TaskCell) :
    (post.putCell id cell).sheet id = (post.sheet id).put cell := by
  show Sheet.mk ((post.service.putCell id cell).cellOf id)
    (post.notes.acted (post.service.cellOf id) ((post.service.putCell id cell).cellOf id)) = _
  rw [Service.cellOf_putCell known]
  rfl

theorem sheet_stop {trade : Trade} (known : post.service.tradeOf id = some trade) :
    (post.stop id).sheet id = (post.sheet id).stop := by
  show Sheet.mk ((post.service.putCell id _).cellOf id) post.notes.stop = _
  rw [Service.cellOf_putCell known]
  rfl

theorem Others.tradeOf (changed : Others id post later) : later.service.tradeOf id = post.service.tradeOf id := by
  cases changed with
  | spares spares => exact spares.trade
  | stops => exact Service.tradeOf_putCell _

theorem firm_tradeOf (id : String) (trade : Option Trade) :
    Firm (manner id) fun post => post.service.tradeOf id = trade :=
  fun _ _ changed known => changed.tradeOf.trans known

/-- **What happens to a task is mirrored by its sheet.** -/
theorem mirrors (id : String) (trade : Trade) :
    Mirrors StreamWatch.anyone anyone (Others id) Sheet.cell Sheet.put (fun post => post.service.cellOf id) (putCell id)
      (fun post => post.service.tradeOf id = some trade) (sheet id) where
  sees _ := rfl
  writes cell post known := ⟨(Service.tradeOf_putCell cell).trans known, sheet_putCell known cell⟩
  others post later changed known := by
    refine ⟨changed.tradeOf.trans known, ?_⟩
    cases changed with
    | spares spares => exact .inl spares.sheet
    | stops => exact .inr (sheet_stop known)
  inOneMoment _ _ _ _ _ := False.elim
  answered ask _ _ post := by
    obtain ⟨value⟩ := ask.nonempty_reply
    exact ⟨some value, _, value, rfl, rfl⟩
  answers ask _ _ post reply after := by
    rintro ⟨value, rfl, rfl⟩ known
    exact ⟨known, value, rfl, rfl⟩

/-! ### Executions -/

/-- Whether the outside tells the time of the day, in one moment, and changes nothing. -/
structure TellsTime (outside : Outside Post Ask Ask.Reply) : Prop where
  inOneMoment : ∀ course post later after, ¬ outside.goesOn .wallClock course post later after
  answered : ∀ first isAsleep post, ∃ reply after,
    outside.answers .wallClock (outside.begins .wallClock first) isAsleep post reply after
  idle : ∀ first isAsleep post reply after,
    outside.answers .wallClock (outside.begins .wallClock first) isAsleep post reply after →
      reply.isSome = true ∧ after = post

theorem tellsTime_anyone : TellsTime anyone where
  inOneMoment _ _ _ _ := False.elim
  answered _ _ post := ⟨some default, post, default, rfl, rfl⟩
  idle := by
    rintro _ _ post reply after ⟨value, rfl, rfl⟩
    exact ⟨rfl, rfl⟩

section
variable {outside : Outside Post Ask Ask.Reply}

/-- The time of the day is told while something holds that others do not undo. -/
theorem fares_now {α : Type} {goal : α → Beside Post → Post → Prop} {next : Instant → Work Service α}
    {holds : Post → Prop} (tellsTime : TellsTime outside) (firm : Firm (manner id) holds) (before : holds post)
    (rest : ∀ now later, holds later → (work id (next now)).Fares outside (manner id) goal {} later) :
    (work id (Work.now >>= next)).Fares outside (manner id) goal {} post := by
  refine fares_ask (firm.steady fun _ _ => trivial) ⟨rfl, before⟩ tellsTime.inOneMoment tellsTime.answered ?_
  rintro first isAsleep beside post ⟨rfl, held⟩ isFree reply after answered
  obtain ⟨some, rfl⟩ := tellsTime.idle _ _ _ _ _ answered
  obtain ⟨now, rfl⟩ := Option.isSome_iff_exists.mp some
  exact ⟨now, rfl, trivial, rest now _ held⟩

/-- **An execution comes to what its duty comes to.** -/
theorem fares_execute {setup : Setup} {before : Post → Prop} {told : TaskReport → Post → Prop}
    (tellsTime : TellsTime outside) (firmBefore : Firm (manner id) before)
    (firmTold : ∀ report, Firm (manner id) (told report))
    (fulfils : ∀ post, before post → ∃ task, post.service.tasks.get? id = some task ∧
      (work id (Service.fulfil setup id task.duty)).Fares outside (manner id)
        (fun report beside later => beside = {} ∧ told report later) {} (post.put id post.service))
    (begun : before post) :
    (work id (Service.execute setup id)).Fares outside (manner id)
      (fun result beside later => beside = {} ∧ result.taskId = id ∧ told result.toTaskReport later) {} post := by
  rw [Service.execute_eq]
  refine fares_now tellsTime firmBefore begun fun startedAt later begun => ?_
  refine fares_act firmBefore begun fun seen begun => ⟨trivial, ?_⟩
  obtain ⟨task, found, fares⟩ := fulfils seen begun
  show (work id ((seen.service.tasks.get? id).elim _ _)).Fares _ _ _ _ _
  rw [found]
  show (work id (Service.fulfil setup id task.duty >>= _)).Fares _ _ _ _ _
  unfold work
  rw [zoom_bind]
  refine fares_bind (fares.mono ?_)
  rintro report beside later ⟨rfl, told⟩
  refine fares_now tellsTime (firmTold report) told fun completedAt last told => ?_
  exact fares_done (fun _ _ changed ended => ⟨ended.1, ended.2.1, firmTold _ _ _ changed ended.2.2⟩) ⟨rfl, rfl, told⟩

end

/-! ### Tasks that go through items -/

/-- What others do not undo of a sheet they do not undo of the post. -/
theorem firm_of_stable {trade : Trade} {holds : Sheet → Prop} (stable : Stable StreamWatch.anyone holds) :
    Firm (manner id) fun post => post.service.tradeOf id = some trade ∧ holds (post.sheet id) := by
  intro post later changed held
  obtain ⟨known, same | changed⟩ := (mirrors id trade).others post later changed held.1
  · rw [same]
    exact ⟨known, held.2⟩
  · exact ⟨known, stable _ _ changed held.2⟩

/-- A program of the task over its cell alone. -/
theorem work_onCell {α : Type} (id : String) (program : Work TaskCell α) :
    work id (Service.onCell id program) = program.zoom (fun post => post.service.cellOf id) (putCell id) :=
  zoom_zoom ..

/-- **An execution of a task that goes through items** reports what was noted of it. -/
theorem fares_chore (setup : Setup) {trade : Trade} (chore : trade ≠ .probing)
    (known : post.service.tradeOf id = some trade) (unbegun : Unbegun (post.sheet id)) :
    (work id (Service.execute setup id)).Fares anyone (manner id)
      (fun result beside later => beside = {} ∧ result.taskId = id ∧ later.service.tradeOf id = some trade ∧
        Reported trade.mayReset result.toTaskReport (later.sheet id)) {} post := by
  have firm (report : TaskReport) : Firm (manner id) fun post => post.service.tradeOf id = some trade ∧
      Reported trade.mayReset report (post.sheet id) := firm_of_stable stable_reported
  refine fares_execute tellsTime_anyone (firm_of_stable stable_unbegun) firm ?_ ⟨known, unbegun⟩
  rintro post ⟨known, unbegun⟩
  obtain ⟨task, found, trades⟩ := Service.exists_task known
  refine ⟨task, found, ?_⟩
  have unbegun : Unbegun ((post.put id post.service).sheet id) := by
    rw [← unbegun.look] at unbegun
    exact unbegun
  have fares {program : Work TaskCell TaskReport}
      (ensures : (onSheet program).Ensures StreamWatch.anyone (Reported trade.mayReset)
        ((post.put id post.service).sheet id)) :
      (work id (Service.onCell id program)).Fares anyone (manner id)
        (fun report beside later => beside = {} ∧ later.service.tradeOf id = some trade ∧
          Reported trade.mayReset report (later.sheet id)) {} (post.put id post.service) := by
    rw [work_onCell]
    exact (mirrors id trade).fares program known ensures
  cases duty : task.duty with
  | probeAll | reprobeFailed =>
    rw [duty] at trades
    exact absurd (Option.some.inj trades).symm chore
  | cleanup settings =>
    rw [duty] at trades
    cases trades
    exact fares (Cleanup.ensures_reported settings _ unbegun)
  | guideRefresh settings =>
    rw [duty] at trades
    cases trades
    exact fares (GuideRefresh.ensures_reported settings unbegun)
  | batch =>
    rw [duty] at trades
    cases trades

end Post
end StreamWatch
