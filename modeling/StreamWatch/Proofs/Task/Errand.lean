/-
**What tasks that probe streams do.**

Both tasks drive a run of the engine, one of them once it knows which streams failed. What they come to is
told from a few statements about the state, each of which leads to the next.

* `Seat`: how a task and its engine are reached in a larger state;
* `Driving`, `fares_drive`: a run on behalf of a task;
* `Errand`, `fares_errand`: a whole task.
-/

import StreamWatch.Proofs.Engine.Passage
import StreamWatch.Task.ProbeRun

namespace StreamWatch.ProbeTask

open Engine Program

/-- What is reported of what a run came to. -/
def conclusion : Except EngineError RunSummary → TaskReport
  | .ok summary => report summary
  | .error .alreadyRunning => .fatal .probeAlreadyRunning "Another probe run is already in progress"
  | .error (.fetch error) => .fatal .fetchFailed ("Failed to fetch streams: " ++ error.message)

theorem isCancelled_ofProgress (p : Progress) (message : String) :
    (TaskReport.ofProgress p message).isCancelled = false := by
  unfold TaskReport.ofProgress TaskReport.isCancelled
  dsimp only
  split <;> rfl

/-- The report of a run tells whether it was stopped, and of how many streams it is. -/
theorem report_tells (summary : RunSummary) :
    (report summary).isCancelled = summary.isCancelled ∧ (report summary).total = summary.total := by
  have withErrors (report : TaskReport) (errors : List String) :
      (report.withErrors errors).isCancelled = report.isCancelled ∧
        (report.withErrors errors).total = report.total := by
    unfold TaskReport.withErrors
    split <;> exact ⟨rfl, rfl⟩
  unfold report
  rw [(withErrors _ _).1, (withErrors _ _).2]
  split
  · next stopped => exact ⟨stopped.symm, rfl⟩
  · next going =>
    refine ⟨?_, rfl⟩
    rw [Bool.eq_false_iff.mpr going]
    exact isCancelled_ofProgress (progressOf summary) (completedMessage summary)

section
variable (task : ProbeTask)

@[simp] theorem ownsRun_follow : task.follow.ownsRun = task.ownsRun := by
  unfold follow
  split <;> rfl

@[simp] theorem isCancelled_cell_follow : task.follow.cell.isCancelled = task.cell.isCancelled := by
  unfold follow
  split <;> rfl

@[simp] theorem isProbing_engine_follow : task.follow.engine.isProbing = task.engine.isProbing := by
  unfold follow
  split <;> rfl

/-- What is done beside a run passes a request to stop on. -/
theorem isCancelled_engine_follow :
    task.follow.engine.isCancelled = (task.cell.isCancelled || task.engine.isCancelled) := by
  unfold follow
  cases task.cell.isCancelled <;> rfl

end

theorem drive_eq (settings : ProbingSettings) (size : UInt32) (only : Option (List Int)) (skipRefresh : Bool) :
    drive settings size only skipRefresh =
      change own >>= fun _ => holding disown >>= fun _ => watching period follow >>= fun _ =>
        onEngine (run settings size only skipRefresh) >>= fun outcome => unwatching >>= fun _ =>
          (match outcome with
            | .ok _ => change takeProgress
            | .error _ => pure ()) >>= fun _ => lettingGo >>= fun _ => pure (conclusion outcome) := by
  refine congrArg (fun rest => change own >>= fun _ => holding disown >>= fun _ => watching period follow >>= fun _ =>
    onEngine (run settings size only skipRefresh) >>= rest) (funext fun outcome => ?_)
  rcases outcome with (alreadyRunning | error) | summary <;> rfl

/-- How a task and its engine are reached in a larger state. -/
structure Seat (σ : Type) where
  task : σ → ProbeTask
  put : ProbeTask → σ → σ

namespace Seat

variable {σ α β : Type} (seat : Seat σ)

/-- A program of the task. -/
def work (work : Work ProbeTask α) : Work σ α := work.zoom seat.task seat.put

theorem work_bind (first : Work ProbeTask α) (next : α → Work ProbeTask β) :
    seat.work (first >>= next) = seat.work first >>= fun value => seat.work (next value) :=
  zoom_bind _ _ first next

/-- The state after a change of what is the task's. -/
def changed (change : ProbeTask → ProbeTask) (state : σ) : σ := seat.put (change (seat.task state)) state

/-- What is beside the run of a task that has nothing else beside it. -/
def besideRun : Beside σ := { held := [seat.changed disown], watch := .due (seat.changed follow) }

/-- Whether what a run stands on is what its task has of it. -/
def Suits (seat : Seat σ) (stage : Stage σ) : Prop :=
  ∀ {α : Type} (work : Work EngineCell α), seat.work (onEngine work) = stage.work work

end Seat

section
variable {σ : Type} {seat : Seat σ} {stage : Stage σ} {manner : Manner σ} {settings : ProbingSettings}
  {around : Circumstances} {heard : Beside σ → σ → Prop}
  {reported : List Stream → List (Int × StreamOutcome) → Beside σ → σ → Prop}
  {looked : List Stream → List (Int × StreamOutcome) → Bool → Beside σ → σ → Prop}
  {before owned taken : σ → Prop} {given : Except EngineError RunSummary → σ → Prop} {told : TaskReport → σ → Prop}
  {only : Option (List Int)} {state : σ}

/-- What has to be shown of the moments at which a task makes a run its own, looks at its progress for the
last time, and has it no longer its own. -/
structure Driving (seat : Seat σ) (manner : Manner σ) (before owned : σ → Prop)
    (given : Except EngineError RunSummary → σ → Prop) (told : TaskReport → σ → Prop) : Prop where
  firmBefore : Firm manner before
  firmTold : ∀ report, Firm manner (told report)
  owns : ∀ state, before state → manner.allowed state (seat.changed own state) ∧ owned (seat.changed own state)
  looks : ∀ summary state, given (.ok summary) state →
    manner.allowed state (seat.changed takeProgress state) ∧ given (.ok summary) (seat.changed takeProgress state)
  disowns : ∀ reply state, given reply state →
    manner.allowed state (seat.changed disown state) ∧ told (conclusion reply) (seat.changed disown state)

/-- A run on behalf of a task is reported as what it came to, and nothing is left beside the task. -/
theorem fares_driveAlone (suits : seat.Suits stage) (driving : Driving seat manner before owned given told)
    (passage : Passage stage manner settings around heard reported looked)
    (taking : Taking stage manner heard (Come heard looked (around.listed only)) seat.besideRun owned taken given)
    (size : UInt32) (skipRefresh : Bool) (begun : before state) :
    (seat.work (drive settings size only skipRefresh)).Fares stage.outside manner
      (fun report last later => last = {} ∧ told report later) {} state := by
  rw [drive_eq]
  refine fares_act driving.firmBefore begun fun seen begun => ?_
  obtain ⟨allowed, owned⟩ := driving.owns seen begun
  refine ⟨allowed, fares_hold taking.firmOwned owned fun seen owned => ?_⟩
  refine fares_watch taking.firmOwned owned fun seen owned => ?_
  show (seat.work (onEngine (run settings size only skipRefresh) >>= _)).Fares _ _ _ seat.besideRun _
  rw [seat.work_bind, suits]
  refine fares_bind ((passage.fares_run taking size skipRefresh owned).mono ?_)
  rintro outcome beside later ⟨held, came⟩
  have kept : beside.unwatching.held = [seat.changed disown] := held
  -- what was held makes the run no longer the task's own
  have ends (seen : σ) (came : given outcome seen) :
      (seat.work (lettingGo >>= fun _ => pure (conclusion outcome))).Fares stage.outside manner
        (fun report last later => last = {} ∧ told report later) beside.unwatching seen := by
    refine fares_letGo (taking.firmGiven _) came fun seen came => ?_
    obtain ⟨allowed, tells⟩ := driving.disowns outcome seen came
    rw [kept]
    have rest : beside.unwatching.lettingGo = {} :=
      congrArg (fun held : List (σ → σ) => (⟨held.tail, .nothing⟩ : Beside σ)) kept
    exact ⟨allowed, fares_done (fun _ _ changed done => ⟨done.1, driving.firmTold _ _ _ changed done.2⟩) ⟨rest, tells⟩⟩
  refine fares_unwatch (taking.firmGiven _) came fun seen came => ?_
  cases outcome with
  | error error => exact ends seen came
  | ok summary =>
    refine fares_act (taking.firmGiven _) came fun seen came => ?_
    obtain ⟨allowed, came⟩ := driving.looks summary seen came
    exact ⟨allowed, ends _ came⟩

/-- **A run on behalf of a task is reported** as what it came to. -/
theorem fares_drive (suits : seat.Suits stage) (driving : Driving seat manner before owned given told)
    (passage : Passage stage manner settings around heard reported looked)
    (taking : Taking stage manner heard (Come heard looked (around.listed only)) seat.besideRun owned taken given)
    (size : UInt32) (skipRefresh : Bool) (begun : before state) :
    (seat.work (drive settings size only skipRefresh)).Fares stage.outside manner
      (fun report last later => last.held = [] ∧ told report later) {} state :=
  (fares_driveAlone suits driving passage taking size skipRefresh begun).mono fun _ _ _ ended =>
    ⟨congrArg Beside.held ended.1, ended.2⟩

/-! ### Whole tasks -/

/-- What a task that probes streams is to do: probe all of them, or those whose last probe failed. -/
inductive Errand where
  | all (settings : ProbeAllSettings)
  | failed

namespace Errand

/-- How the task does it. -/
def work (settings : ProbingSettings) (size : UInt32) : Errand → Work ProbeTask TaskReport
  | all only => probeAll true settings size only
  | failed => reprobeFailed true settings size

/-- What the store is asked for before streams are probed again. -/
def lookup : StoreCall := .listByStatus [.failed, .timeout]

/-- Whether the ids are those of the streams it may come to be about, when the store may come to give some
records. -/
def Covers (records : List StreamStats → Prop) (only : Option (List Int)) : Errand → Prop
  | all _ => only = none
  | failed => ∃ found, records found ∧ only = some (found.map (·.streamId))

end Errand

/-- What has to be shown of a task around its run. -/
structure Minding (seat : Seat σ) (stage : Stage σ) (manner : Manner σ) (records : List StreamStats → Prop)
    (before : σ → Prop) (told : TaskReport → σ → Prop) : Prop where
  steady : Steady manner fun beside state => beside = {} ∧ before state
  waits : stage.Waits manner (fun beside state => beside = {} ∧ before state) (.store Errand.lookup)
  writes : ∀ change : TaskCell → TaskCell, (∀ cell, (change cell).isCancelled = cell.isCancelled) → ∀ state,
    before state →
      manner.allowed state (seat.changed (fun task => { task with cell := change task.cell }) state) ∧
        before (seat.changed (fun task => { task with cell := change task.cell }) state)
  finds : ∀ {state reply after}, before state → stage.answers (.store Errand.lookup) state reply after →
    after = state ∧ ∃ value, reply = some value ∧ ∀ found, value = .ok found → records found
  tells : ∀ report state, before state → report.isCancelled = false → told report state

/-- What is reported of a task that has no run driven: it found no streams, or could not tell which there are. -/
inductive Runless : TaskReport → Prop
  | nothing : Runless (.ofProgress {} "No failed streams to re-probe")
  | unknown (error : StoreError) : Runless (.fatal .fetchFailed ("Failed to load failed streams: " ++ error.message))

theorem Runless.isCancelled {report : TaskReport} (runless : Runless report) : report.isCancelled = false := by
  cases runless <;> rfl

/-- A whole task has no run driven, or is told of as the run on its behalf is, with beside it what is then. -/
theorem fares_errandEnding (ended : Beside σ → Prop) (free : ended {}) (settings : ProbingSettings)
    {records : List StreamStats → Prop} (errand : Errand)
    (minding : Minding seat stage manner records before fun _ _ => True) (firm : ∀ report, Firm manner (told report))
    (tells : ∀ report state, before state → Runless report → told report state)
    (drives : ∀ only, errand.Covers records only → ∀ (skipRefresh : Bool) (state : σ), before state →
      (seat.work (drive settings size only skipRefresh)).Fares stage.outside manner
        (fun report last later => ended last ∧ told report later) {} state) (begun : before state) :
    (seat.work (errand.work settings size)).Fares stage.outside manner
      (fun report last later => ended last ∧ told report later) {} state := by
  have firmBefore : Firm manner before := fun _ _ changed begun =>
    (minding.steady.others {} _ _ changed ⟨rfl, begun⟩).2
  have done {report : TaskReport} {state : σ} (tells : told report state) :
      (pure report : Work σ TaskReport).Fares stage.outside manner
        (fun report last later => ended last ∧ told report later) {} state :=
    fares_done (fun _ _ changed told => ⟨told.1, firm _ _ _ changed told.2⟩) ⟨free, tells⟩
  cases errand with
  | all only =>
    refine fares_act firmBefore begun fun seen begun => ?_
    obtain ⟨allowed, begun⟩ := minding.writes (·.start "starting") (fun _ => rfl) seen begun
    exact ⟨allowed, drives none rfl _ _ begun⟩
  | failed =>
    refine fares_act firmBefore begun fun seen begun => ?_
    obtain ⟨allowed, begun⟩ := minding.writes (·.start "loading failed streams") (fun _ => rfl) seen begun
    refine ⟨allowed, ?_⟩
    let listed (reply : Except StoreError (List StreamStats)) : Prop := ∀ found, reply = .ok found → records found
    show (stage.work (Work.store Errand.lookup) >>= _).Fares _ _ _ _ _
    refine fares_bind ((fares_get (.store Errand.lookup) listed minding.steady trivial minding.waits (fun state => ?_)
      (fun before => minding.finds before.2) ⟨rfl, begun⟩).mono ?_)
    · obtain ⟨value, after, stored⟩ := stage.exists_stored Errand.lookup state
      exact ⟨_, after, value, stored, rfl⟩
    · rintro reply beside later ⟨listed, rfl, begun⟩
      rcases reply with error | _ | ⟨record, rest⟩
      · exact done (tells _ _ begun (.unknown error))
      · refine fares_act firmBefore begun fun seen begun => ?_
        obtain ⟨allowed, begun⟩ := minding.writes (·.update { status := some "completed" }) (fun _ => rfl) seen begun
        exact ⟨allowed, done (tells _ _ begun .nothing)⟩
      · exact drives _ ⟨record :: rest, listed _ rfl, rfl⟩ true later begun

/-- **A whole task** is told of as a run on its behalf is. -/
theorem fares_errand (settings : ProbingSettings) {records : List StreamStats → Prop} (errand : Errand)
    (minding : Minding seat stage manner records before told) (firm : ∀ report, Firm manner (told report))
    (drives : ∀ only, errand.Covers records only → ∀ (skipRefresh : Bool) (state : σ), before state →
      (seat.work (drive settings size only skipRefresh)).Fares stage.outside manner
        (fun report last later => last.held = [] ∧ told report later) {} state) (begun : before state) :
    (seat.work (errand.work settings size)).Fares stage.outside manner
      (fun report last later => last.held = [] ∧ told report later) {} state :=
  fares_errandEnding (·.held = []) rfl settings errand { minding with tells := fun _ _ _ _ => trivial } firm
    (fun report state begun runless => minding.tells report state begun runless.isCancelled) drives begun

end

/-- Circumstances under which there is one stream. -/
def oneStream : Circumstances where
  pages _ := .ok { results := [default] }
  byIds _ := .ok []
  verdict _ := ⟨.ok {}, .ok false, none⟩

end StreamWatch.ProbeTask
