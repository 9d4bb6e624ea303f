/-
**A call of an engine that others call, too.**

A call takes the engine or is turned away, in one moment. From that moment on until it lets the engine go
it has it, however it ends, and nobody else changes who has it. It is noted whether a request to stop came
since the engine was taken last: no request from before counts, and before anything is counted all counters
are zero.

* `Phase`, `phased_runTaken`: what a run that has the engine knows of it;
* `Hall`, `Call`: the engine and what is around it, and calls of it;
* `Stands`: where a call may stand;
* `Stands.step`: what the next step of a call makes of it and of the engine.
-/

import StreamWatch.Proofs.Engine.Passage
import StreamWatch.Proofs.Program.Phases

namespace StreamWatch

open Program

/-- Whether nothing is counted. -/
def Progress.IsZero (p : Progress) : Prop := p = { status := p.status }

namespace Engine

/-! ### Phases of a run -/

/-- How far a run is that has the engine. -/
inductive Phase where
  | taken
  /-- requests to stop from before are taken back -/
  | listening
  /-- and counting has not begun -/
  | uncounted
deriving DecidableEq

namespace Phase

/-- What is known of the engine in a phase, given whether a request to stop came since it was taken. -/
def Holds (phase : Phase) (isStopped : Bool) (cell : EngineCell) : Prop :=
  cell.isProbing = true ∧ (phase ≠ taken → cell.isCancelled = true → isStopped = true) ∧
    (phase = uncounted → cell.progress.IsZero)

/-- Whether an action leads from one phase into another. -/
def Leads (phase : Phase) (change : EngineCell → EngineCell) (later : Phase) : Prop :=
  ∀ isStopped cell, phase.Holds isStopped cell → later.Holds isStopped (change cell)

/-- Whether a question may be asked in a phase: the remote before anything is counted, and streams are
probed after that. -/
def Permits (phase : Phase) : Ask → Prop
  | .remote _ => phase = uncounted
  | _ => phase = listening

theorem Permits.ne_taken {phase : Phase} {ask : Ask} (permits : phase.Permits ask) : phase ≠ taken := by
  cases ask <;> exact permits ▸ nofun

theorem leads_id (phase : Phase) : phase.Leads id phase := fun _ _ holds => holds

theorem leads_rearm : taken.Leads EngineCell.rearm listening := fun _ _ holds => ⟨holds.1, nofun, nofun⟩

theorem leads_start : listening.Leads EngineCell.start uncounted :=
  fun _ _ holds => ⟨holds.1, fun _ => holds.2.1 nofun, fun _ => rfl⟩

theorem leads_say (status : String) : uncounted.Leads (EngineCell.say status) uncounted := by
  refine fun isStopped cell holds => ⟨holds.1, fun _ => holds.2.1 nofun, fun _ => ?_⟩
  have zero : cell.progress = { status := cell.progress.status } := holds.2.2 rfl
  show ({ cell.progress with status } : Progress) = { status }
  rw [zero]

theorem leads_gentle {phase : Phase} (known : phase ≠ taken) {change : EngineCell → EngineCell}
    (gentle : IsGentle change) : phase.Leads change listening := by
  intro isStopped cell holds
  obtain ⟨stopped, probing⟩ := gentle cell
  refine ⟨probing.trans holds.1, fun _ asked => holds.2.1 known ?_, nofun⟩
  rwa [stopped] at asked

end Phase

section
open Phase

/-- A program of a run that goes from one phase to another. -/
abbrev Goes {α : Type} (work : Work EngineCell α) (phase last : Phase) : Prop :=
  work.Phased Leads Permits (fun _ phase => phase = last) phase

theorem goes_remote (call : RemoteCall) : Goes (Work.remote call) uncounted uncounted :=
  phased_get (show Permits _ (.remote call) from rfl)

theorem goes_now : Goes Work.now listening listening := phased_get (show Permits _ .wallClock from rfl)

theorem goes_probeStreams (settings : ProbingSettings) (streams : List Stream) :
    Goes (Work.probeStreams settings streams) listening listening :=
  phased_get (show Permits _ (.probeStreams settings streams) from rfl)

theorem goes_refreshEach (accounts : List Account) : Goes (refreshEach accounts) uncounted uncounted := by
  induction accounts with
  | nil => rfl
  | cons account rest ih =>
    refine ⟨uncounted, leads_id _, fun before => ?_⟩
    show Goes (if before.isCancelled = true then _ else _) _ _
    split
    · rfl
    · refine phased_bind ((goes_remote _).mono ?_)
      rintro - - rfl
      exact ih

theorem goes_refreshAccounts : Goes refreshAccounts uncounted uncounted := by
  refine phased_change (leads_say _) (phased_bind ((goes_remote _).mono ?_))
  rintro (error | accounts) - rfl
  · rfl
  · exact goes_refreshEach _

theorem goes_walkFrom {α : Type} {page : Nat → Work EngineCell (Except RemoteError (Page α))}
    {phase : Phase} (asked : ∀ number, Goes (page number) phase phase) (left number : Nat) (before : List α) :
    Goes (Pages.walkFrom page left number before) phase phase := by
  induction left generalizing number before with
  | zero => rfl
  | succ left ih =>
    refine phased_bind ((asked number).mono fun reply last same => ?_)
    rw [same]
    cases reply with
    | error error => rfl
    | ok batch =>
      show Goes (if _ then _ else _) _ _
      split
      · exact ih _ _
      · rfl

theorem goes_fetch (size : UInt32) (only : Option (List Int)) : Goes (fetch size only) uncounted uncounted := by
  cases only with
  | some ids => exact goes_remote _
  | none => exact goes_walkFrom (fun _ => goes_remote _) _ _ _

theorem goes_probeFetched (settings : ProbingSettings) (startedAt : Instant) (streams : List Stream) :
    Goes (probeFetched settings startedAt streams) uncounted listening := by
  refine phased_change (leads_gentle (by decide) (isGentle_sayProbing _)) ?_
  refine phased_bind ((goes_probeStreams settings streams).mono ?_)
  rintro outcomes - rfl
  refine ⟨listening, leads_id _, fun before => ?_⟩
  show Goes (Work.now >>= _) _ _
  refine phased_bind (goes_now.mono ?_)
  rintro completedAt - rfl
  refine phased_change (leads_gentle (by decide) (isGentle_finish _)) ?_
  exact phased_change (leads_gentle (by decide) (isGentle_keep _)) rfl

theorem goes_fetchAndProbe (settings : ProbingSettings) (size : UInt32) (only : Option (List Int))
    (startedAt : Instant) : Goes (fetchAndProbe settings size only startedAt) uncounted listening := by
  refine phased_change (leads_say _) (phased_bind ((goes_fetch size only).mono ?_))
  rintro (error | streams) - rfl
  · exact phased_change (leads_gentle (by decide) (isGentle_say _)) rfl
  · exact goes_probeFetched settings startedAt streams

/-- **A run takes back requests to stop and begins to count anew** before it asks the remote. -/
theorem goes_runTaken (settings : ProbingSettings) (size : UInt32) (only : Option (List Int))
    (skipRefresh : Bool) : Goes (runTaken settings size only skipRefresh) taken listening := by
  rw [runTaken_eq]
  refine phased_change leads_rearm (phased_bind (goes_now.mono ?_))
  rintro startedAt - rfl
  have refreshed : Goes (if skipRefresh then pure ⟨⟩ else refreshAccounts) uncounted uncounted := by
    cases skipRefresh with
    | true => rfl
    | false => exact goes_refreshAccounts
  refine phased_change leads_start (phased_bind (refreshed.mono ?_))
  rintro - - rfl
  exact goes_fetchAndProbe settings size only startedAt

end

/-! ### The engine and its calls -/

/-- An engine and what is around it. -/
structure Hall where
  engine : EngineCell
  around : Circumstances
  store : Memory
  /-- whether a request to stop came since the engine was taken last -/
  isStopped : Bool := false

namespace Hall

/-- The hall after a write of a call to the engine. A call that writes while nobody has the engine takes it,
and has not been asked to stop yet. -/
def put (engine : EngineCell) (hall : Hall) : Hall :=
  { hall with engine, isStopped := hall.isStopped && hall.engine.isProbing }

/-- The hall after a request to stop. -/
def cancel (hall : Hall) : Hall := { hall with engine := hall.engine.cancel, isStopped := true }

/-- What calls stand on. The store may answer and become whatever it likes. -/
def stage : Stage Hall where
  around := around
  engine := engine
  put := put
  putAbout _ := put
  store _ hall _ after := ∃ store, after = { hall with store }
  exists_stored _ hall := ⟨.error .database, hall, hall.store, rfl⟩

/-- Whether only the circumstances and the store may have changed. -/
structure Spares (hall later : Hall) : Prop where
  engine : later.engine = hall.engine
  stopped : later.isStopped = hall.isStopped

theorem Spares.refl (hall : Hall) : Spares hall hall := ⟨rfl, rfl⟩

/-- What a stream of a run may do: it leaves alone who has the engine, and whether it was asked to stop. -/
structure Abides (hall later : Hall) : Prop where
  probing : hall.engine.isProbing = true → later.engine.isProbing = true
  cancelled : later.engine.isCancelled = hall.engine.isCancelled
  stopped : hall.engine.isProbing = true → later.isStopped = hall.isStopped

/-- What is known of the engine in a phase of a run. -/
abbrev Knows (phase : Phase) (hall : Hall) : Prop := phase.Holds hall.isStopped hall.engine

theorem Knows.abides {hall later : Hall} (knows : hall.Knows .listening) (abides : Abides hall later) :
    later.Knows .listening := by
  refine ⟨abides.probing knows.1, fun known asked => ?_, nofun⟩
  rw [abides.cancelled] at asked
  rw [abides.stopped knows.1]
  exact knows.2.1 known asked

theorem Knows.spares {phase : Phase} {hall later : Hall} (knows : hall.Knows phase)
    (spares : Spares hall later) : later.Knows phase := by
  rw [Knows, spares.engine, spares.stopped]
  exact knows

theorem Knows.cancel {phase : Phase} {hall : Hall} (knows : hall.Knows phase) : hall.cancel.Knows phase :=
  ⟨knows.1, fun _ _ => rfl, knows.2.2⟩

/-- What a run of the engine does leads into the phases it leads into alone. -/
theorem Knows.put {phase later : Phase} {change : EngineCell → EngineCell} (leads : phase.Leads change later)
    {hall : Hall} (knows : hall.Knows phase) : (hall.put (change hall.engine)).Knows later := by
  have noted : (hall.put (change hall.engine)).isStopped = hall.isStopped := by
    show (hall.isStopped && hall.engine.isProbing) = hall.isStopped
    rw [knows.1, Bool.and_true]
  rw [Knows, noted]
  exact leads _ _ knows

end Hall

/-- A call of the engine. -/
abbrev Call : Type := Thread Hall.stage.outside (Except EngineError RunSummary)

namespace Call

/-- What may happen next to a call, of itself. -/
abbrev Steps (call : Call) (hall : Hall) (next : Call) (later : Hall) : Prop :=
  Thread.Step Hall.stage.outside call hall next later

/-- A call that has just arrived. -/
def arriving (settings : ProbingSettings) (size : UInt32) (only : Option (List Int)) (skipRefresh : Bool) : Call :=
  .awake (Hall.stage.work (run settings size only skipRefresh)) {}

/-- A program at whose end the engine is let go. -/
def concluding (program : Work Hall (Except EngineError RunSummary)) : Work Hall (Except EngineError RunSummary) :=
  program.bind fun reply => .letGo (.done reply)

/-- A call that has taken the engine, and is about to hold it. -/
def taking (settings : ProbingSettings) (size : UInt32) (only : Option (List Int)) (skipRefresh : Bool) : Call :=
  .awake (.hold Hall.stage.freed (concluding (Hall.stage.work (runTaken settings size only skipRefresh)))) {}

/-- A call that was told that another one has the engine. -/
def turnedAway : Call := .awake (.done (.error .alreadyRunning)) {}

/-- What a call has beside its program. -/
def beside : Call → Beside Hall
  | .awake _ beside => beside
  | .waiting _ _ _ _ beside => beside

/-- A call that breaks off where it stands. -/
def broken (call : Call) : Call := .awake .breakOff call.beside

/-- Whether a call has come to an end, with or without a result. -/
def IsOver : Call → Prop
  | .awake program _ => program.IsOver
  | .waiting .. => False

/-- Whether a call is about to hold the engine, which it has taken. -/
def IsTaking : Call → Prop
  | .awake (.hold _ _) _ => True
  | _ => False

/-- Whether a call has the engine. -/
def HasEngine (call : Call) : Prop := call.IsTaking ∨ call.beside.held ≠ []

/-- Whether a program of a run goes on from some phase. -/
abbrev Goes (program : Work Hall (Except EngineError RunSummary)) (phase : Phase) : Prop :=
  program.Phased (fun phase change later => ∀ hall : Hall, hall.Knows phase → (change hall).Knows later)
    Phase.Permits (fun _ _ => True) phase

/-- What is beside a call that has the engine. -/
def owning : Beside Hall := { held := [Hall.stage.freed] }

/-- Whether streams that are under way do only what they may. -/
def Together (ask : Ask) (course : Course Hall) (hall : Hall) : Prop :=
  ∀ settings streams, ask = .probeStreams settings streams → ∃ company : Crew Hall streams,
    course = .crew streams company ∧
      (company.withState hall).Keeps (Hall.stage.venue settings streams) (fun _ _ _ => True)
        (fun _ => Hall.Abides) fun _ _ _ => True

/-- Where a call may stand. -/
inductive Stands : Call → Hall → Prop
  | arriving {settings : ProbingSettings} {size : UInt32} {only : Option (List Int)} {skipRefresh : Bool}
      {hall : Hall} : Stands (arriving settings size only skipRefresh) hall
  | takes {program : Work Hall (Except EngineError RunSummary)} {hall : Hall} (knows : hall.Knows .taken)
      (goes : Goes program .taken) : Stands (.awake (.hold Hall.stage.freed (concluding program)) {}) hall
  | runs {phase : Phase} {program : Work Hall (Except EngineError RunSummary)} {hall : Hall}
      (knows : hall.Knows phase) (goes : Goes program phase) : Stands (.awake (concluding program) owning) hall
  | waits {phase : Phase} {ask : Ask} {course : Course Hall}
      {next : ask.Reply → Work Hall (Except EngineError RunSummary)} {isAsleep : Bool} {hall : Hall}
      (knows : hall.Knows phase) (permits : phase.Permits ask) (goes : ∀ reply, Goes (next reply) phase)
      (together : Together ask course hall) :
      Stands (.waiting ask course (fun reply => concluding (next reply)) isAsleep owning) hall
  | breaksOff {hall : Hall} (probing : hall.engine.isProbing = true) : Stands (.awake .breakOff owning) hall
  | isOver {program : Work Hall (Except EngineError RunSummary)} {hall : Hall} (isOver : program.IsOver) :
      Stands (.awake program {}) hall

section
variable {call next : Call} {hall later : Hall}

theorem not_hasEngine_arriving {settings : ProbingSettings} {size : UInt32} {only : Option (List Int)}
    {skipRefresh : Bool} : ¬ HasEngine (arriving settings size only skipRefresh) := by
  rintro (taking | holds)
  · exact taking
  · exact holds rfl

/-- A call that is over has the engine only as long as it holds it. -/
theorem not_hasEngine_of_isOver (isOver : call.IsOver) (freed : call.beside.held = []) : ¬ call.HasEngine := by
  rintro (taking | holds)
  · cases call with
    | awake program beside =>
      cases program with
      | hold => exact isOver
      | done | act | ask | letGo | watch | unwatch | breakOff => exact taking
    | waiting => exact isOver
  · exact holds freed

theorem hasEngine_of_owning {program : Work Hall (Except EngineError RunSummary)} :
    HasEngine (.awake program owning) := .inr (List.cons_ne_nil _ _)

/-- A run over the hall: in its first action it takes the engine or is turned away. -/
theorem work_run (settings : ProbingSettings) (size : UInt32) (only : Option (List Int)) (skipRefresh : Bool) :
    Hall.stage.work (run settings size only skipRefresh) =
      .act (fun hall => hall.put hall.engine.take) fun before =>
        if before.engine.isProbing = true then .done (.error .alreadyRunning)
        else .hold Hall.stage.freed (concluding (Hall.stage.work (runTaken settings size only skipRefresh))) := by
  refine congrArg (Program.act _) (funext fun before => ?_)
  show Hall.stage.work (if before.engine.isProbing = true then pure (.error .alreadyRunning) else do
    holding EngineCell.free
    let reply ← runTaken settings size only skipRefresh
    lettingGo
    return reply) = _
  split
  · rfl
  · refine congrArg (Program.hold _) ?_
    exact Hall.stage.work_bind (runTaken settings size only skipRefresh) fun reply => .letGo (.done reply)

/-- A write of the engine as it is, while somebody has it, changes nothing. -/
theorem put_take_of_isProbing (busy : hall.engine.isProbing = true) : hall.put hall.engine.take = hall := by
  obtain ⟨⟨isProbing, isCancelled, progress, lastRun⟩, around, store, isStopped⟩ := hall
  cases busy
  exact congrArg (Hall.mk _ around store) (Bool.and_true isStopped)

/-- **A call that arrives** is turned away while another one has the engine, and else takes it. -/
theorem step_arriving_iff {settings : ProbingSettings} {size : UInt32} {only : Option (List Int)}
    {skipRefresh : Bool} :
    (arriving settings size only skipRefresh).Steps hall next later ↔
      next = (if hall.engine.isProbing = true then turnedAway else taking settings size only skipRefresh) ∧
        later = hall.put hall.engine.take := by
  unfold arriving
  rw [work_run]
  constructor
  · intro step
    cases step with
    | act => exact ⟨apply_ite (Thread.awake · {}) .., rfl⟩
  · rintro ⟨rfl, rfl⟩
    unfold turnedAway taking
    rw [← apply_ite fun program => (.awake program {} : Thread Hall.stage.outside _)]
    exact .act

/-! ### Where a call may stand -/

/-- A call stands where it stood when nothing is known any less. -/
theorem Stands.kept (stands : Stands call hall) (kept : ∀ phase, hall.Knows phase → later.Knows phase) :
    Stands call later := by
  cases stands with
  | arriving => exact .arriving
  | takes knows goes => exact .takes (kept _ knows) goes
  | runs knows goes => exact .runs (kept _ knows) goes
  | waits knows permits goes together =>
    refine .waits (kept _ knows) permits goes fun settings streams same => ?_
    obtain ⟨company, known, keeps⟩ := together settings streams same
    exact ⟨company, known, keeps.withState fun _ => trivial⟩
  | breaksOff probing => exact .breaksOff (kept .taken ⟨probing, nofun, nofun⟩).1
  | isOver isOver => exact .isOver isOver

/-- To a call that does not have the engine it does not matter what others do. -/
theorem Stands.elsewhere (stands : Stands call hall) (idle : ¬ call.HasEngine) : Stands call later := by
  cases stands with
  | arriving => exact .arriving
  | isOver isOver => exact .isOver isOver
  | takes => exact absurd (.inl trivial) idle
  | runs | waits | breaksOff => exact absurd (.inr (List.cons_ne_nil _ _)) idle

/-- A call may break off anywhere but between taking the engine and holding it. -/
theorem Stands.broken (stands : Stands call hall) (settled : ¬ call.IsTaking) :
    Stands call.broken hall ∧ (call.broken.HasEngine ↔ call.HasEngine) := by
  have same : call.broken.HasEngine ↔ call.HasEngine :=
    ⟨fun has => .inr (has.resolve_left id), fun has => .inr (has.resolve_left settled)⟩
  refine ⟨?_, same⟩
  cases stands with
  | arriving | isOver => exact .isOver trivial
  | takes => exact absurd trivial settled
  | runs knows | waits knows => exact .breaksOff knows.1
  | breaksOff probing => exact .breaksOff probing

/-- A call that is over has let the engine go, or has broken off with it. -/
theorem Stands.over (stands : Stands call hall) (isOver : call.IsOver) :
    ¬ call.HasEngine ∨ call = .awake .breakOff owning := by
  cases stands with
  | @arriving settings size only skipRefresh =>
    have acts : (Hall.stage.work (run settings size only skipRefresh)).IsOver := isOver
    rw [work_run] at acts
    exact acts.elim
  | takes => exact isOver.elim
  | @runs phase program _ knows goes =>
    cases program with
    | done | act | ask => exact isOver.elim
    | hold | letGo | watch | unwatch | breakOff => exact goes.elim
  | waits => exact isOver.elim
  | breaksOff => exact .inr rfl
  | isOver isOver => exact .inl (not_hasEngine_of_isOver isOver rfl)

theorem together_begins (ask : Ask) (hall : Hall) : Together ask (Hall.stage.begins ask hall) hall := by
  rintro settings streams rfl
  have may (place : Fin streams.length) :
      MayAsk Hall.stage place Hall.Abides (streams.get place).id :=
    ⟨fun _ _ => ⟨id, rfl, fun _ => rfl⟩, by rintro call state value after - ⟨store, rfl⟩; exact ⟨id, rfl, fun _ => rfl⟩⟩
  have within (place : Fin streams.length) :=
    (may place).within_probeStream (fun change gentle state => by
      refine ⟨fun probing => (gentle _).2.trans probing, (gentle _).1, fun probing => ?_⟩
      show (state.isStopped && state.engine.isProbing) = state.isStopped
      rw [probing, Bool.and_true]) settings
  have turns : Turns Hall.stage settings (fun _ _ _ => True) (fun _ => Hall.Abides) (fun _ _ _ => True)
      (fun (_ : Fin streams.length) _ => True) (Hall.stage.crew settings streams hall) :=
    turns_crew (fun place => (within place).ensures hall) within fun _ => trivial
  exact ⟨_, rfl, turns.keeps⟩

theorem spares_of_answers {ask : Ask} {course : Course Hall} {isAsleep : Bool} {reply : Option ask.Reply}
    (answered : Hall.stage.outside.answers ask course isAsleep hall reply later) : Hall.Spares hall later := by
  cases answered with
  | @plain ask _ _ after _ answered =>
    suffices spares : Hall.Spares hall after by
      cases isAsleep <;> exact spares
    cases ask with
    | store call =>
      obtain ⟨value, ⟨store, rfl⟩, -⟩ := answered
      exact ⟨rfl, rfl⟩
    | remote call => cases call <;> exact answered.2 ▸ .refl hall
    | probe | sample | sleep | clock | wallClock | probeStreams => exact answered.2 ▸ .refl hall
  | crew => cases isAsleep <;> exact .refl hall

theorem Together.goesOn {ask : Ask} {course next : Course Hall} (together : Together ask course hall)
    (goes : Hall.stage.outside.goesOn ask course hall next later) :
    Together ask next later ∧ (ask.IsPlain ∨ Hall.Abides hall later) := by
  cases goes with
  | @crew settings streams company last state step =>
    obtain ⟨_, known, keeps⟩ := together settings streams rfl
    cases known
    have pact : Company.Pact (Hall.stage.venue settings streams) (fun _ _ _ => True) fun _ => Hall.Abides :=
      ⟨fun _ _ _ _ => trivial, fun _ _ _ _ _ _ => trivial⟩
    obtain ⟨keeps, -, acts⟩ := keeps.step pact step
    refine ⟨?_, .inr ?_⟩
    · rintro settings streams ⟨⟩
      exact ⟨last, rfl, keeps⟩
    · rcases acts with same | none | ⟨place, abides⟩
      · rw [same]
        exact ⟨id, rfl, fun _ => rfl⟩
      · exact none.elim
      · exact abides

/-- What a step of a call has to do with who has the engine. -/
inductive Effect (call next : Call) (hall later : Hall) : Prop
  | turnedAway (busy : hall.engine.isProbing = true) (idle : ¬ call.HasEngine) (still : ¬ next.HasEngine)
      (same : later = hall)
  | takes (free : hall.engine.isProbing = false) (idle : ¬ call.HasEngine) (has : next.HasEngine)
      (probing : later.engine.isProbing = true)
  | keeps (had : call.HasEngine) (has : next.HasEngine) (probing : later.engine.isProbing = true)
  | frees (had : call.HasEngine) (gone : ¬ next.HasEngine) (free : later.engine.isProbing = false)

/-- A call that takes its course stands where it may after each of its steps. -/
theorem step_of_goes {phase : Phase} {program : Work Hall (Except EngineError RunSummary)}
    (knows : hall.Knows phase) (goes : Goes program phase)
    (steps : Steps (.awake (concluding program) owning) hall next later) :
    Stands next later ∧ Effect (.awake (concluding program) owning) next hall later := by
  have had : HasEngine (.awake (concluding program) owning) := hasEngine_of_owning
  cases program with
  | done value =>
    cases steps with
    | letGo => exact ⟨.isOver trivial, .frees had (not_hasEngine_of_isOver trivial rfl) rfl⟩
    | release isOver => exact isOver.elim
  | act change rest =>
    obtain ⟨last, leads, goes⟩ := goes
    cases steps with
    | act => exact ⟨.runs (leads _ knows) (goes _), .keeps had hasEngine_of_owning (leads _ knows).1⟩
    | release isOver => exact isOver.elim
  | ask question rest =>
    obtain ⟨permits, goes⟩ := goes
    cases steps with
    | asks =>
      exact ⟨.waits knows permits goes (together_begins question hall),
        .keeps had (.inr (List.cons_ne_nil _ _)) knows.1⟩
    | release isOver => exact isOver.elim
  | hold | letGo | watch | unwatch | breakOff => exact goes.elim

theorem step_of_waits {phase : Phase} {ask : Ask} {course : Course Hall}
    {rest : ask.Reply → Work Hall (Except EngineError RunSummary)} {isAsleep : Bool}
    (knows : hall.Knows phase) (permits : phase.Permits ask) (goes : ∀ reply, Goes (rest reply) phase)
    (together : Together ask course hall)
    (steps : Steps (.waiting ask course (fun reply => concluding (rest reply)) isAsleep owning) hall next later) :
    Stands next later ∧
      Effect (.waiting ask course (fun reply => concluding (rest reply)) isAsleep owning) next hall later := by
  have had : HasEngine (.waiting ask course (fun reply => concluding (rest reply)) isAsleep owning) :=
    .inr (List.cons_ne_nil _ _)
  cases steps with
  | fallsAsleep =>
    exact ⟨.waits knows permits goes together, .keeps had (.inr (List.cons_ne_nil _ _)) knows.1⟩
  | watched watches => cases watches
  | goesOn isFree goesOn =>
    obtain ⟨together, plain | abides⟩ := together.goesOn goesOn
    · exact absurd goesOn (Hall.stage.not_goesOn_of_isPlain plain _ _ _ _)
    · cases goesOn with
      | crew =>
        cases permits
        exact ⟨.waits (knows.abides abides) rfl goes together,
          .keeps had (.inr (List.cons_ne_nil _ _)) (knows.abides abides).1⟩
  | answered isFree answered =>
    have knows := knows.spares (spares_of_answers answered)
    exact ⟨.runs knows (goes _), .keeps had hasEngine_of_owning knows.1⟩
  | unanswered isFree unanswered =>
    have knows := knows.spares (spares_of_answers unanswered)
    exact ⟨.breaksOff knows.1, .keeps had hasEngine_of_owning knows.1⟩

/-- **A call stands where it may after each of its steps**, and changes who has the engine only by taking it while
it is free and by giving it back. -/
theorem Stands.step (stands : Stands call hall) (steps : call.Steps hall next later) :
    Stands next later ∧ Effect call next hall later := by
  cases stands with
  | @arriving settings size only skipRefresh =>
    obtain ⟨rfl, rfl⟩ := step_arriving_iff.mp steps
    cases busy : hall.engine.isProbing with
    | true =>
      rw [put_take_of_isProbing busy]
      exact ⟨.isOver trivial, .turnedAway busy not_hasEngine_arriving (not_hasEngine_of_isOver trivial rfl) rfl⟩
    | false =>
      have goes := goes_runTaken settings size only skipRefresh
      refine ⟨.takes ⟨rfl, nofun, nofun⟩ (phased_zoom ?_ (goes.mono fun _ _ _ => trivial)), ?_⟩
      · exact fun leads hall knows => Hall.Knows.put leads knows
      · exact .takes busy not_hasEngine_arriving (.inl trivial) rfl
  | takes knows goes =>
    cases steps with
    | hold => exact ⟨.runs knows goes, .keeps (.inl trivial) hasEngine_of_owning knows.1⟩
  | runs knows goes => exact step_of_goes knows goes steps
  | waits knows permits goes together => exact step_of_waits knows permits goes together steps
  | breaksOff probing =>
    cases steps with
    | release => exact ⟨.isOver trivial, .frees hasEngine_of_owning (not_hasEngine_of_isOver trivial rfl) rfl⟩
  | @isOver program _ isOver =>
    cases program with
    | done | breakOff => cases steps
    | act | ask | hold | letGo | watch | unwatch => exact isOver.elim

end

end Call

end Engine
end StreamWatch
