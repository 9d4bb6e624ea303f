/-
**Snapshots of probe runs.**

The streams of a run count themselves, so many of them at a time and in any order. Each of them counts once at most,
and no number decreases by that, so there is room for all of them once the run has told how many there are.

* `tells_run`: what the run itself writes;
* `Hall.within_probeStream`, `Hall.pays_probeStream`: what each of its streams writes;
* `Hall.Probing`: what holds while streams are under way, and `Hall.Probing.step`, that it goes on to hold;
* `snapshots_truthful`: what can be read of a cleanup, of a refresh and of a probe run at any time.
-/

import Mathlib.Data.Fintype.Card
import StreamWatch.Proofs.Task.Snapshots

namespace StreamWatch

open Program

namespace Engine

/-! ### What a run writes -/

section
variable {p : Progress}

theorem isQuiet_refreshEach (accounts : List Account) : IsQuiet EngineCell.progress (refreshEach accounts) := by
  induction accounts with
  | nil => trivial
  | cons account rest ih =>
    refine ⟨⟨⟩, fun _ => rfl, fun before => ?_⟩
    show Program.IsQuiet _ (if before.isCancelled = true then _ else _)
    split
    · trivial
    · exact isQuiet_bind (isQuiet_remote _) fun _ => ih

/-- Nothing is counted before the streams of a run are known. -/
theorem tells_refreshAccounts (room : p.HasRoom 0) (none : p.total = 0) :
    refreshAccounts.Tells EngineCell.progress
      (fun _ isCounting p => isCounting = true ∧ p.HasRoom 0 ∧ p.total = 0) true p := by
  refine tells_told room (fun _ => ⟨_, _, rfl⟩) fun p room same => ?_
  have ended : true = true ∧ p.HasRoom 0 ∧ p.total = 0 := ⟨rfl, room, same.trans none⟩
  refine tells_quiet (isQuiet_remote _) fun reply => ?_
  cases reply with
  | error error => exact ended
  | ok accounts => exact tells_of_quiet (isQuiet_refreshEach _) fun _ => ended

theorem isQuiet_fetch (size : UInt32) (only : Option (List Int)) :
    IsQuiet EngineCell.progress (fetch size only) := by
  cases only with
  | some ids => exact isQuiet_remote _
  | none => exact isQuiet_walkFrom (fun _ => isQuiet_remote _) _ _ _

theorem tells_probeFetched (settings : ProbingSettings) (startedAt : Instant) (streams : List Stream)
    (room : p.HasRoom 0) (none : p.total = 0) :
    (probeFetched settings startedAt streams).Tells EngineCell.progress
      (fun _ isCounting _ => isCounting = true) true p := by
  refine tells_total room none (fun _ => ⟨_, rfl⟩) fun p room => ⟨⟨rfl, room⟩, ?_⟩
  rintro outcomes p ⟨consistent, -⟩
  have room : p.HasRoom 0 := ⟨consistent.counted, consistent.within⟩
  refine tells_look fun isStopped => tells_quiet (isQuiet_get trivial) fun completedAt => ?_
  refine tells_told room (fun _ => ⟨_, _, rfl⟩) fun p room _ => ?_
  exact tells_aside (fun _ => rfl) rfl

theorem tells_fetchAndProbe (settings : ProbingSettings) (size : UInt32) (only : Option (List Int))
    (startedAt : Instant) (room : p.HasRoom 0) (none : p.total = 0) :
    (fetchAndProbe settings size only startedAt).Tells EngineCell.progress
      (fun _ isCounting _ => isCounting = true) true p := by
  refine tells_told room (fun _ => ⟨_, _, rfl⟩) fun p room same => ?_
  refine tells_quiet (isQuiet_fetch size only) fun reply => ?_
  cases reply with
  | error error => exact tells_told room (fun _ => ⟨_, _, rfl⟩) fun _ _ _ => rfl
  | ok streams => exact tells_probeFetched settings startedAt streams room (same.trans none)

theorem tells_runTaken (settings : ProbingSettings) (size : UInt32) (only : Option (List Int)) (skipRefresh : Bool)
    (p : Progress) :
    (runTaken settings size only skipRefresh).Tells EngineCell.progress
      (fun _ isCounting _ => isCounting = true) false p := by
  rw [runTaken_eq]
  refine tells_aside (fun _ => rfl) (tells_quiet (isQuiet_get trivial) fun startedAt => ?_)
  refine tells_reset (fun _ => rfl) fun p room none => ?_
  have refreshed : (if skipRefresh then pure ⟨⟩ else refreshAccounts).Tells EngineCell.progress
      (fun _ isCounting p => isCounting = true ∧ p.HasRoom 0 ∧ p.total = 0) true p := by
    cases skipRefresh with
    | true => exact ⟨rfl, room, none⟩
    | false => exact tells_refreshAccounts room none
  refine tells_bind refreshed ?_
  rintro - isCounting p ⟨rfl, room, none⟩
  exact tells_fetchAndProbe settings size only startedAt room none

/-- **A run writes the progress as it should**, whether it gets the engine or not. -/
theorem tells_run (settings : ProbingSettings) (size : UInt32) (only : Option (List Int)) (skipRefresh : Bool)
    (p : Progress) :
    (run settings size only skipRefresh).Tells EngineCell.progress
      (fun reply isCounting _ => reply ≠ .error .alreadyRunning → isCounting = true) false p := by
  refine .inr fun before same => ⟨.inl same, ?_⟩
  rw [show before.take.progress = p from same]
  show Program.Tells _ _ (if before.isProbing = true then _ else _) false p
  split
  · exact fun own => absurd rfl own
  · refine ⟨fun _ => rfl, ?_⟩
    show Program.Tells _ _ (runTaken settings size only skipRefresh >>= fun reply => lettingGo >>= fun _ =>
      pure reply) false p
    exact tells_bind (tells_runTaken settings size only skipRefresh p) fun _ _ _ counting _ => counting

end

/-! ### What a stream writes -/

end Engine

/-- What a stream of a run may make of the progress: it counts itself. -/
structure Progress.Grows (p later : Progress) : Prop extends Progress.Precedes p later where
  same : later.total = p.total
  counts : p.current = p.processed → later.current = later.processed

namespace Progress.Grows

variable {p later last : Progress}

theorem refl (p : Progress) : p.Grows p := ⟨.refl p, rfl, id⟩

theorem of_eq (same : later = p) : p.Grows later := same ▸ refl p

theorem trans (first : p.Grows later) (second : later.Grows last) : p.Grows last where
  toPrecedes := first.toPrecedes.trans second.toPrecedes
  same := second.same.trans first.same
  counts counted := second.counts (first.counts counted)

end Progress.Grows

namespace Engine

/-- An outcome of a stream that was started counts as one stream more. -/
theorem grows_count {outcome : StreamOutcome} (started : outcome ≠ .notStarted) (cell : EngineCell) :
    cell.progress.Grows (cell.count outcome).progress ∧
      (cell.count outcome).progress.processed = cell.progress.processed + 1 := by
  cases outcome with
  | notStarted => exact absurd rfl started
  | succeeded | failed | timedOut | skipped =>
    refine ⟨⟨?_, rfl, fun counted => ?_⟩, ?_⟩
    · constructor <;> simp [EngineCell.count]
    · simp only [EngineCell.count, Progress.processed] at counted ⊢
      omega
    · simp only [EngineCell.count, Progress.processed]
      omega

/-- How many streams an outcome counts as. -/
def worth (value : Int × StreamOutcome) : Nat := if value.2.isNotStarted then 0 else 1

theorem worth_le_one (value : Int × StreamOutcome) : worth value ≤ 1 := by
  unfold worth
  split <;> decide

namespace Hall

variable {hall later : Hall} {settings : ProbingSettings} {stream : Stream} {place : Nat}

/-- Whether a stream may make one hall of another. -/
abbrev Counts (hall later : Hall) : Prop := hall.engine.progress.Grows later.engine.progress

/-- Between its turn and the count a stream leaves the progress alone. -/
theorem silent_probeOrSkip :
    (stage.workAbout place (probeOrSkip settings stream)).Within (stage.answersAbout place)
      (fun hall later => later.engine.progress = hall.engine.progress) (· ≠ .notStarted) := by
  refine MayAsk.within_probeOrSkip ⟨fun _ _ => rfl, ?_⟩ settings
  rintro call state value after - ⟨store, rfl⟩
  rfl

/-- **A stream counts itself** and does nothing else to the progress. -/
theorem within_probeStream :
    (stage.workAbout place (probeStream settings stream)).Within (stage.answersAbout place)
      Counts fun _ => True := by
  rw [probeStream_eq]
  refine ⟨fun hall => .refl _, fun before => ?_⟩
  show (stage.workAbout place (if before.engine.isCancelled = true then _ else _)).Within _ _ _
  split
  · trivial
  · refine ⟨fun hall => ⟨⟨le_rfl, le_rfl, le_rfl, le_rfl, le_rfl⟩, rfl, id⟩, fun _ => ?_⟩
    show (stage.workAbout place (probeOrSkip settings _ >>= _)).Within _ _ _
    rw [stage.workAbout_bind]
    refine within_bind (silent_probeOrSkip.mono fun _ _ same => .of_eq same) fun outcome started => ?_
    exact ⟨fun hall => (grows_count started hall.engine).1, fun _ => trivial⟩

/-- It does so once, unless it was not started. -/
theorem pays_probeStream :
    (stage.workAbout place (probeStream settings stream)).Pays (stage.answersAbout place)
      (·.engine.progress.processed) worth 0 := by
  rw [probeStream_eq]
  intro hall
  refine ⟨0, rfl, ?_⟩
  show (stage.workAbout place (if hall.engine.isCancelled = true then _ else _)).Pays _ _ _ _
  split
  · rfl
  · intro hall
    refine ⟨0, rfl, ?_⟩
    show (stage.workAbout place (probeOrSkip settings _ >>= _)).Pays _ _ _ _
    rw [stage.workAbout_bind]
    refine pays_bind (silent_probeOrSkip.mono fun hall later same => congrArg Progress.processed same)
      fun outcome started => fun hall => ⟨1, (grows_count started hall.engine).2, ?_⟩
    exact if_neg fun unstarted => started (StreamOutcome.isNotStarted_iff.mp unstarted)

/-! ### Streams beside each other -/

/-- What holds of streams that are under way since the progress was such. -/
structure Probing (settings : ProbingSettings) (streams : List Stream) (p : Progress) (company : Crew Hall streams) :
    Prop where
  keeps : company.Keeps (stage.venue settings streams) (fun _ _ _ => True)
    (fun _ => Counts) fun _ _ _ => True
  balanced : company.Balanced (stage.venue settings streams) (·.engine.progress.processed) worth p.processed
  grown : p.Grows company.state.engine.progress

variable {streams : List Stream} {p : Progress} {company next : Crew Hall streams}

theorem probing_crew (settings : ProbingSettings) (streams : List Stream) (hall : Hall) :
    Probing settings streams hall.engine.progress (stage.crew settings streams hall) := by
  have turns : Turns stage settings (fun _ _ _ => True) (fun _ => Counts) (fun _ _ _ => True)
      (fun (_ : Fin streams.length) _ => True) (stage.crew settings streams hall) :=
    turns_crew (fun place => within_probeStream.ensures hall) (fun place => within_probeStream) fun _ => trivial
  refine ⟨turns.keeps, ⟨turns.keeps.distinct, fun _ => 0, fun member known => ?_, ?_⟩, .refl _⟩
  · simp only [Stage.crew, Company.members, List.append_nil, List.map_nil, List.mem_map] at known
    obtain ⟨place, -, rfl⟩ := known
    exact pays_probeStream
  · simp [Stage.crew]

theorem Probing.step (probing : Probing settings streams p company)
    (step : Company.Step (stage.venue settings streams) company next) :
    Probing settings streams p next ∧ company.state.engine.progress.Precedes next.state.engine.progress := by
  obtain ⟨keeps, balanced, grown⟩ := probing
  obtain ⟨keeps, -, acts⟩ := keeps.step ⟨fun _ _ _ _ => trivial, fun _ _ _ _ _ _ => trivial⟩ step
  have grows : company.state.engine.progress.Grows next.state.engine.progress := by
    rcases acts with same | none | ⟨place, grows⟩
    · exact .of_eq (congrArg (·.engine.progress) same)
    · exact none.elim
    · exact grows
  exact ⟨⟨keeps, balanced.step (fun _ _ => False.elim) step, grown.trans grows⟩, grows.toPrecedes⟩

theorem Probing.withState (probing : Probing settings streams p company)
    (same : hall.engine.progress = company.state.engine.progress) :
    Probing settings streams p (company.withState hall) where
  keeps := probing.keeps.withState fun _ => trivial
  balanced := by
    obtain ⟨distinct, paid, pays, sum⟩ := probing.balanced
    exact ⟨distinct, paid, pays, (congrArg Progress.processed same).trans sum⟩
  grown := by
    show p.Grows hall.engine.progress
    rw [same]
    exact probing.grown

/-- **There is room for all streams**, whichever of them have counted themselves. -/
theorem Probing.isConsistent (probing : Probing settings streams p company) (room : p.HasRoom streams.length) :
    company.state.engine.progress.IsConsistent := by
  obtain ⟨keeps, balanced, grown⟩ := probing
  have counted := grown.counts room.counted
  have few : company.members.length ≤ streams.length := by
    have distinct := keeps.distinct.length_le_card
    rwa [List.length_map, Fintype.card_fin] at distinct
  have most : company.state.engine.progress.processed ≤ p.processed + company.members.length * 1 :=
    balanced.le (fun place => stage.exists_answer place) worth_le_one
  obtain ⟨start, room⟩ := room
  refine ⟨counted, ?_⟩
  rw [counted, grown.same]
  omega

/-! ### The run and its streams -/

/-- What others do to an engine that a run has: whatever they like, but for its progress. A call that is turned away
is like that, and so is a request to stop. -/
def Aloof (hall later : Hall) : Prop := later.engine.progress = hall.engine.progress

theorem bears_plain {question : Ask} (plain : question.IsPlain) (p : Progress) :
    Bears stage.outside (·.engine.progress) question p fun course hall =>
      course = .plain ∧ hall.engine.progress = p where
  begins same := ⟨stage.begins_of_isPlain plain _, same⟩
  yields under := (Ask.yields_iff_of_isPlain plain).mpr under.2
  spares under same := ⟨under.1, same.trans under.2⟩
  goesOn _ goes := absurd goes (stage.not_goesOn_of_isPlain plain _ _ _ _)
  answers _ answered := congrArg EngineCell.progress (Call.spares_of_answers answered).engine

theorem bears_probeStreams (settings : ProbingSettings) (streams : List Stream) (room : p.HasRoom streams.length) :
    Bears stage.outside (·.engine.progress) (.probeStreams settings streams) p fun course hall =>
      ∃ company : Crew Hall streams, course = .crew streams company ∧
        Probing settings streams p (company.withState hall) where
  begins := by
    rintro hall rfl
    exact ⟨_, rfl, probing_crew settings streams hall⟩
  yields := by
    rintro course hall ⟨company, -, probing⟩
    exact ⟨probing.isConsistent room, probing.grown.toPrecedes⟩
  spares := by
    rintro course hall later ⟨company, known, probing⟩ same
    exact ⟨company, known, probing.withState same⟩
  goesOn := by
    rintro course next hall later ⟨company, rfl, probing⟩ goes
    cases goes with
    | @crew settings streams company last hall step =>
      obtain ⟨probing, precedes⟩ := probing.step step
      exact ⟨⟨last, rfl, probing⟩, precedes⟩
  answers _ answered := congrArg EngineCell.progress (Call.spares_of_answers answered).engine

/-- **Nobody but the run and its streams writes the progress.** -/
theorem honest_stage : Honest stage.outside Aloof (·.engine.progress) where
  others := id
  bears {question isCounting p} _ suits := by
    cases question with
    | probeStreams settings streams => exact ⟨_, bears_probeStreams settings streams suits.2⟩
    | remote | store | probe | sample | sleep | clock | wallClock =>
      refine ⟨_, bears_plain ?_ p⟩
      exact trivial

end Hall

end Engine

/-! ### What can be read of runs -/

/-- **Whatever can be read of a cleanup, of a refresh of guide sources and of a probe run is true**, whatever they are
answered, whenever they are asked to stop and in whatever order streams are probed: what was counted is what was done
with, and no more than there is, and from the moment the run has set the progress back no number decreases. Every run
that comes to an end has set it back, but for one that was turned away. -/
theorem snapshots_truthful :
    (∀ settings size (cell : TaskCell), cell.progress.IsConsistent →
      Truthful TaskCell.anyone TaskCell.Spares TaskCell.progress (fun _ => True)
        (.awake (Cleanup.run settings size) {}, cell)) ∧
    (∀ settings (cell : TaskCell), cell.progress.IsConsistent →
      Truthful TaskCell.anyone TaskCell.Spares TaskCell.progress (fun _ => True)
        (.awake (GuideRefresh.run settings) {}, cell)) ∧
    ∀ settings size only skipRefresh (hall : Engine.Hall), hall.engine.progress.IsConsistent →
      Truthful Engine.Hall.stage.outside Engine.Hall.Aloof (·.engine.progress) (· ≠ .error .alreadyRunning)
        (.awake (Engine.Hall.stage.work (Engine.run settings size only skipRefresh)) {}, hall) := by
  refine ⟨fun settings size cell consistent => ?_, fun settings cell consistent => ?_,
    fun settings size only skipRefresh hall consistent => ?_⟩
  · have tells := Cleanup.tells_run settings size cell.progress
    exact truthful_of_tells TaskCell.honest_anyone tells (fun _ _ _ counting _ => counting) consistent
  · have tells := GuideRefresh.tells_run settings cell.progress
    exact truthful_of_tells TaskCell.honest_anyone tells (fun _ _ _ counting _ => counting) consistent
  · have tells := Engine.tells_run settings size only skipRefresh hall.engine.progress
    exact truthful_of_tells Engine.Hall.honest_stage (tells_zoom (fun _ _ => rfl) tells) (fun _ _ _ own => own)
      consistent

/-- An engine that has not run yet, where there is one stream. -/
def Engine.Hall.fresh : Engine.Hall where
  engine := {}
  around := ⟨fun _ => .ok { results := [default] }, fun _ => .ok [], fun _ => ⟨.ok {}, .ok false, none⟩⟩
  store := .empty

/-- Cells that nobody has written yet are consistent, and the first step of a cleanup sets them back. -/
theorem fresh_snapshots_truthful :
    ({} : Progress).IsConsistent ∧
    (∃ after, Thread.Resets TaskCell.progress
      ((.awake (Cleanup.run {} 25) {}, {}) : Thread TaskCell.anyone TaskReport × TaskCell) after) ∧
    Truthful TaskCell.anyone TaskCell.Spares TaskCell.progress (fun _ => True)
      (.awake (Cleanup.run {} 25) {}, {}) ∧
    Truthful TaskCell.anyone TaskCell.Spares TaskCell.progress (fun _ => True)
      (.awake (GuideRefresh.run {}) {}, {}) ∧
    Truthful Engine.Hall.stage.outside Engine.Hall.Aloof (·.engine.progress) (· ≠ .error .alreadyRunning)
      (.awake (Engine.Hall.stage.work (Engine.run {} 25 none true)) {}, Engine.Hall.fresh) :=
  have unwritten : ({} : Progress).IsConsistent := ⟨rfl, le_rfl⟩
  ⟨unwritten, ⟨_, .act fun _ => rfl⟩, snapshots_truthful.1 {} 25 {} unwritten,
    snapshots_truthful.2.1 {} {} unwritten, snapshots_truthful.2.2 {} 25 none true .fresh unwritten⟩

end StreamWatch
