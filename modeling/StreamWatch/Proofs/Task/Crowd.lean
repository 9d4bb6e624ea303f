/-
**Tasks that share one engine, in any order of their actions.**

Executions of tasks go on one action at a time, and so do requests to stop tasks. A request that is passed
on while the task called has the engine is meant for its run. One that is passed on when the task has made
up its mind to run but does not have the engine yet, or has given it back but has not noted that, may mislead
another one. A request is calm if the task called is not in between when the request is made, and does
no more than go on waiting until the request is over.

* `Crowd`, `Move`: executions and requests under way, and what may happen next;
* `Orderly`, `Orderly.move`: where everyone stands, and that it stays so;
* `keepsApart`: an execution is stopped only if its task was asked to stop, or misled, and calm requests
  mislead nobody;
* `not_forall_askedMeanwhile`: the request may have come before the execution began.
-/

import StreamWatch.Proofs.Task.Bench

namespace StreamWatch.ProbeTask

open Engine Program

variable {ι : Type} [DecidableEq ι]

/-! ### Requests to stop -/

namespace Bench

variable {label other : ι} {bench later : Bench ι} {task : ProbeTask}

/-- A request to stop a task. -/
def request (label : ι) : Work (Bench ι) Unit := (seat label).work (cancel true)

/-- The bench once a request to stop a task has been taken back, for a new execution. -/
def rearm (label : ι) (bench : Bench ι) : Bench ι :=
  { bench with cell := Function.update bench.cell label (bench.cell label).rearm }

/-- The bench when an execution of a task begins, whom nobody has misled yet. -/
def setOut (label : ι) (around : Circumstances) (bench : Bench ι) : Bench ι :=
  { bench with
    around := Function.update bench.around label around
    isMisled := Function.update bench.isMisled label false }

/-- A write on behalf of a task that may ask it or the engine to stop. -/
theorem asks_put (owns : task.ownsRun = bench.ownsRun label)
    (cell : (bench.cell label).isCancelled = true → task.cell.isCancelled = true)
    (probing : task.engine.isProbing = bench.engine.isProbing) : Asks label bench (bench.put label task) where
  sound := sound_put
  around := rfl
  owns := by
    show Function.update bench.ownsRun label task.ownsRun = _
    rw [owns, Function.update_eq_self]
  holder := holder_put probing
  asked asked := (congrArg TaskCell.isCancelled cell_put).trans (cell asked)
  cell other differ := Function.update_of_ne differ _ _
  misled other before := by
    show (bench.isMisled other || _) = true
    rw [before, Bool.true_or]
  stopped other holds stopped := by
    cases misleads : bench.misleads label task with
    | true =>
      refine .inr (.inl ?_)
      show (bench.isMisled other || (_ && _)) = true
      rw [misleads, decide_eq_true holds, Bool.true_and, Bool.or_true]
    | false =>
      rcases misleads_eq_false_iff.mp misleads stopped with before | ⟨meant, asked⟩
      · exact .inl before
      · refine .inr (.inr ⟨Option.some.inj (holds.symm.trans meant), ?_⟩)
        exact (congrArg TaskCell.isCancelled cell_put).trans asked

/-- **All that a request to stop does** is what requests do. -/
theorem within_request (label : ι) :
    (request label).Within (fun _ _ _ _ => False) (Asks label) fun _ => True := by
  refine ⟨fun bench => asks_put rfl (fun _ => rfl) rfl, fun bench => ?_⟩
  refine ⟨fun bench => asks_put rfl id rfl, fun bench => ?_⟩
  show ((seat label).work (if (bench.task label).ownsRun = true then _ else _)).Within _ _ _
  split
  · exact ⟨fun bench => asks_put rfl id rfl, fun _ => trivial⟩
  · exact trivial

/-! ### Calm requests -/

/-- What a calm request relies on: what the task called has stays as it is, and so does that it was asked. -/
structure Spares (label : ι) (bench later : Bench ι) : Prop where
  owns : later.ownsRun label = bench.ownsRun label
  holds : later.holder = some label ↔ bench.holder = some label
  cell : bench.ownsRun label = true → (bench.cell label).isCancelled = true →
    (later.cell label).isCancelled = true

/-- What a calm request does: it misleads nobody, and leaves the engine as it is unless the task called has
it. -/
structure Aims (label : ι) (bench later : Bench ι) : Prop where
  misled : later.isMisled = bench.isMisled
  engine : bench.holder ≠ some label → later.engine = bench.engine

/-- The manner of a calm request. -/
def calmly (label : ι) : Manner (Bench ι) where
  rely := Spares label
  allowed := Aims label

omit [DecidableEq ι] in
theorem Relies.spares (relies : Relies label bench later) : Spares label bench later :=
  ⟨relies.owns, relies.holds, fun _ => relies.cell⟩

omit [DecidableEq ι] in
theorem Abides.spares (abides : Abides label bench later) : Spares label bench later :=
  ⟨abides.owned, abides.holds, fun _ => abides.asked.trans⟩

theorem aims_put (engine : bench.holder ≠ some label → task.engine = bench.engine)
    (leads : task.engine.isCancelled = true → bench.engine.isCancelled = true ∨
      (bench.holder = some label ∧ task.cell.isCancelled = true)) : Aims label bench (bench.put label task) where
  misled := isMisled_put leads
  engine := engine

/-- **A calm request misleads nobody.** -/
theorem fares_request (outside : Outside (Bench ι) Ask Ask.Reply)
    (calm : bench.ownsRun label = true → bench.holder = some label) :
    (request label).Fares outside (calmly label) (fun _ _ _ => True) {} bench := by
  let noted (bench : Bench ι) : Prop :=
    bench.ownsRun label = true → bench.holder = some label ∧ (bench.cell label).isCancelled = true
  have firmCalm : Firm (calmly label) fun bench => bench.ownsRun label = true → bench.holder = some label := by
    intro seen later spares before owns
    exact spares.holds.mpr (before (spares.owns ▸ owns))
  have firmNoted : Firm (calmly label) noted := by
    intro seen later spares before owns
    have owned := spares.owns ▸ owns
    exact ⟨spares.holds.mpr (before owned).1, spares.cell owned (before owned).2⟩
  have firmMeant : Firm (calmly label) fun bench => bench.ownsRun label = true ∧ noted bench := by
    intro seen later spares meant
    exact ⟨spares.owns.trans meant.1, firmNoted _ _ spares meant.2⟩
  refine fares_act firmCalm calm fun seen calm => ⟨aims_put (fun _ => rfl) .inl, ?_⟩
  have asked : noted (seen.put label { seen.task label with cell := (seen.cell label).cancel }) := by
    intro owns
    rw [holder_put rfl]
    exact ⟨calm (ownsRun_put.symm.trans owns), congrArg TaskCell.isCancelled cell_put⟩
  refine fares_act firmNoted asked fun seen noted => ⟨aims_put (fun _ => rfl) .inl, ?_⟩
  show ((seat label).work (if seen.ownsRun label = true then _ else _)).Fares _ _ _ _
    (seen.put label (seen.task label))
  rw [put_task]
  split
  · next owns =>
    -- the task called has gone on waiting at most, so it still has the engine when that is asked to stop
    refine fares_act firmMeant ⟨owns, noted⟩ fun seen meant => ?_
    obtain ⟨holds, asked⟩ := meant.2 meant.1
    exact ⟨aims_put (fun other => absurd holds other) fun _ => .inr ⟨holds, asked⟩, fun _ _ => trivial⟩
  · exact fun _ _ => trivial

end Bench

/-! ### The crowd -/

/-- A request to stop a task that is under way, or over. -/
structure Call (ι : Type) where
  label : ι
  /-- whether the task called is not in between when the request is made, and does no more than go on waiting
  until it is over -/
  isCalm : Bool
  work : Work (Bench ι) Unit

/-- Executions of tasks and requests to stop them, over one bench. -/
structure Crowd (ι : Type) [DecidableEq ι] where
  bench : Bench ι
  thread : (label : ι) → Option (Thread (Bench.stage label).outside TaskReport)
  calls : List (Call ι) := []

namespace Crowd

open Bench

/-- The crowd with something made of an execution. -/
def put (label : ι) (thread : Option (Thread (Bench.stage label).outside TaskReport)) (bench : Bench ι)
    (crowd : Crowd ι) : Crowd ι :=
  { crowd with bench, thread := Function.update crowd.thread label thread }

/-- Whether a task may do more than go on waiting, for all the calm requests to stop it. -/
def IsFree (label : ι) (crowd : Crowd ι) : Prop :=
  ∀ call ∈ crowd.calls, call.isCalm = true → call.label = label → call.work.IsOver

/-- Whether a task is not in between: if a run is to be its own it waits for an answer. -/
def IsQuiet (label : ι) (crowd : Crowd ι) : Prop :=
  crowd.bench.ownsRun label = true → ∀ thread, crowd.thread label = some thread → thread.IsWaiting

/-- What may happen next. Executions begin, go on and end, requests to stop are taken back between them, and
are made and go on at any time. -/
inductive Move : Crowd ι → Crowd ι → Prop
  | begins {crowd : Crowd ι} (label : ι) (errand : Errand) (settings : ProbingSettings) (size : UInt32)
      (around : Circumstances) (idle : crowd.thread label = none) (free : crowd.IsFree label) :
      Move crowd (crowd.put label (some (.awake ((seat label).work (errand.work settings size)) {}))
        (crowd.bench.setOut label around))
  | goesOn {crowd : Crowd ι} (label : ι) {thread next : Thread (Bench.stage label).outside TaskReport}
      {later : Bench ι} (known : crowd.thread label = some thread)
      (free : crowd.IsFree label ∨ (thread.IsWaiting ∧ next.IsWaiting))
      (step : Thread.Step (Bench.stage label).outside thread crowd.bench next later) :
      Move crowd (crowd.put label (some next) later)
  | ends {crowd : Crowd ι} (label : ι) {report : TaskReport} {watch : Watch (Bench ι)}
      (known : crowd.thread label = some (.awake (.done report) ⟨[], watch⟩)) (free : crowd.IsFree label) :
      Move crowd (crowd.put label none crowd.bench)
  | rearms {crowd : Crowd ι} (label : ι) (idle : crowd.thread label = none) :
      Move crowd (crowd.put label none (crowd.bench.rearm label))
  | asks {crowd : Crowd ι} (label : ι) (isCalm : Bool) (calm : isCalm = true → crowd.IsQuiet label) :
      Move crowd { crowd with calls := crowd.calls ++ [⟨label, isCalm, request label⟩] }
  | passesOn {crowd : Crowd ι} {label : ι} {isCalm : Bool} (before : List (Call ι)) {after : List (Call ι)}
      {change : Bench ι → Bench ι} {next : Bench ι → Work (Bench ι) Unit}
      (known : crowd.calls = before ++ ⟨label, isCalm, .act change next⟩ :: after) :
      Move crowd { crowd with
        bench := change crowd.bench, calls := before ++ ⟨label, isCalm, next crowd.bench⟩ :: after }

/-- What may have become of a crowd after some time. -/
abbrev Reaches : Crowd ι → Crowd ι → Prop := Relation.ReflTransGen Move

/-- Tasks none of which has an execution or was asked to stop, beside an engine that nobody has. -/
def start (cell : ι → TaskCell) (engine : EngineCell) (around : ι → Circumstances) : Crowd ι where
  bench := {
    cell label := (cell label).rearm
    ownsRun _ := false
    engine := engine.free
    around
    holder := none
    isMisled _ := false }
  thread _ := none

/-! ### Where everyone stands -/

/-- Whether a task is on the course of its execution, or has none. -/
def IsWell (label : ι) : Option (Thread (Bench.stage label).outside TaskReport) → Bench ι → Prop
  | some thread, bench =>
    thread.OnCourse (manner label) (fun report last later => last.held = [] ∧ Told label report later) bench
  | none, bench => Stands label (bench.around label) false False bench

/-- Whether everyone is where he should be. -/
structure Orderly (crowd : Crowd ι) : Prop where
  sound : crowd.bench.Sound
  well : ∀ label, IsWell label (crowd.thread label) crowd.bench
  within : ∀ call ∈ crowd.calls, call.work.Within (fun _ _ _ _ => False) (Asks call.label) fun _ => True
  calm : ∀ call ∈ crowd.calls, call.isCalm = true → call.work.IsOver ∨
    call.work.Fares (stage call.label).outside (calmly call.label) (fun _ _ _ => True) {} crowd.bench
  asked : ∀ label, (crowd.bench.cell label).isCancelled = true → ∃ call ∈ crowd.calls, call.label = label
  misled : ∀ label, crowd.bench.isMisled label = true → ∃ call ∈ crowd.calls, call.isCalm = false

section
variable {crowd next : Crowd ι} {label : ι} {bench later : Bench ι}

theorem IsWell.relies {thread : Option (Thread (Bench.stage label).outside TaskReport)}
    (well : IsWell label thread bench) (relies : Relies label bench later) : IsWell label thread later := by
  cases thread with
  | none =>
    show Stands label (later.around label) false False later
    rw [relies.around]
    exact Stands.relies well relies
  | some thread => exact Thread.OnCourse.others well relies

/-- A task does what tasks do, and stays on its course. -/
theorem IsWell.step {thread next : Thread (Bench.stage label).outside TaskReport}
    (well : IsWell label (some thread) bench)
    (step : Thread.Step (Bench.stage label).outside thread bench next later) :
    Keeps label bench later ∧ IsWell label (some next) later := by
  obtain ⟨same | keeps | abides, onCourse⟩ := Thread.OnCourse.step well (fun _ _ _ done => done.1) step
  · rw [same] at onCourse ⊢
    exact ⟨.refl _ _, onCourse⟩
  · exact ⟨keeps, onCourse⟩
  · exact ⟨abides.toKeeps, onCourse⟩

theorem Orderly.stands_of_idle (orderly : Orderly crowd) (idle : crowd.thread label = none) :
    Stands label (crowd.bench.around label) false False crowd.bench := by
  have well := orderly.well label
  rw [idle] at well
  exact well

/-- A task that is not in between does not have a run to be its own without the engine. -/
theorem Orderly.holds_of_isQuiet (orderly : Orderly crowd) (quiet : crowd.IsQuiet label)
    (owns : crowd.bench.ownsRun label = true) : crowd.bench.holder = some label := by
  cases known : crowd.thread label with
  | none => exact absurd ((orderly.stands_of_idle known).owns.symm.trans owns) Bool.noConfusion
  | some thread =>
    have well := orderly.well label
    rw [known] at well
    exact Thread.OnCourse.rest well (quiet owns thread known) owns

/-- What becomes of a crowd when a task makes a move. -/
theorem Orderly.moves (orderly : Orderly crowd)
    {thread : Option (Thread (Bench.stage label).outside TaskReport)} (well : IsWell label thread later)
    (sound : later.Sound) (relies : ∀ other, other ≠ label → Relies other crowd.bench later)
    (calm : crowd.IsFree label ∨ Spares label crowd.bench later)
    (asked : (later.cell label).isCancelled = true → (crowd.bench.cell label).isCancelled = true)
    (cell : ∀ other, other ≠ label → later.cell other = crowd.bench.cell other)
    (misled : ∀ other, later.isMisled other = true → crowd.bench.isMisled other = true) :
    Orderly (crowd.put label thread later) where
  sound := sound
  well other := by
    show IsWell other (Function.update crowd.thread label thread other) later
    by_cases same : other = label
    · subst same
      rw [Function.update_self]
      exact well
    · rw [Function.update_of_ne same]
      exact (orderly.well other).relies (relies other same)
  within := orderly.within
  calm call known isCalm := by
    rcases orderly.calm call known isCalm with ended | fares
    · exact .inl ended
    by_cases same : call.label = label
    -- a move of the task called leaves a calm request in peace only if it touches nothing the request relies on
    · rcases calm with free | spares
      · exact .inl (free call known isCalm same)
      · rw [← same] at spares
        exact .inr (fares.later (.single spares))
    · exact .inr (fares.later (.single (relies call.label same).spares))
  asked other := by
    show (later.cell other).isCancelled = true → _
    by_cases same : other = label
    · subst same
      exact fun before => orderly.asked other (asked before)
    · rw [cell other same]
      exact orderly.asked other
  misled other before := orderly.misled other (misled other before)

/-- What becomes of a crowd when a task does what tasks do. -/
theorem Orderly.keeps (orderly : Orderly crowd) (free : crowd.IsFree label ∨ Spares label crowd.bench later)
    {thread : Option (Thread (Bench.stage label).outside TaskReport)} (well : IsWell label thread later)
    (keeps : Keeps label crowd.bench later) : Orderly (crowd.put label thread later) :=
  orderly.moves well (keeps.sound orderly.sound) (fun _ differ => keeps.relies differ) free
    (fun asked => keeps.asked ▸ asked) keeps.cell fun _ misled => keeps.misled ▸ misled

/-- What becomes of a crowd when a request goes on. -/
theorem Orderly.passesOn (orderly : Orderly crowd) {isCalm : Bool} {before after : List (Call ι)}
    {change : Bench ι → Bench ι} {next : Bench ι → Work (Bench ι) Unit}
    (known : crowd.calls = before ++ ⟨label, isCalm, .act change next⟩ :: after) :
    Asks label crowd.bench (change crowd.bench) ∧ (isCalm = true → Aims label crowd.bench (change crowd.bench)) ∧
      Orderly { crowd with
        bench := change crowd.bench, calls := before ++ ⟨label, isCalm, next crowd.bench⟩ :: after } := by
  have among : (⟨label, isCalm, .act change next⟩ : Call ι) ∈ crowd.calls := by
    rw [known]
    exact List.mem_append_right _ List.mem_cons_self
  have within := orderly.within _ among
  have asks : Asks label crowd.bench (change crowd.bench) := within.1 crowd.bench
  have aims (calm : isCalm = true) : Aims label crowd.bench (change crowd.bench) ∧
      (next crowd.bench).Fares (stage label).outside (calmly label) (fun _ _ _ => True) {} (change crowd.bench) :=
    ((orderly.calm _ among calm).resolve_left id) crowd.bench .refl
  -- the other requests are those that there were
  have others {call : Call ι} (there : call ∈ before ++ ⟨label, isCalm, next crowd.bench⟩ :: after) :
      call = ⟨label, isCalm, next crowd.bench⟩ ∨ call ∈ crowd.calls := by
    rw [known]
    simp only [List.mem_append, List.mem_cons] at there ⊢
    tauto
  have stays {call : Call ι} (there : call ∈ crowd.calls) : ∃ work : Work (Bench ι) Unit,
      ⟨call.label, call.isCalm, work⟩ ∈ before ++ ⟨label, isCalm, next crowd.bench⟩ :: after := by
    rw [known] at there
    rcases List.mem_append.mp there with there | there
    · exact ⟨call.work, List.mem_append_left _ there⟩
    · rcases List.mem_cons.mp there with rfl | there
      · exact ⟨next crowd.bench, List.mem_append_right _ List.mem_cons_self⟩
      · exact ⟨call.work, List.mem_append_right _ (List.mem_cons_of_mem _ there)⟩
  refine ⟨asks, fun calm => (aims calm).1, ?_⟩
  exact {
    sound := asks.sound orderly.sound
    well other := (orderly.well other).relies (asks.relies other)
    within call there := by
      rcases others there with rfl | there
      · exact within.2 crowd.bench
      · exact orderly.within call there
    calm call there calm := by
      rcases others there with rfl | there
      · exact .inr (aims calm).2
      · refine (orderly.calm call there calm).imp_right fun fares => ?_
        exact fares.later (.single (asks.relies call.label).spares)
    asked other asked := by
      have called : ∃ call ∈ crowd.calls, call.label = other := by
        by_cases same : other = label
        · exact ⟨_, among, same.symm⟩
        · rw [asks.cell other same] at asked
          exact orderly.asked other asked
      obtain ⟨call, there, meant⟩ := called
      obtain ⟨work, there⟩ := stays there
      exact ⟨_, there, meant⟩
    misled other misled := by
      have wild : ∃ call ∈ crowd.calls, call.isCalm = false := by
        cases isCalm with
        | false => exact ⟨_, among, rfl⟩
        | true => exact orderly.misled other ((aims rfl).1.misled ▸ misled)
      obtain ⟨call, there, wild⟩ := wild
      obtain ⟨work, there⟩ := stays there
      exact ⟨_, there, wild⟩ }

/-- **Everyone stays where he should be**, whatever happens next. -/
theorem Orderly.move (orderly : Orderly crowd) (move : Move crowd next) : Orderly next := by
  cases move with
  | begins label errand settings size around idle free =>
    obtain ⟨sound, -, owns, holds⟩ := orderly.stands_of_idle idle
    have stands : Stands label around false False (crowd.bench.setOut label around) :=
      ⟨sound, Function.update_self .., owns, holds⟩
    have misled (other : ι) (differ : other ≠ label) :
        (crowd.bench.setOut label around).isMisled other = crowd.bench.isMisled other :=
      Function.update_of_ne differ _ _
    refine orderly.moves (fares_task errand settings size stands) sound (fun other differ => ?_) (.inl free) id
      (fun _ _ => rfl) fun other misled' => ?_
    · exact ⟨id, rfl, Function.update_of_ne differ _ _, id, (misled other differ).trans, Iff.rfl, fun _ => .inl⟩
    · by_cases same : other = label
      · subst same
        cases (Function.update_self ..).symm.trans misled'
      · exact (misled other same).symm.trans misled'
  | @goesOn label thread next later known free step =>
    have well := orderly.well label
    rw [known] at well
    obtain ⟨keeps, onCourse⟩ := well.step step
    refine orderly.keeps (free.imp_right fun ⟨waits, still⟩ => ?_) onCourse keeps
    obtain rfl | abides := Thread.OnCourse.waiting well waits still step
    · exact (Abides.refl _ _).spares
    · exact abides.spares
  | @ends label report watch known free =>
    have well := orderly.well label
    rw [known] at well
    have told : _ ∧ Told label report crowd.bench := well crowd.bench .refl
    exact orderly.keeps (.inl free) told.2.stands (.refl _ _)
  | rearms label idle =>
    have stands := orderly.stands_of_idle idle
    have cell (other : ι) (differ : other ≠ label) : (crowd.bench.rearm label).cell other = crowd.bench.cell other :=
      Function.update_of_ne differ _ _
    have rearmed : (crowd.bench.rearm label).cell label = (crowd.bench.cell label).rearm := Function.update_self ..
    refine orderly.moves ⟨stands.sound, stands.around, stands.owns, stands.holds⟩ stands.sound (fun other differ => ?_)
      (.inr ⟨rfl, Iff.rfl, fun owns => ?_⟩) (fun asked => ?_) cell fun _ => id
    · exact ⟨id, rfl, rfl, by rw [cell other differ]; exact id, id, Iff.rfl, fun _ => .inl⟩
    · exact absurd (stands.owns.symm.trans owns) Bool.noConfusion
    · rw [rearmed] at asked
      cases asked
  | asks label isCalm calm =>
    have stay {holds : Call ι → Prop} (there : ∃ call ∈ crowd.calls, holds call) :
        ∃ call ∈ crowd.calls ++ [⟨label, isCalm, request label⟩], holds call :=
      there.imp fun call there => ⟨List.mem_append_left _ there.1, there.2⟩
    exact {
      sound := orderly.sound
      well := orderly.well
      within call there := by
        rcases List.mem_append.mp there with there | there
        · exact orderly.within call there
        · cases List.mem_singleton.mp there
          exact within_request label
      calm call there isCalm := by
        rcases List.mem_append.mp there with there | there
        · exact orderly.calm call there isCalm
        · cases List.mem_singleton.mp there
          exact .inr (fares_request _ (orderly.holds_of_isQuiet (calm isCalm)))
      asked other asked := stay (orderly.asked other asked)
      misled other misled := stay (orderly.misled other misled) }
  | passesOn before known => exact (orderly.passesOn known).2.2

theorem Orderly.reaches (orderly : Orderly crowd) (reached : Reaches crowd next) : Orderly next := by
  induction reached with
  | refl => exact orderly
  | tail _ move ih => exact ih.move move

theorem orderly_start (cell : ι → TaskCell) (engine : EngineCell) (around : ι → Circumstances) :
    Orderly (start cell engine around) where
  sound := rfl
  well _ := ⟨rfl, rfl, rfl, iff_of_false nofun id⟩
  within _ known := nomatch known
  calm _ known := nomatch known
  asked _ asked := nomatch asked
  misled _ misled := nomatch misled

end

/-- Whether tasks that set out together are kept apart, whatever happens. -/
structure KeptApart (first : Crowd ι) : Prop where
  /-- whoever is reported as stopped was asked to stop and had that not taken back, or was misled meanwhile -/
  stopped : ∀ crowd, Reaches first crowd → ∀ label report beside,
    crowd.thread label = some (.awake (.done report) beside) → report.isCancelled = true →
      (crowd.bench.cell label).isCancelled = true ∨ crowd.bench.isMisled label = true
  asked : ∀ crowd, Reaches first crowd → ∀ label, (crowd.bench.cell label).isCancelled = true →
    ∃ call ∈ crowd.calls, call.label = label
  /-- tasks are misled only where some requests are not calm -/
  misled : ∀ crowd, Reaches first crowd → ∀ label, crowd.bench.isMisled label = true →
    ∃ call ∈ crowd.calls, call.isCalm = false
  /-- a calm request goes on without misleading anybody, and reaches the engine only for the task called -/
  calm : ∀ crowd, Reaches first crowd → ∀ before label change next after,
    crowd.calls = before ++ ⟨label, true, .act change next⟩ :: after → Aims label crowd.bench (change crowd.bench)
  /-- an execution leaves the engine alone while another task has it -/
  apart : ∀ crowd, Reaches first crowd → ∀ label thread next later, crowd.thread label = some thread →
    Thread.Step (stage label).outside thread crowd.bench next later →
      ∀ other, other ≠ label → crowd.bench.holder = some other → later.engine = crowd.bench.engine

/-- **One task cannot stop the run of another one**: that takes a request that is not calm. -/
theorem keepsApart (cell : ι → TaskCell) (engine : EngineCell) (around : ι → Circumstances) :
    KeptApart (start cell engine around) where
  stopped crowd reached label report beside known stopped := by
    have well := ((orderly_start ..).reaches reached).well label
    rw [known] at well
    exact (well crowd.bench .refl).2.stopped stopped
  asked _ reached := ((orderly_start ..).reaches reached).asked
  misled _ reached := ((orderly_start ..).reaches reached).misled
  calm _ reached _ _ _ _ _ known := (((orderly_start ..).reaches reached).passesOn known).2.1 rfl
  apart crowd reached label thread next later known step other differ holds := by
    have well := ((orderly_start ..).reaches reached).well label
    rw [known] at well
    exact (well.step step).1.engine other differ holds

/-! ### A request from before -/

/-- An execution may go on by itself. -/
theorem reaches_goesOn {crowd : Crowd ι} {label : ι} {thread last : Thread (Bench.stage label).outside TaskReport}
    {later : Bench ι} (known : crowd.thread label = some thread) (free : crowd.IsFree label)
    (reached : Thread.Reaches (Bench.stage label).outside (fun _ _ => False) (thread, crowd.bench) (last, later)) :
    Reaches crowd (crowd.put label (some last) later) := by
  generalize same : (last, later) = reached at reached
  induction reached generalizing last later with
  | refl =>
    cases same
    have idle : crowd.put label (some thread) crowd.bench = crowd := by
      unfold put
      rw [← known, Function.update_eq_self]
    rw [idle]
  | tail _ move ih =>
    cases same
    cases move with
    | @own mid _ state _ step =>
      refine (ih rfl).tail ?_
      have moved : Move (crowd.put label (some mid) state) _ :=
        .goesOn label (Function.update_self ..) (.inl free) step
      unfold put at moved ⊢
      rwa [Function.update_idem] at moved
    | others changed => exact changed.elim

/-- Where nobody has done anything yet. -/
def atRest : Crowd Bool := start (fun _ => {}) {} fun _ => oneStream

/-- What a task does that probes all streams. -/
def probing (label : Bool) : Work (Bench Bool) TaskReport := (seat label).work (Errand.work {} 50 (.all ⟨false⟩))

theorem isFree_of_isOver {crowd : Crowd ι} {label : ι} (ended : ∀ call ∈ crowd.calls, call.work.IsOver) :
    crowd.IsFree label := fun call known _ _ => ended call known

/-- Where a task was asked to stop that has no execution. -/
def asked : Crowd Bool where
  bench := atRest.bench.put true { atRest.bench.task true with cell := (atRest.bench.cell true).cancel }
  thread _ := none
  calls := [⟨true, true, .done ⟨⟩⟩]

theorem reaches_asked : Reaches atRest asked := by
  refine .head (.asks true true nofun) (.head (.passesOn [] rfl) (.head (.passesOn [] rfl) ?_))
  have looked : asked = { asked with bench := asked.bench.put true (asked.bench.task true) } := by rw [put_task]
  rw [looked]
  exact .refl

/-- Where it has one. -/
def begun : Crowd Bool :=
  asked.put true (some (.awake (probing true) {})) (asked.bench.setOut true oneStream)

theorem isOver_begun : ∀ call ∈ begun.calls, call.work.IsOver := List.forall_mem_singleton.mpr trivial

theorem reaches_begun : Reaches atRest begun :=
  reaches_asked.tail (.begins true (.all ⟨false⟩) {} 50 oneStream rfl (isFree_of_isOver isOver_begun))

/-- A task that was asked to stop before its execution began may be reported as stopped, although nobody has
asked it to since. -/
theorem exists_stopped : ∃ report beside later,
    Reaches begun (begun.put true (some (.awake (.done report) beside)) later) ∧ report.isCancelled = true := by
  have known : begun.thread true = some (.awake (probing true) {}) := rfl
  refine ⟨?_, ?_, ?_, reaches_goesOn known (isFree_of_isOver isOver_begun) ?_, ?_⟩
  rotate_left 3
  · refine .head (.own .act) (.head (.own .act) (.head (.own .hold) (.head (.own .watch) ?_)))
    refine .head (.own .act) (.head (.own .hold) (.head (.own .act) ?_))
    refine .head (.own .asks) (.head (.own (.answered nofun (Stage.answers_now _ _))) ?_)
    refine .head (.own .act) (.head (.own .act) ?_)
    refine .head (.own .asks) (.head (.own .fallsAsleep) (.head (.own (.watched rfl)) ?_))
    refine .head (.own (.answered (fun _ => rfl) (.plain ⟨rfl, rfl⟩))) ?_
    refine .head (.own .act) (.head (.own .asks) ?_)
    refine .head (.own (.goesOn nofun (.crew (.begins (by decide))))) ?_
    refine .head (.own (.goesOn nofun (.crew (.goesOn [] .act)))) ?_
    refine .head (.own (.goesOn nofun (.crew (.ends [])))) ?_
    refine .head (.own (.answered nofun (.crew ⟨rfl, rfl⟩))) ?_
    refine .head (.own .act) (.head (.own .asks) (.head (.own (.answered nofun (Stage.answers_now _ _))) ?_))
    refine .head (.own .act) (.head (.own .act) (.head (.own .letGo) (.head (.own .unwatch) ?_)))
    refine .head (.own .act) (.head (.own .letGo) ?_)
    exact .refl
  · refine (report_tells _).1.trans ?_
    rw [RunSummary.ofOutcomes_eq]
    rfl

/-- A request to stop a task that has made its run its own without the engine reaches the run of another
task. -/
theorem exists_misled : ∃ crowd, Reaches atRest crowd ∧ ∃ change next,
    crowd.calls = [] ++ ⟨false, false, .act change next⟩ :: [] ∧ crowd.bench.holder = some true ∧
      (change crowd.bench).engine.isCancelled ≠ crowd.bench.engine.isCancelled := by
  have free (label : Bool) {bench : Bench Bool} {thread : (label : Bool) → _} : IsFree label ⟨bench, thread, []⟩ :=
    isFree_of_isOver (List.forall_mem_nil _)
  refine ⟨?_, ?_, ?_, ?_, ?_, ?_, ?_⟩
  rotate_left 1
  · refine .head (.begins true (.all ⟨false⟩) {} 50 oneStream rfl (free true)) ?_
    refine .head (.goesOn true rfl (.inl (free true)) .act) (.head (.goesOn true rfl (.inl (free true)) .act) ?_)
    refine .head (.goesOn true rfl (.inl (free true)) .hold) (.head (.goesOn true rfl (.inl (free true)) .watch) ?_)
    refine .head (.goesOn true rfl (.inl (free true)) .act) ?_
    -- the one has the engine, and now the other one makes a run its own that it will not get
    refine .head (.begins false (.all ⟨false⟩) {} 50 oneStream rfl (free false)) ?_
    refine .head (.goesOn false rfl (.inl (free false)) .act) (.head (.goesOn false rfl (.inl (free false)) .act) ?_)
    refine .head (.asks false false nofun) (.head (.passesOn [] rfl) (.head (.passesOn [] rfl) ?_))
    exact .refl
  rotate_left 2
  · rfl
  · rfl
  · exact Bool.noConfusion

/-- **An execution may be stopped that nobody has asked to stop since it began**, and a request that is not
calm may reach the run of another task. -/
theorem not_forall_askedMeanwhile :
    (¬ ∀ (first last : Crowd Bool) (label : Bool) (errand : Errand) (settings : ProbingSettings) (size : UInt32)
      (report : TaskReport) (beside : Beside (Bench Bool)), Reaches atRest first →
        (∀ call ∈ first.calls, call.work.IsOver) →
        first.thread label = some (.awake ((seat label).work (errand.work settings size)) {}) →
        Reaches first last → last.calls = first.calls → last.thread label = some (.awake (.done report) beside) →
          report.isCancelled = false) ∧
    ¬ ∀ (crowd : Crowd Bool) (before : List (Call Bool)) (label : Bool) (isCalm : Bool)
      (change : Bench Bool → Bench Bool) (next : Bench Bool → Work (Bench Bool) Unit) (after : List (Call Bool))
      (other : Bool), Reaches atRest crowd → crowd.calls = before ++ ⟨label, isCalm, .act change next⟩ :: after →
        other ≠ label → crowd.bench.holder = some other →
          (change crowd.bench).engine.isCancelled = crowd.bench.engine.isCancelled := by
  refine ⟨fun all => ?_, fun all => ?_⟩
  · obtain ⟨report, beside, later, reached, stopped⟩ := exists_stopped
    have going := all begun _ true (.all ⟨false⟩) {} 50 report beside reaches_begun isOver_begun rfl reached rfl rfl
    rw [stopped] at going
    cases going
  · obtain ⟨crowd, reached, change, next, known, holds, misled⟩ := exists_misled
    exact misled (all crowd [] false false change next [] true reached known nofun holds)

end Crowd
end StreamWatch.ProbeTask
