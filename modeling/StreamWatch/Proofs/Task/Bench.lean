/-
**Tasks that share one engine.**

Every task has a cell of its own, and all of them reach the one engine. It is noted who has taken the
engine, and who was misled: whose run was reached by a request to stop that was not meant for it, but for
another task, or had been taken back before.

* `Bench`, `put`: tasks beside their engine, and what becomes of them when one of them writes;
* `Relies`, `Keeps`, `Asks`: what a task relies on, what it does, and what a request to stop it does;
* `Stands`, `Heard`: where a task stands before, during and after its run;
* `fares_task`: who is reported as stopped was asked to stop, or misled.
-/

import Mathlib.Logic.Function.Basic
import StreamWatch.Proofs.Task.Errand

namespace StreamWatch.ProbeTask

open Engine Program

/-- Tasks beside the one engine there is. -/
structure Bench (ι : Type) where
  cell : ι → TaskCell
  ownsRun : ι → Bool
  engine : EngineCell
  /-- what there is around the execution of a task -/
  around : ι → Circumstances
  /-- who has taken the engine -/
  holder : Option ι
  /-- whether a request to stop reached the run of a task that was not meant for it -/
  isMisled : ι → Bool

namespace Bench

variable {ι : Type} {label other : ι} {bench later : Bench ι}

/-- Whether it is noted who has the engine whenever somebody has. -/
def Sound (bench : Bench ι) : Prop := bench.holder.isSome = bench.engine.isProbing

/-- Whether a task was asked to stop, or misled. -/
def Asked (label : ι) (bench : Bench ι) : Prop :=
  (bench.cell label).isCancelled = true ∨ bench.isMisled label = true

/-! ### What tasks do to each other -/

/-- What a task relies on. -/
structure Relies (label : ι) (bench later : Bench ι) : Prop where
  sound : bench.Sound → later.Sound
  owns : later.ownsRun label = bench.ownsRun label
  around : later.around label = bench.around label
  cell : (bench.cell label).isCancelled = true → (later.cell label).isCancelled = true
  misled : bench.isMisled label = true → later.isMisled label = true
  holds : later.holder = some label ↔ bench.holder = some label
  stopped : bench.holder = some label → later.engine.isCancelled = true →
    bench.engine.isCancelled = true ∨ later.Asked label

/-- What a task does: it leaves what is of others alone, the engine included when one of them has it, misleads
nobody, and neither asks itself to stop nor takes that back. -/
structure Keeps (label : ι) (bench later : Bench ι) : Prop where
  sound : bench.Sound → later.Sound
  around : later.around = bench.around
  asked : (later.cell label).isCancelled = (bench.cell label).isCancelled
  misled : later.isMisled = bench.isMisled
  cell : ∀ other, other ≠ label → later.cell other = bench.cell other
  owns : ∀ other, other ≠ label → later.ownsRun other = bench.ownsRun other
  holder : ∀ other, other ≠ label → (later.holder = some other ↔ bench.holder = some other)
  engine : ∀ other, other ≠ label → bench.holder = some other → later.engine = bench.engine

/-- What is done for a task while it waits: whether a run is to be its own, and whether it has the engine,
stays as it is. -/
structure Abides (label : ι) (bench later : Bench ι) : Prop extends Keeps label bench later where
  owned : later.ownsRun label = bench.ownsRun label
  holds : later.holder = some label ↔ bench.holder = some label

/-- What a request to stop a task does. -/
structure Asks (label : ι) (bench later : Bench ι) : Prop where
  sound : bench.Sound → later.Sound
  around : later.around = bench.around
  owns : later.ownsRun = bench.ownsRun
  holder : later.holder = bench.holder
  asked : (bench.cell label).isCancelled = true → (later.cell label).isCancelled = true
  cell : ∀ other, other ≠ label → later.cell other = bench.cell other
  misled : ∀ other, bench.isMisled other = true → later.isMisled other = true
  stopped : ∀ other, bench.holder = some other → later.engine.isCancelled = true →
    bench.engine.isCancelled = true ∨ later.isMisled other = true ∨
      (other = label ∧ (later.cell label).isCancelled = true)

theorem Relies.asked (relies : Relies label bench later) (asked : bench.Asked label) : later.Asked label :=
  asked.imp relies.cell relies.misled

theorem Keeps.refl (label : ι) (bench : Bench ι) : Keeps label bench bench :=
  ⟨id, rfl, rfl, rfl, fun _ _ => rfl, fun _ _ => rfl, fun _ _ => Iff.rfl, fun _ _ _ => rfl⟩

theorem Abides.refl (label : ι) (bench : Bench ι) : Abides label bench bench := ⟨.refl label bench, rfl, Iff.rfl⟩

theorem Keeps.asked_iff (keeps : Keeps label bench later) : later.Asked label ↔ bench.Asked label := by
  unfold Asked
  rw [keeps.asked, keeps.misled]

/-- **What one task does is as any other one relies on.** -/
theorem Keeps.relies (keeps : Keeps label bench later) (differ : other ≠ label) : Relies other bench later where
  sound := keeps.sound
  owns := keeps.owns other differ
  around := by rw [keeps.around]
  cell := by rw [keeps.cell other differ]; exact id
  misled := by rw [keeps.misled]; exact id
  holds := keeps.holder other differ
  stopped holds stopped := by
    rw [keeps.engine other differ holds] at stopped
    exact .inl stopped

/-- No task is any less asked to stop than it was. -/
theorem Asks.asked_of (asks : Asks label bench later) (asked : (bench.cell other).isCancelled = true) :
    (later.cell other).isCancelled = true := by
  by_cases same : other = label
  · rw [same] at asked ⊢
    exact asks.asked asked
  · rw [asks.cell other same]
    exact asked

/-- **What a request to stop does is as every task relies on**, the one that is asked included. -/
theorem Asks.relies (asks : Asks label bench later) (other : ι) : Relies other bench later where
  sound := asks.sound
  owns := by rw [asks.owns]
  around := by rw [asks.around]
  cell asked := asks.asked_of asked
  misled := asks.misled other
  holds := by rw [asks.holder]
  stopped holds stopped := by
    rcases asks.stopped other holds stopped with before | misled | ⟨rfl, asked⟩
    · exact .inl before
    · exact .inr (.inr misled)
    · exact .inr (.inl asked)

/-! ### Where a task stands -/

variable {around : Circumstances}

/-- Where a task stands: whether a run is to be its own, and whether it has the engine. -/
structure Stands (label : ι) (around : Circumstances) (owns : Bool) (holds : Prop) (bench : Bench ι) : Prop where
  sound : bench.Sound
  around : bench.around label = around
  owns : bench.ownsRun label = owns
  holds : bench.holder = some label ↔ holds

theorem Stands.relies {owns : Bool} {holds : Prop} (stands : Stands label around owns holds bench)
    (relies : Relies label bench later) : Stands label around owns holds later :=
  ⟨relies.sound stands.sound, relies.around.trans stands.around, relies.owns.trans stands.owns,
    relies.holds.trans stands.holds⟩

/-- What a task does that stands after it where it stood before. -/
theorem Stands.abides {owns : Bool} {holds : Prop} (stands : Stands label around owns holds bench)
    (keeps : Keeps label bench later) (after : Stands label around owns holds later) : Abides label bench later :=
  ⟨keeps, after.owns.trans stands.owns.symm, after.holds.trans stands.holds.symm⟩

/-- The manner in which a task runs. While it waits for an answer a run is its own only if it has the
engine. -/
def manner (label : ι) : Manner (Bench ι) where
  rely := Relies label
  allowed := Keeps label
  waiting := Abides label
  rest bench := bench.ownsRun label = true → bench.holder = some label

/-- What a run came to that does not have the engine any more. -/
structure Given (label : ι) (around : Circumstances) (reply : Except EngineError RunSummary) (bench : Bench ι) :
    Prop where
  stands : Stands label around true False bench
  stopped : ∀ summary, reply = .ok summary → summary.isCancelled = true → bench.Asked label

/-- **What a task reports**: that it was stopped only if it was asked to stop, or misled. -/
structure Told (label : ι) (report : TaskReport) (bench : Bench ι) : Prop where
  stands : Stands label (bench.around label) false False bench
  stopped : report.isCancelled = true → bench.Asked label

theorem Told.relies {report : TaskReport} (told : Told label report bench) (relies : Relies label bench later) :
    Told label report later where
  stands := by
    rw [relies.around]
    exact told.stands.relies relies
  stopped stopped := relies.asked (told.stopped stopped)

/-! ### What tasks write -/

variable [DecidableEq ι]

/-- A task beside the engine. -/
def task (label : ι) (bench : Bench ι) : ProbeTask := ⟨bench.cell label, bench.ownsRun label, bench.engine⟩

/-- Whether what a task writes has a request to stop reach whatever run there is, but not its own while it is
asked to stop. -/
def misleads (label : ι) (task : ProbeTask) (bench : Bench ι) : Bool :=
  task.engine.isCancelled && !bench.engine.isCancelled &&
    !(decide (bench.holder = some label) && task.cell.isCancelled)

/-- The bench after a task has written what is its own and the engine. -/
def put (label : ι) (task : ProbeTask) (bench : Bench ι) : Bench ι where
  cell := Function.update bench.cell label task.cell
  ownsRun := Function.update bench.ownsRun label task.ownsRun
  engine := task.engine
  around := bench.around
  holder :=
    if task.engine.isProbing = bench.engine.isProbing then bench.holder
    else if task.engine.isProbing then some label else none
  isMisled other := bench.isMisled other || (bench.misleads label task && decide (bench.holder = some other))

/-- How a task is reached on it. -/
def seat (label : ι) : Seat (Bench ι) := ⟨task label, put label⟩

/-- The bench after a write of a task to the engine. -/
def putEngine (label : ι) (engine : EngineCell) (bench : Bench ι) : Bench ι :=
  bench.put label { bench.task label with engine }

/-- What the runs of a task stand on. The store may answer whatever it likes. -/
def stage (label : ι) : Stage (Bench ι) where
  around bench := bench.around label
  engine := engine
  put := putEngine label
  putAbout _ := putEngine label
  store _ bench _ after := after = bench
  exists_stored _ bench := ⟨.error .database, bench, rfl⟩

section
variable {task : ProbeTask}

/-- A request to stop that is passed on misleads nobody if the task has the engine. -/
theorem misleads_eq_false_iff : bench.misleads label task = false ↔
    (task.engine.isCancelled = true → bench.engine.isCancelled = true ∨
      (bench.holder = some label ∧ task.cell.isCancelled = true)) := by
  unfold misleads
  cases task.engine.isCancelled <;> cases bench.engine.isCancelled <;> simp

theorem isMisled_put (leads : task.engine.isCancelled = true → bench.engine.isCancelled = true ∨
    (bench.holder = some label ∧ task.cell.isCancelled = true)) :
    (bench.put label task).isMisled = bench.isMisled := by
  funext other
  show (bench.isMisled other || (bench.misleads label task && _)) = _
  rw [misleads_eq_false_iff.mpr leads, Bool.false_and, Bool.or_false]

theorem cell_put : (bench.put label task).cell label = task.cell := Function.update_self ..

theorem ownsRun_put : (bench.put label task).ownsRun label = task.ownsRun := Function.update_self ..

theorem holder_put (same : task.engine.isProbing = bench.engine.isProbing) :
    (bench.put label task).holder = bench.holder := if_pos same

/-- Nothing has happened when a task writes what is there. -/
theorem put_task : bench.put label (bench.task label) = bench := by
  have cell : Function.update bench.cell label (bench.cell label) = bench.cell := Function.update_eq_self ..
  have owns : Function.update bench.ownsRun label (bench.ownsRun label) = bench.ownsRun := Function.update_eq_self ..
  show (⟨Function.update bench.cell label (bench.cell label),
    Function.update bench.ownsRun label (bench.ownsRun label), bench.engine, bench.around,
    (bench.put label (bench.task label)).holder, (bench.put label (bench.task label)).isMisled⟩ : Bench ι) = bench
  rw [cell, owns, holder_put rfl, isMisled_put .inl]

theorem sound_put (sound : bench.Sound) : (bench.put label task).Sound := by
  show (if _ then _ else _ : Option ι).isSome = task.engine.isProbing
  split
  · next same => exact sound.trans same.symm
  · cases task.engine.isProbing <;> rfl

/-- What a task writes that leaves the engine alone, or while no other one has it. -/
theorem keeps_put (asked : task.cell.isCancelled = (bench.cell label).isCancelled)
    (leads : task.engine.isCancelled = true → bench.engine.isCancelled = true ∨
      (bench.holder = some label ∧ task.cell.isCancelled = true))
    (apart : task.engine = bench.engine ∨ ∀ other, other ≠ label → bench.holder ≠ some other) :
    Keeps label bench (bench.put label task) where
  sound := sound_put
  around := rfl
  asked := by rw [← asked, cell_put]
  misled := isMisled_put leads
  cell other differ := Function.update_of_ne differ _ _
  owns other differ := Function.update_of_ne differ _ _
  holder other differ := by
    rcases apart with same | nobody
    · rw [holder_put (by rw [same])]
    · refine iff_of_false (fun holds => ?_) (nobody other differ)
      have holds : (if task.engine.isProbing = bench.engine.isProbing then bench.holder
        else if task.engine.isProbing then some label else none) = some other := holds
      split at holds
      · exact nobody other differ holds
      · split at holds
        · exact differ (Option.some.inj holds).symm
        · cases holds
  engine other differ holds := by
    rcases apart with same | nobody
    · exact same
    · exact absurd holds (nobody other differ)

end

section
variable {owns own : Bool} {holds hold : Prop} {task : ProbeTask}

theorem Stands.put (stands : Stands label around owns holds bench) (mine : task.ownsRun = own)
    (holder : (bench.put label task).holder = some label ↔ hold) :
    Stands label around own hold (bench.put label task) :=
  ⟨sound_put stands.sound, stands.around, ownsRun_put.trans mine, holder⟩

/-- What a task writes that leaves the engine alone. -/
theorem Stands.putAside (stands : Stands label around owns holds bench) (engine : task.engine = bench.engine)
    (asked : task.cell.isCancelled = (bench.cell label).isCancelled) (mine : task.ownsRun = own) :
    Keeps label bench (bench.put label task) ∧ Stands label around own holds (bench.put label task) := by
  refine ⟨keeps_put asked (fun stopped => .inl (by rw [← engine]; exact stopped)) (.inl engine), stands.put mine ?_⟩
  rw [holder_put (by rw [engine])]
  exact stands.holds

/-- What a task writes that has the engine: it stops it only if it was asked to stop. -/
theorem Stands.putHolding (stands : Stands label around owns True bench)
    (asked : task.cell.isCancelled = (bench.cell label).isCancelled)
    (leads : task.engine.isCancelled = true → bench.engine.isCancelled = true ∨ task.cell.isCancelled = true) :
    Keeps label bench (bench.put label task) := by
  have meant := stands.holds.mpr trivial
  refine keeps_put asked (fun stopped => (leads stopped).imp_right fun asked => ⟨meant, asked⟩) (.inr ?_)
  exact fun other differ same => differ (Option.some.inj (same.symm.trans meant))

end

/-! ### Runs on the bench -/

/-- Whether a run goes on that has the engine, which was asked to stop only if the task was. -/
structure Heard (label : ι) (around : Circumstances) (beside : Beside (Bench ι)) (bench : Bench ι) : Prop where
  stands : Stands label around true True bench
  held : beside.held = [(stage label).freed, (seat label).changed disown]
  watch : beside.watch.action? = some ((seat label).changed follow)
  stopped : bench.engine.isCancelled = true → bench.Asked label

/-- Whether it does, and has seen whether it was asked to stop. -/
structure Looked (label : ι) (around : Circumstances) (found : Bool) (beside : Beside (Bench ι)) (bench : Bench ι) :
    Prop extends Heard label around beside bench where
  seen : found = true → bench.Asked label

section
variable {beside : Beside (Bench ι)} {found : Bool}

theorem Heard.relies (heard : Heard label around beside bench) (relies : Relies label bench later) :
    Heard label around beside later where
  stands := heard.stands.relies relies
  held := heard.held
  watch := heard.watch
  stopped := fun stopped => (relies.stopped (heard.stands.holds.mpr trivial) stopped).elim
    (fun before => relies.asked (heard.stopped before)) id

/-- What is written while the run has the engine. -/
theorem Heard.put (heard : Heard label around beside bench) {task : ProbeTask} (owns : task.ownsRun = true)
    (probing : task.engine.isProbing = bench.engine.isProbing)
    (asked : task.cell.isCancelled = (bench.cell label).isCancelled)
    (leads : task.engine.isCancelled = true → bench.engine.isCancelled = true ∨ task.cell.isCancelled = true) :
    Keeps label bench (bench.put label task) ∧ Heard label around beside (bench.put label task) := by
  have keeps := heard.stands.putHolding asked leads
  have stands : Stands label around true True (bench.put label task) :=
    heard.stands.put owns (by rw [holder_put probing]; exact heard.stands.holds)
  refine ⟨keeps, stands, heard.held, heard.watch, fun stopped => keeps.asked_iff.mpr ?_⟩
  exact (leads stopped).elim heard.stopped fun cell => .inl (asked.symm.trans cell)

theorem Heard.putGentle (heard : Heard label around beside bench) {change : EngineCell → EngineCell}
    (gentle : IsGentle change) : Keeps label bench (bench.putEngine label (change bench.engine)) ∧
      Heard label around beside (bench.putEngine label (change bench.engine)) :=
  heard.put heard.stands.owns (gentle _).2 rfl fun stopped => .inl ((gentle _).1.symm.trans stopped)

/-- What is watched passes on a request to stop the task. -/
theorem Heard.watched (heard : Heard label around beside bench) {action : Bench ι → Bench ι}
    (watches : beside.watch.action? = some action) :
    Keeps label bench (action bench) ∧ Heard label around beside.carriedOut (action bench) := by
  cases heard.watch.symm.trans watches
  have followed : Keeps label bench ((seat label).changed follow bench) ∧
      Heard label around beside ((seat label).changed follow bench) := by
    refine heard.put ((ownsRun_follow _).trans heard.stands.owns) (isProbing_engine_follow _)
      (isCancelled_cell_follow _) fun stopped => ?_
    rw [isCancelled_engine_follow, Bool.or_eq_true] at stopped
    exact stopped.symm.imp_right (isCancelled_cell_follow _).trans
  exact ⟨followed.1, followed.2.stands, heard.held, (Watch.action?_carriedOut _).trans heard.watch,
    followed.2.stopped⟩

theorem steady_heard : Steady (manner label) (Heard label around) where
  others _ _ _ relies heard := heard.relies relies
  rest heard _ := heard.stands.holds.mpr trivial
  watched heard watches :=
    have followed := heard.watched watches
    ⟨heard.stands.abides followed.1 followed.2.stands, followed.2⟩

theorem carries_heard : (stage label).Carries (manner label) (Heard label around) Ask.IsPlain where
  steady := steady_heard
  lets gentle _ _ heard := heard.putGentle gentle
  waits _ isAsleep _ _ heard _ := by
    cases isAsleep <;> exact ⟨Keeps.refl _ _, heard⟩

theorem carries_looked : (stage label).Carries (manner label) (Looked label around found) (· = .wallClock) where
  steady := by
    refine ⟨fun _ _ _ relies looked => ⟨looked.toHeard.relies relies, fun found => relies.asked (looked.seen found)⟩,
      fun looked _ => looked.stands.holds.mpr trivial, fun looked watches => ?_⟩
    obtain ⟨keeps, heard⟩ := looked.toHeard.watched watches
    exact ⟨looked.stands.abides keeps heard.stands, heard, fun found => keeps.asked_iff.mpr (looked.seen found)⟩
  lets gentle _ _ looked := by
    obtain ⟨keeps, heard⟩ := looked.toHeard.putGentle gentle
    exact ⟨keeps, heard, fun found => keeps.asked_iff.mpr (looked.seen found)⟩
  waits _ isAsleep _ _ looked _ := by
    cases isAsleep <;> exact ⟨Keeps.refl _ _, looked⟩

/-- What the streams of a run do: they write gently, if they write at all. -/
def Tends (label : ι) (bench later : Bench ι) : Prop :=
  later = bench ∨ ∃ change, IsGentle change ∧ later = bench.putEngine label (change bench.engine)

/-- The streams of a run have to do with nothing of all that. -/
theorem harmony (label : ι) (around : Circumstances) (settings : ProbingSettings) (streams : List Stream) :
    Harmony (stage label) (manner label) settings (fun (_ : Fin streams.length) _ _ => True) (fun _ => Tends label)
      (fun _ _ _ => True) (fun _ _ => True) (Heard label around) where
  apart _ _ _ _ _ _ := trivial
  stays _ _ _ _ _ := trivial
  rest := steady_heard.rest
  others heard relies := ⟨fun _ => trivial, heard.relies relies⟩
  watched heard watches := (steady_heard.watched heard watches).imp_right fun heard => ⟨fun _ => trivial, heard⟩
  idle := Abides.refl label
  acts {beside bench place company} heard tends _ := by
    obtain same | ⟨change, gentle, same⟩ := tends
    · rw [same]
      exact ⟨Abides.refl _ _, heard⟩
    · rw [same]
      obtain ⟨keeps, later⟩ := heard.putGentle gentle
      exact ⟨heard.stands.abides keeps later.stands, later⟩

theorem mayAsk (label : ι) (place : Nat) (id : Int) : MayAsk (stage label) place (Tends label) id where
  asked _ _ := .inl rfl
  stored _ _ _ _ _ stored := .inl stored

theorem fares_probeStreams (settings : ProbingSettings) (streams : List Stream)
    (heard : Heard label around beside bench) :
    ((stage label).work (Work.probeStreams settings streams)).Fares (stage label).outside (manner label)
      (fun _ => Heard label around) beside bench := by
  have within (place : Fin streams.length) :=
    (mayAsk label place (streams.get place).id).within_probeStream
      (fun change gentle _ => .inr ⟨change, gentle, rfl⟩) settings
  refine Fares.mono ((harmony label around settings streams).fares_probeStreams
    (fun later relied => ⟨(steady_heard.others beside).meanwhile relied heard, ?_⟩)
    (fun _ beside => steady_heard.others beside) ?_)
    fun _ _ _ ended => ended.elim fun _ heard => heard.2
  · exact turns_crew (fun place => (within place).ensures _) within fun _ => trivial
  · intro results beside bench isAsleep heard _ _ _
    cases isAsleep <;> exact ⟨Keeps.refl _ _, heard⟩

/-- **How a run passes** that has the engine. -/
theorem passage (label : ι) (around : Circumstances) (settings : ProbingSettings) :
    Passage (stage label) (manner label) settings around (Heard label around)
      (fun _ _ => Heard label around) (fun _ _ found => Looked label around found) where
  same heard := heard.stands.around
  carries := carries_heard
  probes streams heard := fares_probeStreams settings streams heard
  firm _ _ beside := steady_heard.others beside
  looks {streams outcomes beside bench} heard := by
    obtain ⟨keeps, later⟩ := heard.putGentle isGentle_id
    exact ⟨keeps, later, fun found => keeps.asked_iff.mpr (heard.stopped found)⟩
  concludes _ _ _ := carries_looked

end

/-! ### Whole tasks on the bench -/

/-- With the engine given back nobody has it. -/
theorem Heard.freed {beside : Beside (Bench ι)} (heard : Heard label around beside bench) :
    Keeps label bench ((stage label).freed bench) ∧ Stands label around true False ((stage label).freed bench) := by
  have holds := heard.stands.holds.mpr trivial
  have probing : bench.engine.isProbing = true := by
    rw [← show bench.holder.isSome = _ from heard.stands.sound, holds, Option.isSome_some]
  refine ⟨heard.stands.putHolding rfl .inl, heard.stands.put heard.stands.owns (iff_false_intro ?_)⟩
  have none : ((stage label).freed bench).holder = none := by
    refine (if_neg ?_).trans (if_neg Bool.noConfusion)
    rw [probing]
    exact Bool.noConfusion
  show ((stage label).freed bench).holder ≠ some label
  rw [none]
  exact nofun

/-- **A run takes the engine when nobody has it, and gives it back.** -/
theorem taking (label : ι) (around : Circumstances) (listed : Except RemoteError (List Stream)) :
    Taking (stage label) (manner label) (Heard label around)
      (Come (Heard label around) (fun _ _ found => Looked label around found) listed) (seat label).besideRun
      (Stands label around true False) (Stands label around true True) (Given label around) where
  firmOwned _ _ relies stands := stands.relies relies
  firmTaken _ _ relies stands := stands.relies relies
  firmGiven _ _ _ relies given :=
    ⟨given.stands.relies relies, fun summary same stopped => relies.asked (given.stopped summary same stopped)⟩
  rejects bench stands probing := by
    have same : bench.engine.take = bench.engine := by
      unfold EngineCell.take
      rw [← show bench.engine.isProbing = true from probing]
    have aside : Keeps label bench (bench.putEngine label bench.engine.take) ∧
        Stands label around true False (bench.putEngine label bench.engine.take) :=
      stands.putAside same rfl stands.owns
    exact ⟨aside.1, aside.2, nofun⟩
  takes bench stands probing := by
    have probing : bench.engine.isProbing = false := probing
    have free : bench.holder = none := by
      rw [← Option.not_isSome_iff_eq_none, stands.sound, probing]
      exact Bool.noConfusion
    refine ⟨keeps_put rfl .inl (.inr fun other _ => by rw [free]; exact nofun), stands.put stands.owns ?_⟩
    refine iff_true_intro ((if_neg ?_).trans (if_pos rfl))
    rw [probing]
    exact Bool.noConfusion
  rearms bench stands := by
    refine ⟨stands.putHolding rfl nofun, ?_, rfl, rfl, nofun⟩
    exact stands.put stands.owns (by rw [holder_put rfl]; exact stands.holds)
  frees reply last bench come := by
    cases listed with
    | error error =>
      obtain ⟨rfl, heard⟩ := come
      obtain ⟨keeps, stands⟩ := heard.freed
      exact ⟨heard.held, keeps, stands, nofun⟩
    | ok streams =>
      obtain ⟨outcomes, found, startedAt, completedAt, rfl, looked⟩ := come
      obtain ⟨keeps, stands⟩ := looked.toHeard.freed
      refine ⟨looked.held, keeps, stands, fun summary same stopped => keeps.asked_iff.mpr (looked.seen ?_)⟩
      cases same
      rw [RunSummary.ofOutcomes_eq, Bool.and_eq_true] at stopped
      exact stopped.1

theorem driving (label : ι) (around : Circumstances) :
    Driving (seat label) (manner label) (Stands label around false False) (Stands label around true False)
      (Given label around) (Told label) where
  firmBefore _ _ relies stands := stands.relies relies
  firmTold _ _ _ relies told := told.relies relies
  owns _ stands := stands.putAside rfl rfl rfl
  looks summary bench given := by
    have aside : Keeps label bench ((seat label).changed takeProgress bench) ∧
        Stands label around true False ((seat label).changed takeProgress bench) :=
      given.stands.putAside rfl rfl given.stands.owns
    exact ⟨aside.1, aside.2, fun summary same stopped => aside.1.asked_iff.mpr (given.stopped summary same stopped)⟩
  disowns reply bench given := by
    have aside : Keeps label bench ((seat label).changed disown bench) ∧
        Stands label around false False ((seat label).changed disown bench) :=
      given.stands.putAside rfl rfl rfl
    refine ⟨aside.1, aside.2.around.symm ▸ aside.2, fun stopped => aside.1.asked_iff.mpr ?_⟩
    rcases reply with (alreadyRunning | error) | summary
    · cases stopped
    · cases stopped
    · exact given.stopped summary rfl ((report_tells summary).1.symm.trans stopped)

theorem minding (label : ι) (around : Circumstances) :
    Minding (seat label) (stage label) (manner label) (fun _ => True) (Stands label around false False)
      (Told label) where
  steady := by
    refine Firm.steady (fun _ _ relies stands => stands.relies relies) fun bench stands owns => ?_
    rw [stands.owns] at owns
    cases owns
  waits {isAsleep} _ _ held _ := by
    cases isAsleep <;> exact ⟨Keeps.refl _ _, held⟩
  writes change kept bench stands := stands.putAside rfl (kept _) stands.owns
  finds := by
    rintro bench reply after - ⟨value, stored, rfl⟩
    exact ⟨stored, value, rfl, fun _ _ => trivial⟩
  tells report bench stands going := by
    refine ⟨stands.around.symm ▸ stands, fun stopped => ?_⟩
    rw [going] at stopped
    cases stopped

theorem suits (label : ι) : (seat label).Suits (stage label) := fun work => zoom_zoom _ _ _ _ work

/-- **A task that is reported as stopped was asked to stop**, or misled. -/
theorem fares_task (errand : Errand) (settings : ProbingSettings) (size : UInt32)
    (stands : Stands label around false False bench) :
    ((seat label).work (errand.work settings size)).Fares (stage label).outside (manner label)
      (fun report last later => last.held = [] ∧ Told label report later) {} bench :=
  fares_errand settings errand (minding label around) (driving label around).firmTold
    (fun _ _ skipRefresh _ stands => fares_drive (suits label) (driving label around)
      (passage label around settings) (taking label around _) size skipRefresh stands) stands

end Bench
end StreamWatch.ProbeTask
