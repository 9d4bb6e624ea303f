/-
**Probe runs over any state.**

A run, and each of its streams, reaches the cell of the engine in a larger state in a way of its own, so
that an onlooker can note down who has acted. The remote and the media tools answer as they do, the store
as it likes to. The streams of a run that are under way are the course of its one great question.

* `Stage`, `Stage.outside`: a larger state, and what there is outside of a run on it;
* `IsGentle`, `Stage.Carries`: writes that have to do with no request to stop, and what holds through them;
* `fares_refreshAccounts`, `fares_fetch`: what a run does before it has its streams;
* `attends_crew`, `fares_probeStreams`: its streams beside each other;
* `within_probeStream`: what one of them does by itself.
-/

import StreamWatch.Proofs.Engine.Run
import StreamWatch.Proofs.Program.Thread
import StreamWatch.Proofs.Program.Turns

namespace StreamWatch

open Program

/-- Whether a question is answered in one moment. -/
def Ask.IsPlain : Ask → Prop
  | probeStreams .. => False
  | _ => True

theorem Ask.isPlain_remote (call : RemoteCall) : (Ask.remote call).IsPlain := trivial

theorem Ask.isPlain_wallClock : Ask.wallClock.IsPlain := trivial

/-- Every outcome counts as one more stream. -/
theorem EngineCell.current_count (outcome : StreamOutcome) (cell : EngineCell) :
    (cell.count outcome).progress.current = cell.progress.current + 1 := by
  cases outcome <;> rfl

namespace Engine

/-- What a run stands on. -/
structure Stage (σ : Type) where
  around : σ → Circumstances
  engine : σ → EngineCell
  /-- how the run itself writes the cell -/
  put : EngineCell → σ → σ
  /-- how the stream at a place writes it -/
  putAbout : (place : Nat) → EngineCell → σ → σ
  /-- how the store may answer, and what the state is after that -/
  store : (call : StoreCall) → σ → call.Reply → σ → Prop
  /-- what is noted when the outside is asked about the stream at a place -/
  asked : (place : Nat) → Ask → σ → σ := fun _ _ => id
  /-- what is noted when an answer had to be waited for -/
  waited : Ask → σ → σ := fun _ => id
  exists_stored : ∀ call state, ∃ value after, store call state value after

/-- Streams of a run that are under way. -/
abbrev Crew (σ : Type) (streams : List Stream) : Type :=
  Company (Fin streams.length) σ Ask Ask.Reply (Int × StreamOutcome)

/-- What there is of a question that is under way. -/
inductive Course (σ : Type) where
  | plain
  | crew (streams : List Stream) (company : Crew σ streams)

namespace Stage

variable {σ : Type} (stage : Stage σ)

/-- A program of the run itself. -/
def work {α : Type} (work : Work EngineCell α) : Work σ α := work.zoom stage.engine stage.put

/-- A program of the stream at a place. -/
def workAbout {α : Type} (place : Nat) (work : Work EngineCell α) : Work σ α :=
  work.zoom stage.engine (stage.putAbout place)

theorem work_bind {α β : Type} (first : Work EngineCell α) (next : α → Work EngineCell β) :
    stage.work (first >>= next) = stage.work first >>= fun value => stage.work (next value) :=
  zoom_bind _ _ first next

theorem workAbout_bind {α β : Type} (place : Nat) (first : Work EngineCell α)
    (next : α → Work EngineCell β) :
    stage.workAbout place (first >>= next) =
      stage.workAbout place first >>= fun value => stage.workAbout place (next value) :=
  zoom_bind _ _ first next

/-- How a question about the stream at a place may be answered. -/
def answersAbout (place : Nat) : (ask : Ask) → σ → Option ask.Reply → σ → Prop
  | .probe url, state, reply, after =>
    reply = some ((stage.around state).verdict place).probe ∧ after = stage.asked place (.probe url) state
  | .sample url seconds, state, reply, after =>
    reply = some ((stage.around state).verdict place).sample ∧ after = stage.asked place (.sample url seconds) state
  | .store call, state, reply, after =>
    ∃ value stored, stage.store call state value stored ∧
      reply = some value ∧ after = stage.asked place (.store call) stored
  | _, state, reply, after => reply = none ∧ after = state

/-- What there is around the streams of a run. -/
def venue (settings : ProbingSettings) (streams : List Stream) :
    Venue (Fin streams.length) σ Ask Ask.Reply where
  limit := settings.concurrency
  answers place := stage.answersAbout place
  others _ _ := False

/-- The streams of a run before any of them has had its turn. -/
def crew (settings : ProbingSettings) (streams : List Stream) (state : σ) : Crew σ streams where
  waiting := (List.finRange streams.length).map fun place =>
    (place, stage.workAbout place (probeStream settings (streams.get place)))
  state := state

/-- How a question of the run itself may be answered, its streams aside. -/
def answers : (ask : Ask) → σ → Option ask.Reply → σ → Prop
  | .remote (.streams number _), state, reply, after =>
    reply = some ((stage.around state).pages number) ∧ after = state
  | .remote (.streamsByIds ids), state, reply, after =>
    reply = some ((stage.around state).byIds ids) ∧ after = state
  | .remote _, state, reply, after => reply.isSome = true ∧ after = state
  | .wallClock, state, reply, after => reply.isSome = true ∧ after = state
  | .store call, state, reply, after => ∃ value, stage.store call state value after ∧ reply = some value
  | _, state, reply, after => reply = none ∧ after = state

/-- The state with it noted that an answer had to be waited for, if it had. -/
def noted (isAsleep : Bool) (ask : Ask) (state : σ) : σ := if isAsleep then stage.waited ask state else state

/-- How a question begins. -/
def begins : Ask → σ → Course σ
  | .probeStreams settings streams, state => .crew streams (stage.crew settings streams state)
  | _, _ => .plain

/-- How the streams of a run that are under way may go on. -/
inductive GoesOn : Ask → Course σ → σ → Course σ → σ → Prop
  | crew {settings : ProbingSettings} {streams : List Stream} {company next : Crew σ streams} {state : σ}
      (step : Company.Step (stage.venue settings streams) (company.withState state) next) :
      GoesOn (.probeStreams settings streams) (.crew streams company) state (.crew streams next) next.state

/-- How a question that is under way may be answered. -/
inductive Answers : (ask : Ask) → Course σ → (isAsleep : Bool) → σ → Option ask.Reply → σ → Prop
  | plain {ask : Ask} {isAsleep : Bool} {state after : σ} {reply : Option ask.Reply}
      (answered : stage.answers ask state reply after) :
      Answers ask .plain isAsleep state reply (stage.noted isAsleep ask after)
  | crew {settings : ProbingSettings} {streams : List Stream} {company : Crew σ streams} {isAsleep : Bool}
      {state : σ} (isOver : company.IsOver) :
      Answers (.probeStreams settings streams) (.crew streams company) isAsleep state
        (some (company.ended.map (·.2))) (stage.noted isAsleep (.probeStreams settings streams) state)

/-- What there is outside of a run. -/
def outside : Outside σ Ask Ask.Reply := ⟨Course σ, stage.begins, stage.GoesOn, stage.Answers⟩

/-! ### Plain questions -/

theorem begins_of_isPlain {ask : Ask} (plain : ask.IsPlain) (state : σ) : stage.begins ask state = .plain := by
  cases ask with
  | probeStreams => exact plain.elim
  | remote | store | probe | sample | sleep | clock | wallClock => rfl

theorem not_goesOn_of_isPlain {ask : Ask} (plain : ask.IsPlain) (course : Course σ) (state : σ)
    (next : Course σ) (later : σ) : ¬ stage.GoesOn ask course state next later := by
  rintro ⟨-⟩
  exact plain

theorem answers_of_isPlain {ask : Ask} {isAsleep : Bool} {state later : σ} {reply : Option ask.Reply}
    (answered : stage.Answers ask .plain isAsleep state reply later) :
    ∃ after, stage.answers ask state reply after ∧ later = stage.noted isAsleep ask after := by
  cases answered with
  | plain answered => exact ⟨_, answered, rfl⟩

/-- The time of the day may be told at once. -/
theorem answers_now (state : σ) : stage.Answers .wallClock .plain false state (some default) state :=
  .plain ⟨rfl, rfl⟩

end Stage

/-! ### Gentle writes -/

/-- Whether a change of the cell has to do neither with requests to stop nor with who has the engine. -/
def IsGentle (change : EngineCell → EngineCell) : Prop :=
  ∀ cell, (change cell).isCancelled = cell.isCancelled ∧ (change cell).isProbing = cell.isProbing

theorem isGentle_id : IsGentle id := fun _ => ⟨rfl, rfl⟩

theorem isGentle_start : IsGentle EngineCell.start := fun _ => ⟨rfl, rfl⟩

theorem isGentle_say (status : String) : IsGentle (EngineCell.say status) := fun _ => ⟨rfl, rfl⟩

theorem isGentle_sayProbing (total : Nat) : IsGentle (EngineCell.sayProbing total) := fun _ => ⟨rfl, rfl⟩

theorem isGentle_sayItem (name : String) : IsGentle (EngineCell.sayItem name) := fun _ => ⟨rfl, rfl⟩

theorem isGentle_finish (isCancelled : Bool) : IsGentle (EngineCell.finish isCancelled) := fun _ => ⟨rfl, rfl⟩

theorem isGentle_keep (summary : RunSummary) : IsGentle (EngineCell.keep summary) := fun _ => ⟨rfl, rfl⟩

theorem isGentle_count (outcome : StreamOutcome) : IsGentle (EngineCell.count outcome) := by
  intro cell
  cases outcome <;> exact ⟨rfl, rfl⟩

/-! ### What a run does before it has its streams -/

section
variable {σ α : Type} {stage : Stage σ} {manner : Manner σ} {holds : Beside σ → σ → Prop}
  {goal : α → Beside σ → σ → Prop} {beside : Beside σ} {state : σ}

/-- Whether the run may change the cell of the engine while something holds, which goes on to hold. -/
def Stage.Lets (stage : Stage σ) (manner : Manner σ) (holds : Beside σ → σ → Prop)
    (change : EngineCell → EngineCell) : Prop :=
  ∀ {beside state}, holds beside state →
    manner.allowed state (stage.put (change (stage.engine state)) state) ∧
      holds beside (stage.put (change (stage.engine state)) state)

/-- Whether the run may be given an answer, asleep or awake, while something holds, which goes on to
hold. -/
def Stage.Waits (stage : Stage σ) (manner : Manner σ) (holds : Beside σ → σ → Prop) (ask : Ask) : Prop :=
  ∀ {isAsleep beside state}, holds beside state → beside.IsFree isAsleep →
    manner.allowed state (stage.noted isAsleep ask state) ∧ holds beside (stage.noted isAsleep ask state)

/-- Whether something goes on to hold through all that a run does while it has the engine: through gentle
writes to the cell, and through answers to some questions. -/
structure Stage.Carries (stage : Stage σ) (manner : Manner σ) (holds : Beside σ → σ → Prop)
    (asks : Ask → Prop) : Prop where
  steady : Steady manner holds
  lets : ∀ {change}, IsGentle change → stage.Lets manner holds change
  waits : ∀ {ask}, asks ask → stage.Waits manner holds ask

variable {asks : Ask → Prop}

theorem fares_change (carries : stage.Carries manner holds asks) {change : EngineCell → EngineCell}
    (gentle : IsGentle change) (before : holds beside state) {next : Unit → Work EngineCell α}
    (rest : ∀ seen, holds beside seen → (stage.work (next ⟨⟩)).Fares stage.outside manner goal beside seen) :
    (stage.work (Program.change change >>= next)).Fares stage.outside manner goal beside state :=
  fares_act (carries.steady.others beside) before fun _ held =>
    ⟨(carries.lets gentle held).1, rest _ (carries.lets gentle held).2⟩

/-- A plain question that changes nothing by itself. -/
theorem fares_get (ask : Ask) (told : ask.Reply → Prop) (steady : Steady manner holds) (plain : ask.IsPlain)
    (waits : stage.Waits manner holds ask)
    (answered : ∀ state, ∃ reply after, stage.answers ask state reply after)
    (idle : ∀ {beside state reply after}, holds beside state → stage.answers ask state reply after →
      after = state ∧ ∃ value, reply = some value ∧ told value)
    (before : holds beside state) :
    (stage.work (Program.get ask)).Fares stage.outside manner
      (fun value beside later => told value ∧ holds beside later) beside state := by
  refine fares_ask steady before (stage.not_goesOn_of_isPlain plain) (fun first isAsleep state => ?_) ?_
  · obtain ⟨reply, after, answered⟩ := answered state
    refine ⟨reply, stage.noted isAsleep ask after, ?_⟩
    rw [show stage.outside.begins ask first = .plain from stage.begins_of_isPlain plain first]
    exact Stage.Answers.plain answered
  · intro first isAsleep beside state held isFree reply after answered
    rw [show stage.outside.begins ask first = .plain from stage.begins_of_isPlain plain first] at answered
    obtain ⟨given, tells, rfl⟩ := stage.answers_of_isPlain answered
    obtain ⟨rfl, value, rfl, told⟩ := idle held tells
    obtain ⟨allowed, held⟩ := waits held isFree
    refine ⟨value, rfl, allowed, fares_done (fun seen later changed holds => ?_) ⟨told, held⟩⟩
    exact ⟨holds.1, steady.others _ _ _ changed holds.2⟩

theorem fares_remote (call : RemoteCall) (told : call.Reply → Prop) (steady : Steady manner holds)
    (waits : stage.Waits manner holds (.remote call))
    (tells : ∀ {beside state reply after}, holds beside state → stage.answers (.remote call) state reply after →
      after = state ∧ ∃ value, reply = some value ∧ told value)
    (before : holds beside state) :
    (stage.work (Work.remote call)).Fares stage.outside manner
      (fun value beside later => told value ∧ holds beside later) beside state := by
  refine fares_get (.remote call) told steady trivial waits (fun state => ?_) tells before
  cases call with
  | streams | streamsByIds => exact ⟨_, _, rfl, rfl⟩
  | _ => exact ⟨some (.error .transport), state, rfl, rfl⟩

/-- An answer of which nothing is known but that there is one. -/
theorem told_anything {α : Type} {reply : Option α} {after : σ} (told : reply.isSome = true ∧ after = state) :
    after = state ∧ ∃ value, reply = some value ∧ True :=
  ⟨told.2, (Option.isSome_iff_exists.mp told.1).imp fun _ same => ⟨same, trivial⟩⟩

theorem fares_now (steady : Steady manner holds) (waits : stage.Waits manner holds .wallClock)
    (before : holds beside state) :
    (stage.work Work.now).Fares stage.outside manner (fun _ beside later => holds beside later) beside
      state := by
  exact (fares_get .wallClock (fun _ => True) steady trivial waits
    (fun state => ⟨some default, state, rfl, rfl⟩) (fun _ => told_anything) before).mono fun _ _ _ held => held.2

variable (carries : stage.Carries manner holds Ask.IsPlain)
include carries

theorem fares_refreshEach (accounts : List Account) (before : holds beside state) :
    (stage.work (refreshEach accounts)).Fares stage.outside manner (fun _ beside later => holds beside later)
      beside state := by
  have steady := carries.steady
  induction accounts generalizing beside state with
  | nil => exact fares_done (steady.others beside) before
  | cons account rest ih =>
    refine fares_act (steady.others beside) before fun seen held => ?_
    obtain ⟨allowed, looked⟩ := carries.lets isGentle_id held
    refine ⟨allowed, ?_⟩
    show (stage.work (if (stage.engine seen).isCancelled = true then _ else _)).Fares _ _ _ _ _
    split
    · exact fares_done (steady.others beside) looked
    · rw [stage.work_bind]
      exact fares_bind ((fares_remote (.refreshAccount account.id) (fun _ => True) steady
        (carries.waits (Ask.isPlain_remote _)) (fun _ => told_anything) looked).mono fun _ _ _ held => ih held.2)

/-- Whatever comes of refreshing accounts, what held goes on to hold. -/
theorem fares_refreshAccounts (before : holds beside state) :
    (stage.work refreshAccounts).Fares stage.outside manner (fun _ beside later => holds beside later)
      beside state := by
  refine fares_change carries (isGentle_say _) before fun seen held => ?_
  rw [stage.work_bind]
  refine fares_bind ((fares_remote .accounts (fun _ => True) carries.steady
    (carries.waits (Ask.isPlain_remote _)) (fun _ => told_anything) held).mono ?_)
  rintro (error | accounts) beside later ⟨-, held⟩
  · exact fares_done (carries.steady.others beside) held
  · exact fares_refreshEach carries _ held

end

/-- A walk through pages that are what they are whenever they are asked for. -/
theorem fares_walkFrom {σ α : Type} {outside : Outside σ Ask Ask.Reply} {manner : Manner σ}
    {holds : Beside σ → σ → Prop} (steady : Steady manner holds)
    {ask : Nat → Work σ (Except RemoteError (Page α))} {page : Nat → Except RemoteError (Page α)}
    (asked : ∀ number beside state, holds beside state → (ask number).Fares outside manner
      (fun reply beside later => reply = page number ∧ holds beside later) beside state)
    (left number : Nat) (before : List α) {beside : Beside σ} {state : σ} (begun : holds beside state) :
    (Pages.walkFrom ask left number before).Fares outside manner
      (fun reply beside later => reply = Pages.collectFrom page left number before ∧ holds beside later) beside
      state := by
  have ended {reply : Except RemoteError (List α)} {beside : Beside σ} (told : Except RemoteError (List α)) :
      Firm manner fun later => reply = told ∧ holds beside later :=
    fun seen later changed held => ⟨held.1, steady.others _ _ _ changed held.2⟩
  induction left generalizing number before beside state with
  | zero => exact fares_done (ended _) ⟨rfl, begun⟩
  | succ left ih =>
    refine fares_bind ((asked number beside state begun).mono ?_)
    rintro reply beside later ⟨rfl, held⟩
    rw [Pages.collectFrom]
    cases page number with
    | error error => exact fares_done (ended _) ⟨rfl, held⟩
    | ok batch =>
      by_cases more : (batch.hasNext && !batch.results.isEmpty) = true
      · simp only [more, if_true]
        exact ih (number + 1) _ held
      · simp only [more]
        exact fares_done (ended _) ⟨rfl, held⟩

/-- **What is fetched** is a matter of what the remote lists. -/
theorem fares_fetch {σ : Type} {stage : Stage σ} {manner : Manner σ} {holds : Beside σ → σ → Prop}
    (carries : stage.Carries manner holds Ask.IsPlain) {around : Circumstances}
    (same : ∀ {beside state}, holds beside state → stage.around state = around)
    (size : UInt32) (only : Option (List Int)) {beside : Beside σ} {state : σ} (before : holds beside state) :
    (stage.work (fetch size only)).Fares stage.outside manner
      (fun reply beside later => reply = around.listed only ∧ holds beside later) beside state := by
  cases only with
  | some ids =>
    refine fares_remote (.streamsByIds ids) (· = around.byIds ids) carries.steady
      (carries.waits (Ask.isPlain_remote _)) ?_ before
    rintro beside state reply after held ⟨rfl, rfl⟩
    exact ⟨rfl, _, rfl, by rw [same held]⟩
  | none =>
    show (stage.work (Pages.walkFrom _ _ _ _)).Fares _ _ _ _ _
    unfold Stage.work
    rw [Pages.zoom_walkFrom]
    refine fares_walkFrom carries.steady (fun number beside state held => ?_) _ _ _ before
    refine fares_remote (.streams number size) (· = around.pages number) carries.steady
      (carries.waits (Ask.isPlain_remote _)) ?_ held
    rintro beside state reply after held ⟨rfl, rfl⟩
    exact ⟨rfl, _, rfl, by rw [same held]⟩

/-! ### The streams of a run beside each other -/

section
variable {σ : Type} {stage : Stage σ} {manner : Manner σ} {settings : ProbingSettings} {streams : List Stream}
  {rely own : Fin streams.length → σ → σ → Prop}
  {goal : Fin streams.length → Int × StreamOutcome → σ → Prop} {fresh : Fin streams.length → σ → Prop}
  {holds : Beside σ → σ → Prop}

theorem Stage.exists_answer (stage : Stage σ) (place : Nat) (ask : Ask) (state : σ) :
    ∃ reply after, stage.answersAbout place ask state reply after := by
  cases ask with
  | store call =>
    obtain ⟨value, after, stored⟩ := stage.exists_stored call state
    exact ⟨_, _, value, after, stored, rfl, rfl⟩
  | remote | probe | sample | sleep | clock | wallClock | probeStreams => exact ⟨_, _, rfl, rfl⟩

/-- Streams that get along go on, as the course of the question they are. -/
theorem goes_of_reaches {company last : Crew σ streams} {state : σ}
    (reached : Company.Reaches (stage.venue settings streams) (company.withState state) last) :
    ∃ course, Relation.ReflTransGen (stage.outside.Goes (.probeStreams settings streams))
        (.crew streams company, state) (.crew streams course, last.state) ∧ (last.IsOver → course.IsOver) := by
  rcases reached.cases_head with rfl | ⟨next, step, reached⟩
  · exact ⟨company, .refl, id⟩
  · have first : stage.outside.Goes (.probeStreams settings streams) (.crew streams company, state)
        (.crew streams next, next.state) := Stage.GoesOn.crew step
    refine ⟨last, .head first ?_, id⟩
    exact reached.lift (fun company : Crew σ streams => (Course.crew streams company, company.state))
      fun _ _ step => Stage.GoesOn.crew step

/-- Whether streams keep to their pact and each of them has its turn. -/
abbrev Turns (stage : Stage σ) (settings : ProbingSettings) (rely own : Fin streams.length → σ → σ → Prop)
    (goal : Fin streams.length → Int × StreamOutcome → σ → Prop) (fresh : Fin streams.length → σ → Prop)
    (company : Crew σ streams) : Prop :=
  company.InTurn (stage.venue settings streams) rely own goal fresh (List.finRange streams.length)

/-- Whether the streams of a run are in harmony with what is around them, while something holds: what
others do and what the run watches is as each of the streams relies on, and what a stream does may be done
while the run waits. -/
structure Harmony (stage : Stage σ) (manner : Manner σ) (settings : ProbingSettings)
    (rely own : Fin streams.length → σ → σ → Prop)
    (goal : Fin streams.length → Int × StreamOutcome → σ → Prop) (fresh : Fin streams.length → σ → Prop)
    (holds : Beside σ → σ → Prop) : Prop where
  apart : ∀ place other, place ≠ other → ∀ state later, own place state later → rely other state later
  stays : ∀ place state later, rely place state later → fresh place state → fresh place later
  rest : ∀ {beside state}, holds beside state → manner.rest state
  others : ∀ {beside state later}, holds beside state → manner.rely state later →
    (∀ place, rely place state later) ∧ holds beside later
  watched : ∀ {beside state action}, holds beside state → beside.watch.action? = some action →
    manner.waiting state (action state) ∧ (∀ place, rely place state (action state)) ∧
      holds beside.carriedOut (action state)
  idle : ∀ state, manner.waiting state state
  acts : ∀ {beside state place} {company : Crew σ streams}, holds beside state → own place state company.state →
    Turns stage settings rely own goal fresh company →
    manner.waiting state company.state ∧ holds beside company.state

namespace Harmony

variable (harmony : Harmony stage manner settings rely own goal fresh holds)
include harmony

theorem pact : Company.Pact (stage.venue settings streams) rely own where
  others _ _ _ := False.elim
  apart := harmony.apart

/-- **The streams of a run have their turns** while others have theirs. -/
theorem attends : Attends stage.outside manner (.probeStreams settings streams) fun course _ beside state =>
    ∃ company : Crew σ streams, course = .crew streams company ∧
      Turns stage settings rely own goal fresh (company.withState state) ∧ holds beside state where
  rest := fun ⟨_, _, _, held⟩ => harmony.rest held
  others := by
    rintro course isAsleep beside state later ⟨company, rfl, turns, held⟩ changed
    obtain ⟨relied, held⟩ := harmony.others held changed
    exact ⟨company, rfl, turns.withState relied fun place => harmony.stays _ _ _ (relied place), held⟩
  sleeps := id
  watched := by
    rintro course beside state action ⟨company, rfl, turns, held⟩ watches
    obtain ⟨waiting, relied, held⟩ := harmony.watched held watches
    exact ⟨waiting, company, rfl, turns.withState relied fun place => harmony.stays _ _ _ (relied place), held⟩
  goesOn := by
    rintro course isAsleep beside state next later ⟨company, rfl, turns, held⟩ isFree goes
    cases goes with
    | @crew settings streams company last state step =>
      obtain ⟨turns, same | none | ⟨place, acts⟩⟩ := turns.step harmony.pact harmony.stays step
      · rw [same]
        exact ⟨harmony.idle _, last, rfl, by rwa [← same], held⟩
      · exact none.elim
      · obtain ⟨waiting, held⟩ := harmony.acts held acts turns
        exact ⟨waiting, last, rfl, turns, held⟩
  ends := by
    rintro course isAsleep beside state ⟨company, rfl, turns, held⟩
    obtain ⟨last, reached, isOver⟩ := turns.keeps.exists_end harmony.pact
      (fun place => stage.exists_answer place) (concurrency_pos settings)
    obtain ⟨course, goes, ended⟩ := goes_of_reaches reached
    exact ⟨_, _, _, _, goes, Stage.Answers.crew (ended isOver)⟩

/-- **The streams of a run come to what each of them comes to.** -/
theorem fares_probeStreams {after : List (Fin streams.length × Int × StreamOutcome) → Beside σ → σ → Prop}
    {beside : Beside σ} {state : σ} (before : ∀ later, manner.Meanwhile state later → holds beside later ∧
      Turns stage settings rely own goal fresh (stage.crew settings streams later))
    (steady : ∀ results beside, Firm manner (after results beside))
    (rest : ∀ {results beside state isAsleep}, holds beside state → beside.IsFree isAsleep →
      (results.map (·.1)).Perm (List.finRange streams.length) →
      (∀ result ∈ results, goal result.1 result.2 state) →
      manner.allowed state (stage.noted isAsleep (.probeStreams settings streams) state) ∧
        after results beside (stage.noted isAsleep (.probeStreams settings streams) state)) :
    (stage.work (Work.probeStreams settings streams)).Fares stage.outside manner
      (fun reply beside later => ∃ results, reply = results.map (·.2) ∧ after results beside later) beside
      state := by
  refine ⟨_, harmony.attends, fun later meanwhile => ?_, ?_⟩
  · obtain ⟨held, turns⟩ := before later meanwhile
    exact ⟨_, rfl, turns, held⟩
  · rintro course isAsleep beside state ⟨company, rfl, turns, held⟩ isFree reply later answered
    cases answered with
    | crew isOver =>
      have everyone := turns.everyone
      rw [show (company.withState state).members.map (·.1) = company.ended.map (·.1) from
        Company.labels_of_isOver isOver] at everyone
      obtain ⟨allowed, held⟩ := rest held isFree everyone fun result ended =>
        turns.keeps.goal_of_ended ended
      refine ⟨_, rfl, allowed, fares_done ?_ ⟨company.ended, rfl, held⟩⟩
      rintro seen later changed ⟨results, told, held⟩
      exact ⟨results, told, steady _ _ _ _ changed held⟩

end Harmony

end

/-! ### What a stream does by itself -/

section
variable {σ : Type} {stage : Stage σ} {place : Nat} {own : σ → σ → Prop} {settings : ProbingSettings}
  {stream : Stream}

/-- Whether all that the outside may be asked about the stream of an id at a place is allowed. -/
structure MayAsk (stage : Stage σ) (place : Nat) (own : σ → σ → Prop) (id : Int) : Prop where
  asked : ∀ ask state, own state (stage.asked place ask state)
  stored : ∀ call state value after, (∀ other, other ≠ id → call.names other = false) →
    stage.store call state value after → own state (stage.asked place (.store call) after)

/-- Between its turn and the count a stream asks, and never comes back as if it had not been started. -/
theorem MayAsk.within_probeOrSkip (may : MayAsk stage place own stream.id) (settings : ProbingSettings) :
    (stage.workAbout place (probeOrSkip settings stream)).Within (stage.answersAbout place) own
      (· ≠ .notStarted) := by
  have stores (call : StoreCall) (alone : ∀ other, other ≠ stream.id → call.names other = false) :
      (stage.workAbout place (Work.store call)).Within (stage.answersAbout place) own fun _ => True := by
    rintro state reply after ⟨value, stored, answered, rfl, rfl⟩
    exact ⟨value, rfl, may.stored _ _ _ _ alone answered, trivial⟩
  unfold probeOrSkip
  cases address? stream with
  | none => exact nofun
  | some url =>
    show (stage.workAbout place (probeAndKeep settings _ url)).Within _ _ _
    unfold probeAndKeep
    have probes : (stage.workAbout place (Work.probe url)).Within (stage.answersAbout place) own
        fun _ => True := by
      rintro state reply after ⟨rfl, rfl⟩
      exact ⟨_, rfl, may.asked _ _, trivial⟩
    rw [stage.workAbout_bind]
    refine within_bind probes fun reply _ => ?_
    cases reply with
    | ok metrics =>
      have samples : (stage.workAbout place (blackVerdict settings url)).Within (stage.answersAbout place) own
          fun _ => True := by
        unfold blackVerdict
        split
        · rintro state reply after ⟨rfl, rfl⟩
          exact ⟨_, rfl, may.asked _ _, trivial⟩
        · exact trivial
      simp only [stage.workAbout_bind]
      refine within_bind samples fun isBlack _ => ?_
      refine within_bind (stores _ fun _ differ => (names_record differ).1 _ _) fun reply _ => ?_
      cases reply <;> exact nofun
    | error error =>
      simp only [stage.workAbout_bind]
      refine within_bind (stores _ fun _ differ => (names_record differ).2 _ _) fun reply _ => ?_
      show (if _ then _ else _) ≠ _
      split <;> exact nofun

/-- **A stream acts gently, and asks about itself only.** -/
theorem MayAsk.within_probeStream (may : MayAsk stage place own stream.id)
    (acts : ∀ change, IsGentle change → ∀ state, own state (stage.putAbout place (change (stage.engine state)) state))
    (settings : ProbingSettings) :
    (stage.workAbout place (probeStream settings stream)).Within (stage.answersAbout place) own
      fun _ => True := by
  rw [probeStream_eq]
  refine ⟨acts id isGentle_id, fun before => ?_⟩
  show (stage.workAbout place (if (stage.engine before).isCancelled = true then _ else _)).Within _ _ _
  split
  · trivial
  · refine ⟨acts _ (isGentle_sayItem _), fun _ => ?_⟩
    show (stage.workAbout place (probeOrSkip settings _ >>= _)).Within _ _ _
    rw [stage.workAbout_bind]
    exact within_bind (may.within_probeOrSkip settings) fun outcome _ =>
      ⟨acts _ (isGentle_count outcome), fun _ => trivial⟩

end

/-- The streams of a run before any of them has had its turn. -/
theorem turns_crew {σ : Type} {stage : Stage σ} {settings : ProbingSettings} {streams : List Stream}
    {rely own : Fin streams.length → σ → σ → Prop}
    {goal : Fin streams.length → Int × StreamOutcome → σ → Prop} {fresh : Fin streams.length → σ → Prop}
    {state : σ}
    (ensures : ∀ place : Fin streams.length,
      (stage.workAbout place (probeStream settings (streams.get place))).Ensures
        ⟨stage.answersAbout place, rely place⟩ (goal place) state)
    (within : ∀ place : Fin streams.length,
      (stage.workAbout place (probeStream settings (streams.get place))).Within
        (stage.answersAbout place) (own place) fun _ => True)
    (allFresh : ∀ place, fresh place state) :
    Turns stage settings rely own goal fresh (stage.crew settings streams state) where
  keeps := by
    have member {label : Fin streams.length × Work σ (Int × StreamOutcome)}
        (known : label ∈ (stage.crew settings streams state).members) :
        ∃ place : Fin streams.length,
          label = (place, stage.workAbout place (probeStream settings (streams.get place))) := by
      simp only [Stage.crew, Company.members, List.append_nil, List.map_nil, List.mem_map] at known
      obtain ⟨place, -, same⟩ := known
      exact ⟨place, same.symm⟩
    refine ⟨?_, fun label known => ?_, fun label known => ?_⟩
    · simpa [Stage.crew, Company.members, Function.comp_def] using List.nodup_finRange _
    · obtain ⟨place, rfl⟩ := member known
      exact ensures place
    · obtain ⟨place, rfl⟩ := member known
      exact within place
  everyone := by simp [Stage.crew, Company.members, Function.comp_def]
  fresh label _ := allFresh label.1
  room := Nat.zero_le _

end Engine
end StreamWatch
