/-
**How a program runs beside others.**

A program that runs takes its actions one after the other. Between any two of them others may change
the state, and so may the action that the program watches beside itself. A question is answered in
one moment, with whatever change the answer brings about; one that gets no answer breaks the program
off. When a program has ended, what it holds is let go.

* `Step`: what may happen next to a program that runs;
* `Ensures`: what a program that holds and watches nothing comes to, whatever others do in between;
* `ensures_bind`: what one program after the other comes to;
* `EnsuresHolding`: what a program comes to that lets go whatever it holds;
* `Settles`: a program never breaks off, can always come to its end, and its end is as it should be;
* `settles_of_ensures`: what is ensured is what running shows;
* `undisturbed`, `Ensures.alone`: what is ensured when nobody disturbs is what a program comes to alone.
-/

import Mathlib.Logic.Relation
import StreamWatch.Program

namespace StreamWatch

/-- What there is around programs over a state. -/
structure Surroundings (σ Ask : Type) (Reply : Ask → Type) where
  /-- how a question may be answered, if it is, and what the state is after that -/
  answers : (question : Ask) → σ → Option (Reply question) → σ → Prop
  /-- what others may make of the state -/
  others : σ → σ → Prop

namespace Program

variable {σ τ Ask : Type} {Reply : Ask → Type} {α β : Type}

/-- Whether a program has come to an end, with or without a result. -/
def IsOver : Program σ Ask Reply α → Prop
  | done _ | breakOff => True
  | _ => False

/-- A program that runs, over a state. -/
structure Running (σ Ask : Type) (Reply : Ask → Type) (α : Type) where
  program : Program σ Ask Reply α
  /-- what is let go when the program has ended, the latest first -/
  held : List (σ → σ) := []
  /-- the action beside the program -/
  watched : Option (σ → σ) := none
  state : σ

/-- What may happen next to a program that runs. -/
inductive Step (around : Surroundings σ Ask Reply) :
    Running σ Ask Reply α → Running σ Ask Reply α → Prop
  | others {running : Running σ Ask Reply α} {state : σ}
      (changed : around.others running.state state) :
      Step around running { running with state }
  | watched {running : Running σ Ask Reply α} {action : σ → σ} (runs : ¬ running.program.IsOver)
      (beside : running.watched = some action) :
      Step around running { running with state := action running.state }
  | act {change : σ → σ} {next : σ → Program σ Ask Reply α} {held : List (σ → σ)}
      {watched : Option (σ → σ)} {state : σ} :
      Step around ⟨.act change next, held, watched, state⟩
        ⟨next state, held, watched, change state⟩
  | answered {question : Ask} {next : Reply question → Program σ Ask Reply α} {held : List (σ → σ)}
      {watched : Option (σ → σ)} {state after : σ} {reply : Reply question}
      (answered : around.answers question state (some reply) after) :
      Step around ⟨.ask question next, held, watched, state⟩ ⟨next reply, held, watched, after⟩
  | unanswered {question : Ask} {next : Reply question → Program σ Ask Reply α} {held : List (σ → σ)}
      {watched : Option (σ → σ)} {state after : σ}
      (unanswered : around.answers question state none after) :
      Step around ⟨.ask question next, held, watched, state⟩ ⟨breakOff, held, watched, after⟩
  | hold {release : σ → σ} {next : Program σ Ask Reply α} {held : List (σ → σ)}
      {watched : Option (σ → σ)} {state : σ} :
      Step around ⟨.hold release next, held, watched, state⟩ ⟨next, release :: held, watched, state⟩
  | letGo {release : σ → σ} {next : Program σ Ask Reply α} {held : List (σ → σ)}
      {watched : Option (σ → σ)} {state : σ} :
      Step around ⟨.letGo next, release :: held, watched, state⟩
        ⟨next, held, watched, release state⟩
  | letGoNothing {next : Program σ Ask Reply α} {watched : Option (σ → σ)} {state : σ} :
      Step around ⟨.letGo next, [], watched, state⟩ ⟨next, [], watched, state⟩
  | watch {period : Duration} {action : σ → σ} {next : Program σ Ask Reply α} {held : List (σ → σ)}
      {watched : Option (σ → σ)} {state : σ} :
      Step around ⟨.watch period action next, held, watched, state⟩ ⟨next, held, some action, state⟩
  | unwatch {next : Program σ Ask Reply α} {held : List (σ → σ)} {watched : Option (σ → σ)}
      {state : σ} :
      Step around ⟨.unwatch next, held, watched, state⟩ ⟨next, held, none, state⟩
  | release {program : Program σ Ask Reply α} {release : σ → σ} {held : List (σ → σ)}
      {watched : Option (σ → σ)} {state : σ} (isOver : program.IsOver) :
      Step around ⟨program, release :: held, watched, state⟩ ⟨program, held, watched, release state⟩

/-- What may have become of a program that runs after some time. -/
abbrev Reaches (around : Surroundings σ Ask Reply) :
    Running σ Ask Reply α → Running σ Ask Reply α → Prop :=
  Relation.ReflTransGen (Step around)

/-- What others may have made of a state after some time. -/
abbrev Meanwhile (around : Surroundings σ Ask Reply) : σ → σ → Prop :=
  Relation.ReflTransGen around.others

/-! ### What a program ensures -/

/-- Whether a program that begins in a state never breaks off, and ends with a result and in a state
as it should, whatever others do before, in between and after. A program that holds or watches
something is not spoken of. -/
def Ensures (around : Surroundings σ Ask Reply) (goal : α → σ → Prop) :
    Program σ Ask Reply α → σ → Prop
  | done value, state => ∀ later, Meanwhile around state later → goal value later
  | act change next, state =>
    ∀ later, Meanwhile around state later → (next later).Ensures around goal (change later)
  | ask question next, state =>
    ∀ later, Meanwhile around state later → ∀ reply after, around.answers question later reply after →
      ∃ value, reply = some value ∧ (next value).Ensures around goal after
  | hold _ _, _ | letGo _, _ | watch _ _ _, _ | unwatch _, _ | breakOff, _ => False

variable {around : Surroundings σ Ask Reply} {goal : α → σ → Prop}

/-- What is ensured stays so while others change the state. -/
theorem Ensures.later {program : Program σ Ask Reply α} {state later : σ}
    (ensures : program.Ensures around goal state)
    (meanwhile : Meanwhile around state later) : program.Ensures around goal later := by
  cases program with
  | done value => exact fun last after => ensures last (meanwhile.trans after)
  | act change next => exact fun last after => ensures last (meanwhile.trans after)
  | ask question next => exact fun last after => ensures last (meanwhile.trans after)
  | hold | letGo | watch | unwatch | breakOff => exact ensures

theorem Ensures.mono {program : Program σ Ask Reply α} {state : σ}
    (ensures : program.Ensures around goal state)
    {weaker : α → σ → Prop} (weaken : ∀ value state, goal value state → weaker value state) :
    program.Ensures around weaker state := by
  induction program generalizing state with
  | done value => exact fun later meanwhile => weaken value later (ensures later meanwhile)
  | act change next ih => exact fun later meanwhile => ih later (ensures later meanwhile)
  | ask question next ih =>
    intro later meanwhile reply after answered
    obtain ⟨value, same, rest⟩ := ensures later meanwhile reply after answered
    exact ⟨value, same, ih value rest⟩
  | hold | letGo | watch | unwatch | breakOff => exact ensures

/-- One program after the other ensures what the second does from wherever the first leaves off. -/
theorem ensures_bind {first : Program σ Ask Reply α} {next : α → Program σ Ask Reply β}
    {goal : β → σ → Prop} {state : σ}
    (ensures : first.Ensures around (fun value later => (next value).Ensures around goal later) state) :
    (first >>= next).Ensures around goal state := by
  show (first.bind next).Ensures around goal state
  induction first generalizing state with
  | done value => exact ensures state .refl
  | act change rest ih => exact fun later meanwhile => ih later (ensures later meanwhile)
  | ask question rest ih =>
    intro later meanwhile reply after answered
    obtain ⟨value, same, rest⟩ := ensures later meanwhile reply after answered
    exact ⟨value, same, ih value rest⟩
  | hold | letGo | watch | unwatch | breakOff => exact ensures.elim

/-- A statement about the state that others do not undo. -/
def Stable (around : Surroundings σ Ask Reply) (holds : σ → Prop) : Prop :=
  ∀ state later, around.others state later → holds state → holds later

theorem Stable.meanwhile {holds : σ → Prop} (stable : Stable around holds) {state later : σ}
    (meanwhile : Meanwhile around state later) (before : holds state) : holds later := by
  induction meanwhile with
  | refl => exact before
  | tail _ changed ih => exact stable _ _ changed ih

theorem stable_const (fact : Prop) : Stable around fun _ => fact := fun _ _ _ holds => holds

theorem Stable.and {first second : σ → Prop} (left : Stable around first)
    (right : Stable around second) :
    Stable around fun state => first state ∧ second state :=
  fun state later changed holds => ⟨left state later changed holds.1, right state later changed holds.2⟩

theorem stable_exists {ι : Type} {holds : ι → σ → Prop} (stable : ∀ choice, Stable around (holds choice)) :
    Stable around fun state => ∃ choice, holds choice state :=
  fun state later changed ⟨choice, before⟩ => ⟨choice, stable choice state later changed before⟩

theorem ensures_done {value : α} {state : σ} (stable : Stable around (goal value))
    (holds : goal value state) :
    (pure value : Program σ Ask Reply α).Ensures around goal state :=
  fun _ meanwhile => stable.meanwhile meanwhile holds

/-- An action that is taken while something holds that others do not undo. -/
theorem ensures_act {change : σ → σ} {next : σ → Program σ Ask Reply α} {holds : σ → Prop} {state : σ}
    (stable : Stable around holds) (before : holds state)
    (rest : ∀ state, holds state → (next state).Ensures around goal (change state)) :
    (act change next).Ensures around goal state :=
  fun later meanwhile => rest later (stable.meanwhile meanwhile before)

/-- A question that is asked while something holds that others do not undo. It has to have an answer. -/
theorem ensures_ask {question : Ask} {next : Reply question → Program σ Ask Reply α}
    {holds : σ → Prop} {state : σ}
    (stable : Stable around holds) (before : holds state)
    (rest : ∀ state, holds state → ∀ reply after, around.answers question state reply after →
      ∃ value, reply = some value ∧ (next value).Ensures around goal after) :
    (ask question next).Ensures around goal state :=
  fun later meanwhile => rest later (stable.meanwhile meanwhile before)

/-! ### Programs that hold something -/

/-- Whether a program ensures its goal that may hold things, and holds some already, the latest first.
The goal speaks of what is held in the end, too. -/
def EnsuresHolding (around : Surroundings σ Ask Reply) (goal : α → List (σ → σ) → σ → Prop) :
    Program σ Ask Reply α → List (σ → σ) → σ → Prop
  | done value, held, state => ∀ later, Meanwhile around state later → goal value held later
  | act change next, held, state =>
    ∀ later, Meanwhile around state later →
      (next later).EnsuresHolding around goal held (change later)
  | ask question next, held, state =>
    ∀ later, Meanwhile around state later → ∀ reply after, around.answers question later reply after →
      ∃ value, reply = some value ∧ (next value).EnsuresHolding around goal held after
  | hold release next, held, state =>
    ∀ later, Meanwhile around state later → next.EnsuresHolding around goal (release :: held) later
  | letGo next, held, state =>
    ∀ later, Meanwhile around state later →
      next.EnsuresHolding around goal held.tail (held.headD id later)
  | watch _ _ _, _, _ | unwatch _, _, _ | breakOff, _, _ => False

theorem EnsuresHolding.later {goal : α → List (σ → σ) → σ → Prop} {program : Program σ Ask Reply α}
    {held : List (σ → σ)} {state later : σ} (ensures : program.EnsuresHolding around goal held state)
    (meanwhile : Meanwhile around state later) : program.EnsuresHolding around goal held later := by
  cases program with
  | done value => exact fun last after => ensures last (meanwhile.trans after)
  | act change next => exact fun last after => ensures last (meanwhile.trans after)
  | ask question next => exact fun last after => ensures last (meanwhile.trans after)
  | hold release next => exact fun last after => ensures last (meanwhile.trans after)
  | letGo next => exact fun last after => ensures last (meanwhile.trans after)
  | watch | unwatch | breakOff => exact ensures

theorem EnsuresHolding.mono {goal weaker : α → List (σ → σ) → σ → Prop} {program : Program σ Ask Reply α}
    {held : List (σ → σ)} {state : σ} (ensures : program.EnsuresHolding around goal held state)
    (weaken : ∀ value held state, goal value held state → weaker value held state) :
    program.EnsuresHolding around weaker held state := by
  induction program generalizing held state with
  | done value => exact fun later meanwhile => weaken value held later (ensures later meanwhile)
  | act change next ih => exact fun later meanwhile => ih later (ensures later meanwhile)
  | ask question next ih =>
    intro later meanwhile reply after answered
    obtain ⟨value, same, rest⟩ := ensures later meanwhile reply after answered
    exact ⟨value, same, ih value rest⟩
  | hold release next ih => exact fun later meanwhile => ih (ensures later meanwhile)
  | letGo next ih => exact fun later meanwhile => ih (ensures later meanwhile)
  | watch | unwatch | breakOff => exact ensures

/-- A program that holds nothing by itself leaves alone what is held. -/
theorem Ensures.holding {program : Program σ Ask Reply α} {state : σ}
    (ensures : program.Ensures around goal state) (held : List (σ → σ)) :
    program.EnsuresHolding around (fun value kept later => kept = held ∧ goal value later) held state := by
  induction program generalizing state with
  | done value => exact fun later meanwhile => ⟨rfl, ensures later meanwhile⟩
  | act change next ih => exact fun later meanwhile => ih later (ensures later meanwhile)
  | ask question next ih =>
    intro later meanwhile reply after answered
    obtain ⟨value, same, rest⟩ := ensures later meanwhile reply after answered
    exact ⟨value, same, ih value rest⟩
  | hold | letGo | watch | unwatch | breakOff => exact ensures.elim

theorem ensuresHolding_bind {first : Program σ Ask Reply α} {next : α → Program σ Ask Reply β}
    {goal : β → List (σ → σ) → σ → Prop} {held : List (σ → σ)} {state : σ}
    (ensures : first.EnsuresHolding around
      (fun value held later => (next value).EnsuresHolding around goal held later) held state) :
    (first >>= next).EnsuresHolding around goal held state := by
  show (first.bind next).EnsuresHolding around goal held state
  induction first generalizing held state with
  | done value => exact ensures state .refl
  | act change rest ih => exact fun later meanwhile => ih later (ensures later meanwhile)
  | ask question rest ih =>
    intro later meanwhile reply after answered
    obtain ⟨value, same, rest⟩ := ensures later meanwhile reply after answered
    exact ⟨value, same, ih value rest⟩
  | hold release rest ih => exact fun later meanwhile => ih (ensures later meanwhile)
  | letGo rest ih => exact fun later meanwhile => ih (ensures later meanwhile)
  | watch | unwatch | breakOff => exact ensures.elim

/-! ### What is ensured and what running shows -/

/-- A program that runs as it should: what it ensures is still ahead, or has come, and nothing will be
held any more then. -/
structure OnCourse (around : Surroundings σ Ask Reply) (goal : α → σ → Prop)
    (running : Running σ Ask Reply α) : Prop where
  watched : running.watched = none
  ensures : running.program.EnsuresHolding around (fun value held state => held = [] ∧ goal value state)
    running.held running.state

theorem OnCourse.step {running next : Running σ Ask Reply α} (onCourse : OnCourse around goal running)
    (step : Step around running next) : OnCourse around goal next := by
  obtain ⟨watched, ensures⟩ := onCourse
  cases step with
  | others changed => exact ⟨watched, ensures.later (.single changed)⟩
  | watched runs beside => exact nomatch watched.symm.trans beside
  | act => exact ⟨watched, ensures _ .refl⟩
  | answered answered =>
    obtain ⟨value, same, rest⟩ := ensures _ .refl _ _ answered
    cases same
    exact ⟨watched, rest⟩
  | unanswered unanswered =>
    obtain ⟨value, same, -⟩ := ensures _ .refl _ _ unanswered
    exact nomatch same
  | hold | letGo | letGoNothing => exact ⟨watched, ensures _ .refl⟩
  | watch | unwatch => exact ensures.elim
  | @release program release held watched state isOver =>
    cases program with
    | done value => exact nomatch (ensures state .refl).1
    | breakOff => exact ensures.elim
    | act | ask | hold | letGo | watch | unwatch => exact isOver.elim

theorem OnCourse.reaches {running last : Running σ Ask Reply α}
    (onCourse : OnCourse around goal running)
    (reached : Reaches around running last) : OnCourse around goal last := by
  induction reached with
  | refl => exact onCourse
  | tail _ step ih => exact ih.step step

/-- When every question has an answer, a program that runs as it should can come to its end at any
time. -/
theorem OnCourse.exists_end {running : Running σ Ask Reply α} (onCourse : OnCourse around goal running)
    (answered : ∀ question state, ∃ reply after, around.answers question state reply after) :
    ∃ value state, Reaches around running ⟨done value, [], none, state⟩ := by
  obtain ⟨program, held, watched, state⟩ := running
  obtain ⟨rfl, ensures⟩ := onCourse
  show ∃ value last, Reaches around ⟨program, held, none, state⟩ ⟨done value, [], none, last⟩
  induction program generalizing held state with
  | done value =>
    obtain ⟨none, -⟩ := ensures state .refl
    cases none
    exact ⟨value, state, .refl⟩
  | act change next ih =>
    obtain ⟨value, last, rest⟩ := ih state held (change state) (ensures state .refl)
    exact ⟨value, last, rest.head .act⟩
  | ask question next ih =>
    obtain ⟨reply, after, answered⟩ := answered question state
    obtain ⟨reply, rfl, ensures⟩ := ensures state .refl _ _ answered
    obtain ⟨value, last, rest⟩ := ih reply held after ensures
    exact ⟨value, last, rest.head (.answered answered)⟩
  | hold release next ih =>
    obtain ⟨value, last, rest⟩ := ih (release :: held) state (ensures state .refl)
    exact ⟨value, last, rest.head .hold⟩
  | letGo next ih =>
    obtain ⟨value, last, rest⟩ := ih held.tail (held.headD id state) (ensures state .refl)
    cases held with
    | nil => exact ⟨value, last, rest.head .letGoNothing⟩
    | cons release held => exact ⟨value, last, rest.head .letGo⟩
  | watch | unwatch | breakOff => exact ensures.elim

/-- **A program that runs from a state comes to its goal**: however it has run so far, it has not
broken off, it can still come to an end, and when it has ended, it was with a result and in a state
as it should. -/
structure Settles (around : Surroundings σ Ask Reply) (goal : α → σ → Prop)
    (program : Program σ Ask Reply α) (state : σ) : Prop where
  goesOn : ∀ running, Reaches around ⟨program, [], none, state⟩ running →
    ∃ value last, Reaches around running ⟨done value, [], none, last⟩
  ends : ∀ running, Reaches around ⟨program, [], none, state⟩ running → running.program.IsOver →
    ∃ value, running.program = done value ∧ goal value running.state

theorem Settles.mono {program : Program σ Ask Reply α} {state : σ}
    (settles : Settles around goal program state) {weaker : α → σ → Prop}
    (weaken : ∀ value state, goal value state → weaker value state) :
    Settles around weaker program state where
  goesOn := settles.goesOn
  ends running reached isOver := by
    obtain ⟨value, same, holds⟩ := settles.ends running reached isOver
    exact ⟨value, same, weaken value _ holds⟩

theorem settles_of_ensuresHolding {program : Program σ Ask Reply α} {state : σ}
    (answered : ∀ question state, ∃ reply after, around.answers question state reply after)
    (ensures : program.EnsuresHolding around (fun value held state => held = [] ∧ goal value state) []
      state) : Settles around goal program state where
  goesOn running reached := (OnCourse.reaches ⟨rfl, ensures⟩ reached).exists_end answered
  ends running reached isOver := by
    have onCourse := OnCourse.reaches ⟨rfl, ensures⟩ reached
    obtain ⟨program, held, watched, state⟩ := running
    cases program with
    | done value => exact ⟨value, rfl, (onCourse.ensures state .refl).2⟩
    | breakOff => exact onCourse.ensures.elim
    | act | ask | hold | letGo | watch | unwatch => exact isOver.elim

theorem settles_of_ensures {program : Program σ Ask Reply α} {state : σ}
    (answered : ∀ question state, ∃ reply after, around.answers question state reply after)
    (ensures : program.Ensures around goal state) : Settles around goal program state :=
  settles_of_ensuresHolding answered (ensures.holding [])

/-- Among the runs of a program that ensures its goal is the one in which nobody else does anything. -/
theorem Ensures.exists_alone {answer : (question : Ask) → σ → Option (Reply question) × σ}
    (answers : ∀ question state,
      around.answers question state (answer question state).1 (answer question state).2)
    {program : Program σ Ask Reply α} {state : σ} (ensures : program.Ensures around goal state) :
    ∃ value last, program.alone answer state = (some value, last) ∧
      Reaches around ⟨program, [], none, state⟩ ⟨done value, [], none, last⟩ := by
  induction program generalizing state with
  | done value => exact ⟨value, state, rfl, .refl⟩
  | act change next ih =>
    obtain ⟨value, last, same, rest⟩ := ih state (ensures state .refl)
    exact ⟨value, last, same, rest.head .act⟩
  | ask question next ih =>
    have answered := answers question state
    obtain ⟨reply, told, ensures⟩ := ensures state .refl _ _ answered
    obtain ⟨value, last, same, rest⟩ := ih reply ensures
    have replied : answer question state = (some reply, (answer question state).2) := Prod.ext told rfl
    refine ⟨value, last, ?_, rest.head (.answered (told ▸ answered))⟩
    rw [alone, replied]
    exact same
  | hold | letGo | watch | unwatch | breakOff => exact ensures.elim

/-! ### Programs that nobody disturbs -/

/-- Surroundings in which every question is answered in one way and nobody else does anything. -/
def undisturbed (answer : (question : Ask) → σ → Option (Reply question) × σ) : Surroundings σ Ask Reply where
  answers question state reply after := answer question state = (reply, after)
  others _ _ := False

section
variable {answer : (question : Ask) → σ → Option (Reply question) × σ} {state : σ}

theorem stable_undisturbed (holds : σ → Prop) : Stable (undisturbed answer) holds := fun _ _ => nofun

/-- A question that nobody disturbs goes on from its answer. -/
theorem ensures_answered {question : Ask} {next : Reply question → Program σ Ask Reply α} {reply : Reply question}
    {after : σ} (answered : answer question state = (some reply, after))
    (rest : (next reply).Ensures (undisturbed answer) goal after) :
    (ask question next).Ensures (undisturbed answer) goal state := by
  refine ensures_ask (stable_undisturbed (· = state)) rfl ?_
  rintro state rfl other later same
  cases answered.symm.trans same
  exact ⟨reply, rfl, rest⟩

/-- What a program ensures that nobody disturbs is what it comes to alone. -/
theorem Ensures.alone {program : Program σ Ask Reply α} (ensures : program.Ensures (undisturbed answer) goal state) :
    ∃ value last, program.alone answer state = (some value, last) ∧ goal value last := by
  obtain ⟨value, last, same, reached⟩ := ensures.exists_alone fun _ _ => rfl
  have onCourse := OnCourse.reaches ⟨rfl, ensures.holding []⟩ reached
  exact ⟨value, last, same, (onCourse.ensures last .refl).2⟩

end

/-! ### Programs over a part of the state -/

theorem zoom_bind (get : σ → τ) (put : τ → σ → σ) (first : Program τ Ask Reply α)
    (next : α → Program τ Ask Reply β) :
    (first >>= next).zoom get put = first.zoom get put >>= fun value => (next value).zoom get put := by
  show (first.bind next).zoom get put = (first.zoom get put).bind fun value => (next value).zoom get put
  induction first with
  | done value => rfl
  | act change rest ih => simp only [bind, zoom, ih]
  | ask question rest ih => simp only [bind, zoom, ih]
  | hold release rest ih => simp only [bind, zoom, ih]
  | letGo rest ih => simp only [bind, zoom, ih]
  | watch period action rest ih => simp only [bind, zoom, ih]
  | unwatch rest ih => simp only [bind, zoom, ih]
  | breakOff => rfl

/-- A program over a part of a part of the state is one over a part of it. -/
theorem zoom_zoom {υ : Type} (inner : τ → σ) (putInner : σ → τ → τ) (outer : υ → τ) (putOuter : τ → υ → υ)
    (program : Program σ Ask Reply α) :
    (program.zoom inner putInner).zoom outer putOuter =
      program.zoom (fun state => inner (outer state))
        (fun part state => putOuter (putInner part (outer state)) state) := by
  induction program with
  | done value => rfl
  | act change rest ih => simp only [zoom, ih]
  | ask question rest ih => simp only [zoom, ih]
  | hold release rest ih => simp only [zoom, ih]
  | letGo rest ih => simp only [zoom, ih]
  | watch period action rest ih => simp only [zoom, ih]
  | unwatch rest ih => simp only [zoom, ih]
  | breakOff => rfl

end Program
end StreamWatch
