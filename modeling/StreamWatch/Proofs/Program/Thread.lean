/-
**Programs that fall asleep.**

A question takes its course. If it is not answered at once the program that asked it falls asleep, and
the action that it watches beside itself has its turn: for the first time before anything else becomes of
the program, and then again whenever it likes, as long as the program sleeps. A program that is awake is
not disturbed by what it watches, only by others.

* `Thread.Step`: what may happen next to a program that may fall asleep;
* `Manner`: what a thread relies on, what it does itself, and what holds wherever it waits;
* `Fares`: whether a program comes to its goal in a manner;
* `fares_bind`, `fares_act`, `fares_ask`: how that is shown;
* `OnCourse.step`, `OnCourse.exists_end`, `fares_well`: what it is good for.
-/

import StreamWatch.Proofs.Program.Run

namespace StreamWatch.Program

/-- What there is outside of programs over a state. -/
structure Outside (σ Ask : Type) (Reply : Ask → Type) where
  /-- what there is of a question that is under way -/
  Course : Type
  begins : Ask → σ → Course
  /-- how a question may go on -/
  goesOn : Ask → Course → σ → Course → σ → Prop
  /-- how a question may be answered, if it is, when its asker is asleep or still awake, and what the
  state is after that -/
  answers : (question : Ask) → Course → (isAsleep : Bool) → σ → Option (Reply question) → σ → Prop

/-- How a question may go on from where it stands. -/
abbrev Outside.Goes {σ Ask : Type} {Reply : Ask → Type} (outside : Outside σ Ask Reply) (question : Ask)
    (first second : outside.Course × σ) : Prop :=
  outside.goesOn question first.1 first.2 second.1 second.2

/-- The action beside a thread. -/
inductive Watch (σ : Type) where
  | nothing
  /-- one that is still to be carried out for the first time -/
  | due (action : σ → σ)
  | again (action : σ → σ)

namespace Watch

variable {σ : Type}

/-- Whether the action is still to be carried out for the first time. -/
def isDue : Watch σ → Bool
  | due _ => true
  | nothing | again _ => false

/-- The action, if there is one. -/
def action? : Watch σ → Option (σ → σ)
  | nothing => none
  | due action | again action => some action

/-- The watch once its action has been carried out. -/
def carriedOut : Watch σ → Watch σ
  | nothing => nothing
  | due action | again action => again action

theorem action?_carriedOut (watch : Watch σ) : watch.carriedOut.action? = watch.action? := by
  cases watch <;> rfl

end Watch

/-- What a thread has beside its program. -/
structure Beside (σ : Type) where
  /-- what is let go when the thread has ended, the latest first -/
  held : List (σ → σ) := []
  watch : Watch σ := .nothing

namespace Beside

variable {σ : Type}

/-- With one more thing held. -/
def holding (release : σ → σ) (beside : Beside σ) : Beside σ :=
  { beside with held := release :: beside.held }

/-- Without what was held last. -/
def lettingGo (beside : Beside σ) : Beside σ := { beside with held := beside.held.tail }

/-- With an action watched. -/
def watching (action : σ → σ) (beside : Beside σ) : Beside σ := { beside with watch := .due action }

/-- With no action watched. -/
def unwatching (beside : Beside σ) : Beside σ := { beside with watch := .nothing }

/-- With the action carried out. -/
def carriedOut (beside : Beside σ) : Beside σ := { beside with watch := beside.watch.carriedOut }

/-- Whether a thread may be seen to, asleep or awake: one that fell asleep over an action that is due
waits for it. -/
def IsFree (beside : Beside σ) (isAsleep : Bool) : Prop := isAsleep = true → beside.watch.isDue = false

end Beside

variable {σ Ask : Type} {Reply : Ask → Type} {α β : Type}

/-- A program that may fall asleep. -/
inductive Thread (outside : Outside σ Ask Reply) (α : Type) where
  | awake (program : Program σ Ask Reply α) (beside : Beside σ)
  | waiting (question : Ask) (course : outside.Course) (next : Reply question → Program σ Ask Reply α)
      (isAsleep : Bool) (beside : Beside σ)

namespace Thread

variable {outside : Outside σ Ask Reply}

/-- Whether a thread waits for an answer. -/
def IsWaiting : Thread outside α → Prop
  | waiting .. => True
  | awake .. => False

/-- What may happen next to a thread, of itself. -/
inductive Step (outside : Outside σ Ask Reply) : Thread outside α → σ → Thread outside α → σ → Prop
  | act {change : σ → σ} {next : σ → Program σ Ask Reply α} {beside : Beside σ} {state : σ} :
      Step outside (.awake (.act change next) beside) state (.awake (next state) beside) (change state)
  | asks {question : Ask} {next : Reply question → Program σ Ask Reply α} {beside : Beside σ} {state : σ} :
      Step outside (.awake (.ask question next) beside) state
        (.waiting question (outside.begins question state) next false beside) state
  | fallsAsleep {question : Ask} {course : outside.Course}
      {next : Reply question → Program σ Ask Reply α} {beside : Beside σ} {state : σ} :
      Step outside (.waiting question course next false beside) state
        (.waiting question course next true beside) state
  | watched {question : Ask} {course : outside.Course}
      {next : Reply question → Program σ Ask Reply α} {beside : Beside σ} {action : σ → σ} {state : σ}
      (watches : beside.watch.action? = some action) :
      Step outside (.waiting question course next true beside) state
        (.waiting question course next true beside.carriedOut) (action state)
  | goesOn {question : Ask} {course later : outside.Course}
      {next : Reply question → Program σ Ask Reply α} {isAsleep : Bool} {beside : Beside σ} {state after : σ}
      (isFree : beside.IsFree isAsleep) (goes : outside.goesOn question course state later after) :
      Step outside (.waiting question course next isAsleep beside) state
        (.waiting question later next isAsleep beside) after
  | answered {question : Ask} {course : outside.Course}
      {next : Reply question → Program σ Ask Reply α} {isAsleep : Bool} {beside : Beside σ} {state after : σ}
      {reply : Reply question} (isFree : beside.IsFree isAsleep)
      (answered : outside.answers question course isAsleep state (some reply) after) :
      Step outside (.waiting question course next isAsleep beside) state (.awake (next reply) beside) after
  | unanswered {question : Ask} {course : outside.Course}
      {next : Reply question → Program σ Ask Reply α} {isAsleep : Bool} {beside : Beside σ} {state after : σ}
      (isFree : beside.IsFree isAsleep)
      (unanswered : outside.answers question course isAsleep state none after) :
      Step outside (.waiting question course next isAsleep beside) state (.awake breakOff beside) after
  | hold {release : σ → σ} {next : Program σ Ask Reply α} {beside : Beside σ} {state : σ} :
      Step outside (.awake (.hold release next) beside) state (.awake next (beside.holding release)) state
  | letGo {next : Program σ Ask Reply α} {beside : Beside σ} {state : σ} :
      Step outside (.awake (.letGo next) beside) state (.awake next beside.lettingGo)
        (beside.held.headD id state)
  | watch {period : Duration} {action : σ → σ} {next : Program σ Ask Reply α} {beside : Beside σ} {state : σ} :
      Step outside (.awake (.watch period action next) beside) state (.awake next (beside.watching action)) state
  | unwatch {next : Program σ Ask Reply α} {beside : Beside σ} {state : σ} :
      Step outside (.awake (.unwatch next) beside) state (.awake next beside.unwatching) state
  | release {program : Program σ Ask Reply α} {release : σ → σ} {held : List (σ → σ)} {watch : Watch σ}
      {state : σ} (isOver : program.IsOver) :
      Step outside (.awake program ⟨release :: held, watch⟩) state (.awake program ⟨held, watch⟩) (release state)

/-- What may happen next where others change the state, too. -/
inductive Move (outside : Outside σ Ask Reply) (others : σ → σ → Prop) :
    Thread outside α × σ → Thread outside α × σ → Prop
  | own {thread next : Thread outside α} {state later : σ} (step : Step outside thread state next later) :
      Move outside others (thread, state) (next, later)
  | others {thread : Thread outside α} {state later : σ} (changed : others state later) :
      Move outside others (thread, state) (thread, later)

/-- What may have become of a thread and the state after some time. -/
abbrev Reaches (outside : Outside σ Ask Reply) (others : σ → σ → Prop) :
    Thread outside α × σ → Thread outside α × σ → Prop :=
  Relation.ReflTransGen (Move outside others)

end Thread

/-! ### How programs fare -/

/-- The manner in which a thread runs. -/
structure Manner (σ : Type) where
  /-- what it relies on of others -/
  rely : σ → σ → Prop
  /-- what it may do itself -/
  allowed : σ → σ → Prop := fun _ _ => True
  /-- what may be done for it while it waits for an answer -/
  waiting : σ → σ → Prop := fun _ _ => True
  /-- what holds wherever it waits for an answer -/
  rest : σ → Prop := fun _ => True

/-- What others may have made of a state after some time. -/
abbrev Manner.Meanwhile (manner : Manner σ) : σ → σ → Prop := Relation.ReflTransGen manner.rely

/-- Whether something holds while a question is under way, whatever becomes of it, and whether the
question can come to an answer at any time. -/
structure Attends (outside : Outside σ Ask Reply) (manner : Manner σ) (question : Ask)
    (during : outside.Course → Bool → Beside σ → σ → Prop) : Prop where
  rest : ∀ {course isAsleep beside state}, during course isAsleep beside state → manner.rest state
  others : ∀ {course isAsleep beside state later}, during course isAsleep beside state →
    manner.rely state later → during course isAsleep beside later
  sleeps : ∀ {course beside state}, during course false beside state → during course true beside state
  watched : ∀ {course beside state action}, during course true beside state →
    beside.watch.action? = some action →
    manner.waiting state (action state) ∧ during course true beside.carriedOut (action state)
  goesOn : ∀ {course isAsleep beside state next later}, during course isAsleep beside state →
    beside.IsFree isAsleep → outside.goesOn question course state next later →
    manner.waiting state later ∧ during next isAsleep beside later
  ends : ∀ {course isAsleep beside state}, during course isAsleep beside state →
    ∃ last later reply after,
      Relation.ReflTransGen (outside.Goes question) (course, state) (last, later) ∧
        outside.answers question last isAsleep later reply after

theorem Attends.reaches {outside : Outside σ Ask Reply} {manner : Manner σ} {question : Ask}
    {during : outside.Course → Bool → Beside σ → σ → Prop}
    (attends : Attends outside manner question during) {course last : outside.Course} {isAsleep : Bool}
    {beside : Beside σ} {state later : σ} (holds : during course isAsleep beside state)
    (isFree : beside.IsFree isAsleep)
    (goes : Relation.ReflTransGen (outside.Goes question) (course, state) (last, later)) :
    during last isAsleep beside later := by
  generalize same : (last, later) = reached at goes
  induction goes generalizing last later with
  | refl =>
    cases same
    exact holds
  | tail _ goes ih =>
    cases same
    exact (attends.goesOn (ih rfl) isFree goes).2

/-- Whether a program that begins in a state keeps to its manner, never breaks off, and ends as it
should, whatever others do and whenever it falls asleep. -/
def Fares (outside : Outside σ Ask Reply) (manner : Manner σ) (goal : α → Beside σ → σ → Prop) :
    Program σ Ask Reply α → Beside σ → σ → Prop
  | done value, beside, state => ∀ later, manner.Meanwhile state later → goal value beside later
  | act change next, beside, state =>
    ∀ later, manner.Meanwhile state later →
      manner.allowed later (change later) ∧ (next later).Fares outside manner goal beside (change later)
  | ask question next, beside, state =>
    ∃ during, Attends outside manner question during ∧
      (∀ later, manner.Meanwhile state later →
        during (outside.begins question later) false beside later) ∧
      ∀ course isAsleep beside state, during course isAsleep beside state → beside.IsFree isAsleep →
        ∀ reply after, outside.answers question course isAsleep state reply after →
          ∃ value, reply = some value ∧ manner.allowed state after ∧
            (next value).Fares outside manner goal beside after
  | hold release next, beside, state =>
    ∀ later, manner.Meanwhile state later → next.Fares outside manner goal (beside.holding release) later
  | letGo next, beside, state =>
    ∀ later, manner.Meanwhile state later →
      manner.allowed later (beside.held.headD id later) ∧
        next.Fares outside manner goal beside.lettingGo (beside.held.headD id later)
  | watch _ action next, beside, state =>
    ∀ later, manner.Meanwhile state later → next.Fares outside manner goal (beside.watching action) later
  | unwatch next, beside, state =>
    ∀ later, manner.Meanwhile state later → next.Fares outside manner goal beside.unwatching later
  | breakOff, _, _ => False

section
variable {outside : Outside σ Ask Reply} {manner : Manner σ} {goal weaker : α → Beside σ → σ → Prop}
  {program : Program σ Ask Reply α} {beside : Beside σ} {state last : σ}

/-- How a program fares stays so while others change the state. -/
theorem Fares.later (fares : program.Fares outside manner goal beside state)
    (meanwhile : manner.Meanwhile state last) : program.Fares outside manner goal beside last := by
  cases program with
  | done value => exact fun later after => fares later (meanwhile.trans after)
  | act change next => exact fun later after => fares later (meanwhile.trans after)
  | ask question next =>
    obtain ⟨during, attends, begins, rest⟩ := fares
    exact ⟨during, attends, fun later after => begins later (meanwhile.trans after), rest⟩
  | hold release next => exact fun later after => fares later (meanwhile.trans after)
  | letGo next => exact fun later after => fares later (meanwhile.trans after)
  | watch period action next => exact fun later after => fares later (meanwhile.trans after)
  | unwatch next => exact fun later after => fares later (meanwhile.trans after)
  | breakOff => exact fares

theorem Fares.mono (fares : program.Fares outside manner goal beside state)
    (weaken : ∀ value beside state, goal value beside state → weaker value beside state) :
    program.Fares outside manner weaker beside state := by
  induction program generalizing beside state with
  | done value => exact fun later meanwhile => weaken value beside later (fares later meanwhile)
  | act change next ih =>
    exact fun later meanwhile =>
      ⟨(fares later meanwhile).1, ih later (fares later meanwhile).2⟩
  | ask question next ih =>
    obtain ⟨during, attends, begins, rest⟩ := fares
    refine ⟨during, attends, begins, fun course isAsleep beside state held isFree reply after answered => ?_⟩
    obtain ⟨value, same, allowed, fares⟩ := rest course isAsleep beside state held isFree reply after answered
    exact ⟨value, same, allowed, ih value fares⟩
  | hold release next ih => exact fun later meanwhile => ih (fares later meanwhile)
  | letGo next ih =>
    exact fun later meanwhile => ⟨(fares later meanwhile).1, ih (fares later meanwhile).2⟩
  | watch period action next ih => exact fun later meanwhile => ih (fares later meanwhile)
  | unwatch next ih => exact fun later meanwhile => ih (fares later meanwhile)
  | breakOff => exact fares

/-- One program after the other fares as the second does from wherever the first leaves off. -/
theorem fares_bind {first : Program σ Ask Reply β} {next : β → Program σ Ask Reply α}
    (fares : first.Fares outside manner
      (fun value beside later => (next value).Fares outside manner goal beside later) beside state) :
    (first >>= next).Fares outside manner goal beside state := by
  show (first.bind next).Fares outside manner goal beside state
  induction first generalizing beside state with
  | done value => exact fares state .refl
  | act change rest ih =>
    exact fun later meanwhile => ⟨(fares later meanwhile).1, ih later (fares later meanwhile).2⟩
  | ask question rest ih =>
    obtain ⟨during, attends, begins, fares⟩ := fares
    refine ⟨during, attends, begins, fun course isAsleep beside state held isFree reply after answered => ?_⟩
    obtain ⟨value, same, allowed, fares⟩ := fares course isAsleep beside state held isFree reply after answered
    exact ⟨value, same, allowed, ih value fares⟩
  | hold release rest ih => exact fun later meanwhile => ih (fares later meanwhile)
  | letGo rest ih =>
    exact fun later meanwhile => ⟨(fares later meanwhile).1, ih (fares later meanwhile).2⟩
  | watch period action rest ih => exact fun later meanwhile => ih (fares later meanwhile)
  | unwatch rest ih => exact fun later meanwhile => ih (fares later meanwhile)
  | breakOff => exact fares.elim

/-- A statement about the state that others do not undo. -/
def Firm (manner : Manner σ) (holds : σ → Prop) : Prop :=
  ∀ state later, manner.rely state later → holds state → holds later

theorem Firm.meanwhile {holds : σ → Prop} (firm : Firm manner holds)
    (meanwhile : manner.Meanwhile state last) (before : holds state) : holds last := by
  induction meanwhile with
  | refl => exact before
  | tail _ changed ih => exact firm _ _ changed ih

theorem fares_done {value : α} (firm : Firm manner (goal value beside)) (holds : goal value beside state) :
    (pure value : Program σ Ask Reply α).Fares outside manner goal beside state :=
  fun _ meanwhile => firm.meanwhile meanwhile holds

/-- An action that is taken while something holds that others do not undo. -/
theorem fares_act {change : σ → σ} {next : σ → Program σ Ask Reply α} {holds : σ → Prop}
    (firm : Firm manner holds) (before : holds state)
    (rest : ∀ state, holds state →
      manner.allowed state (change state) ∧ (next state).Fares outside manner goal beside (change state)) :
    (act change next).Fares outside manner goal beside state :=
  fun later meanwhile => rest later (firm.meanwhile meanwhile before)

/-- Something is held from here on. -/
theorem fares_hold {release : σ → σ} {next : Program σ Ask Reply α} {holds : σ → Prop}
    (firm : Firm manner holds) (before : holds state)
    (rest : ∀ state, holds state → next.Fares outside manner goal (beside.holding release) state) :
    (hold release next).Fares outside manner goal beside state :=
  fun later meanwhile => rest later (firm.meanwhile meanwhile before)

/-- What was held last is let go. -/
theorem fares_letGo {next : Program σ Ask Reply α} {holds : σ → Prop}
    (firm : Firm manner holds) (before : holds state)
    (rest : ∀ state, holds state → manner.allowed state (beside.held.headD id state) ∧
      next.Fares outside manner goal beside.lettingGo (beside.held.headD id state)) :
    (letGo next).Fares outside manner goal beside state :=
  fun later meanwhile => rest later (firm.meanwhile meanwhile before)

/-- An action is watched from here on. -/
theorem fares_watch {period : Duration} {action : σ → σ} {next : Program σ Ask Reply α} {holds : σ → Prop}
    (firm : Firm manner holds) (before : holds state)
    (rest : ∀ state, holds state → next.Fares outside manner goal (beside.watching action) state) :
    (watch period action next).Fares outside manner goal beside state :=
  fun later meanwhile => rest later (firm.meanwhile meanwhile before)

/-- No action is watched from here on. -/
theorem fares_unwatch {next : Program σ Ask Reply α} {holds : σ → Prop}
    (firm : Firm manner holds) (before : holds state)
    (rest : ∀ state, holds state → next.Fares outside manner goal beside.unwatching state) :
    (unwatch next).Fares outside manner goal beside state :=
  fun later meanwhile => rest later (firm.meanwhile meanwhile before)

/-- A statement about the state and what is beside a thread that neither others undo nor the action the
thread watches, and with which it may wait. -/
structure Steady (manner : Manner σ) (holds : Beside σ → σ → Prop) : Prop where
  others : ∀ beside, Firm manner (holds beside)
  rest : ∀ {beside state}, holds beside state → manner.rest state
  watched : ∀ {beside state action}, holds beside state → beside.watch.action? = some action →
    manner.waiting state (action state) ∧ holds beside.carriedOut (action state)

/-- With nothing beside the thread, what others do not undo is steady. -/
theorem Firm.steady {holds : σ → Prop} (firm : Firm manner holds) (rests : ∀ state, holds state → manner.rest state) :
    Steady manner fun beside state => beside = {} ∧ holds state := by
  refine ⟨fun _ _ _ changed held => ⟨held.1, firm _ _ changed held.2⟩, fun held => rests _ held.2, ?_⟩
  rintro beside state action ⟨rfl, -⟩ watches
  cases watches

/-- A question that is asked while something steady holds. It is answered in one moment, and has to have
an answer. -/
theorem fares_ask {question : Ask} {next : Reply question → Program σ Ask Reply α}
    {holds : Beside σ → σ → Prop} (steady : Steady manner holds) (before : holds beside state)
    (inOneMoment : ∀ course state later after, ¬ outside.goesOn question course state later after)
    (answered : ∀ first isAsleep state, ∃ reply after,
      outside.answers question (outside.begins question first) isAsleep state reply after)
    (rest : ∀ first isAsleep beside state, holds beside state → beside.IsFree isAsleep →
      ∀ reply after, outside.answers question (outside.begins question first) isAsleep state reply after →
        ∃ value, reply = some value ∧ manner.allowed state after ∧
          (next value).Fares outside manner goal beside after) :
    (ask question next).Fares outside manner goal beside state := by
  let during (course : outside.Course) (_ : Bool) (beside : Beside σ) (state : σ) : Prop :=
    (∃ first, course = outside.begins question first) ∧ holds beside state
  refine ⟨during, ?_, fun later meanwhile => ?_, ?_⟩
  · exact {
      rest := fun held => steady.rest held.2
      others := fun held changed => ⟨held.1, steady.others _ _ _ changed held.2⟩
      sleeps := id
      watched := fun held watches => (steady.watched held.2 watches).imp id fun after => ⟨held.1, after⟩
      goesOn := fun _ _ goes => absurd goes (inOneMoment _ _ _ _)
      ends := fun {course isAsleep _ state} held => by
        obtain ⟨⟨first, rfl⟩, -⟩ := held
        obtain ⟨reply, after, answered⟩ := answered first isAsleep state
        exact ⟨_, state, reply, after, .refl, answered⟩ }
  · exact ⟨⟨later, rfl⟩, (steady.others beside).meanwhile meanwhile before⟩
  · rintro course isAsleep beside state ⟨⟨first, rfl⟩, held⟩
    exact rest first isAsleep beside state held

end

/-! ### What threads come to -/

namespace Thread

variable {outside : Outside σ Ask Reply} {manner : Manner σ} {goal : α → Beside σ → σ → Prop}
  {thread next : Thread outside α} {state later : σ}

/-- Whether a thread keeps to its manner from here on and ends as it should. -/
def OnCourse (manner : Manner σ) (goal : α → Beside σ → σ → Prop) : Thread outside α → σ → Prop
  | awake program beside, state => program.Fares outside manner goal beside state
  | waiting question course next isAsleep beside, state =>
    ∃ during, Attends outside manner question during ∧ during course isAsleep beside state ∧
      ∀ course isAsleep beside state, during course isAsleep beside state → beside.IsFree isAsleep →
        ∀ reply after, outside.answers question course isAsleep state reply after →
          ∃ value, reply = some value ∧ manner.allowed state after ∧
            (next value).Fares outside manner goal beside after

theorem OnCourse.others (onCourse : thread.OnCourse manner goal state) (changed : manner.rely state later) :
    thread.OnCourse manner goal later := by
  cases thread with
  | awake program beside => exact Fares.later onCourse (.single changed)
  | waiting question course next isAsleep beside =>
    obtain ⟨during, attends, holds, rest⟩ := onCourse
    exact ⟨during, attends, attends.others holds changed, rest⟩

theorem OnCourse.rest (onCourse : thread.OnCourse manner goal state) (waits : thread.IsWaiting) :
    manner.rest state := by
  cases thread with
  | awake program beside => exact waits.elim
  | waiting question course next isAsleep beside =>
    obtain ⟨during, attends, holds, -⟩ := onCourse
    exact attends.rest holds

/-- **A thread on its course** does what it may, and stays on its course. What is held is let go on the
way. -/
theorem OnCourse.step (onCourse : thread.OnCourse manner goal state)
    (letsGo : ∀ value beside state, goal value beside state → beside.held = [])
    (step : Step outside thread state next later) :
    (later = state ∨ manner.allowed state later ∨ manner.waiting state later) ∧ next.OnCourse manner goal later := by
  cases step with
  | act => exact ⟨.inr (.inl (onCourse _ .refl).1), (onCourse _ .refl).2⟩
  | asks =>
    obtain ⟨during, attends, begins, rest⟩ := onCourse
    exact ⟨.inl rfl, during, attends, begins _ .refl, rest⟩
  | fallsAsleep =>
    obtain ⟨during, attends, holds, rest⟩ := onCourse
    exact ⟨.inl rfl, during, attends, attends.sleeps holds, rest⟩
  | watched watches =>
    obtain ⟨during, attends, holds, rest⟩ := onCourse
    obtain ⟨waiting, holds⟩ := attends.watched holds watches
    exact ⟨.inr (.inr waiting), during, attends, holds, rest⟩
  | goesOn isFree goes =>
    obtain ⟨during, attends, holds, rest⟩ := onCourse
    obtain ⟨waiting, holds⟩ := attends.goesOn holds isFree goes
    exact ⟨.inr (.inr waiting), during, attends, holds, rest⟩
  | answered isFree answered =>
    obtain ⟨during, attends, holds, rest⟩ := onCourse
    obtain ⟨value, same, allowed, fares⟩ := rest _ _ _ _ holds isFree _ _ answered
    cases same
    exact ⟨.inr (.inl allowed), fares⟩
  | unanswered isFree unanswered =>
    obtain ⟨during, attends, holds, rest⟩ := onCourse
    obtain ⟨value, same, -⟩ := rest _ _ _ _ holds isFree _ _ unanswered
    exact nomatch same
  | hold | watch | unwatch => exact ⟨.inl rfl, onCourse _ .refl⟩
  | letGo => exact ⟨.inr (.inl (onCourse _ .refl).1), (onCourse _ .refl).2⟩
  | @release program release held watch state isOver =>
    cases program with
    | done value => exact nomatch letsGo _ _ _ (onCourse state .refl)
    | breakOff => exact onCourse.elim
    | act | ask | hold | letGo | watch | unwatch => exact isOver.elim

/-- What is done for a thread that goes on waiting. -/
theorem OnCourse.waiting (onCourse : thread.OnCourse manner goal state) (waits : thread.IsWaiting)
    (still : next.IsWaiting) (step : Step outside thread state next later) :
    later = state ∨ manner.waiting state later := by
  cases step with
  | fallsAsleep => exact .inl rfl
  | watched watches =>
    obtain ⟨during, attends, holds, -⟩ := onCourse
    exact .inr (attends.watched holds watches).1
  | goesOn isFree goes =>
    obtain ⟨during, attends, holds, -⟩ := onCourse
    exact .inr (attends.goesOn holds isFree goes).1
  | answered | unanswered => exact still.elim
  | act | asks | hold | letGo | watch | unwatch | release => exact waits.elim

/-- A question that is seen to can come to an answer. -/
theorem exists_answered {others : σ → σ → Prop} {question : Ask} {course last : outside.Course}
    {next : Reply question → Program σ Ask Reply α} {isAsleep : Bool} {beside : Beside σ} {after : σ}
    {reply : Reply question} (isFree : beside.IsFree isAsleep)
    (goes : Relation.ReflTransGen (outside.Goes question) (course, state) (last, later))
    (answered : outside.answers question last isAsleep later (some reply) after) :
    Reaches outside others (.waiting question course next isAsleep beside, state)
      (.awake (next reply) beside, after) := by
  let under (course : outside.Course × σ) : Thread outside α × σ :=
    (.waiting question course.1 next isAsleep beside, course.2)
  have going : Reaches outside others (under (course, state)) (under (last, later)) :=
    goes.lift under fun _ _ goes => .own (.goesOn isFree goes)
  exact going.tail (.own (.answered isFree answered))

theorem exists_end_of_fares {others : σ → σ → Prop} {program : Program σ Ask Reply α} {beside : Beside σ}
    (fares : program.Fares outside manner goal beside state) :
    ∃ value beside' last,
      Reaches outside others (.awake program beside, state) (.awake (done value) beside', last) := by
  induction program generalizing beside state with
  | done value => exact ⟨value, beside, state, .refl⟩
  | act change next ih =>
    obtain ⟨value, beside', last, rest⟩ := ih state (fares state .refl).2
    exact ⟨value, beside', last, rest.head (.own .act)⟩
  | ask question next ih =>
    obtain ⟨during, attends, begins, fares⟩ := fares
    have holds := begins state .refl
    have isFree : beside.IsFree false := nofun
    obtain ⟨course, later, reply, after, goes, answered⟩ := attends.ends holds
    have stays : during course false beside later := attends.reaches holds isFree goes
    obtain ⟨reply, rfl, -, fares⟩ := fares _ _ _ _ stays isFree _ _ answered
    obtain ⟨value, beside', last, rest⟩ := ih reply fares
    exact ⟨value, beside', last, .head (.own .asks) ((exists_answered isFree goes answered).trans rest)⟩
  | hold release next ih =>
    obtain ⟨value, beside', last, rest⟩ := ih (fares state .refl)
    exact ⟨value, beside', last, rest.head (.own .hold)⟩
  | letGo next ih =>
    obtain ⟨value, beside', last, rest⟩ := ih (fares state .refl).2
    exact ⟨value, beside', last, rest.head (.own .letGo)⟩
  | watch period action next ih =>
    obtain ⟨value, beside', last, rest⟩ := ih (fares state .refl)
    exact ⟨value, beside', last, rest.head (.own .watch)⟩
  | unwatch next ih =>
    obtain ⟨value, beside', last, rest⟩ := ih (fares state .refl)
    exact ⟨value, beside', last, rest.head (.own .unwatch)⟩
  | breakOff => exact fares.elim

/-- **A thread on its course can come to its end at any time.** One that fell asleep over an action that
is due has it carried out first. -/
theorem OnCourse.exists_end (onCourse : thread.OnCourse manner goal state) (others : σ → σ → Prop) :
    ∃ value beside last, Reaches outside others (thread, state) (.awake (done value) beside, last) := by
  cases thread with
  | awake program beside => exact exists_end_of_fares onCourse
  | waiting question course next isAsleep beside =>
    obtain ⟨during, attends, holds, fares⟩ := onCourse
    have free {beside : Beside σ} {state : σ} (holds : during course isAsleep beside state)
        (isFree : beside.IsFree isAsleep) : ∃ value beside' last,
          Reaches outside others (.waiting question course next isAsleep beside, state)
            (.awake (done value) beside', last) := by
      obtain ⟨last, later, reply, after, goes, answered⟩ := attends.ends holds
      have stays := attends.reaches holds isFree goes
      obtain ⟨reply, rfl, -, fares⟩ := fares _ _ _ _ stays isFree _ _ answered
      obtain ⟨value, beside', last, rest⟩ := exists_end_of_fares fares
      exact ⟨value, beside', last, (exists_answered isFree goes answered).trans rest⟩
    cases isAsleep with
    | false => exact free holds nofun
    | true =>
      obtain ⟨held, watch⟩ := beside
      cases watch with
      | nothing | again => exact free holds fun _ => rfl
      | due action =>
        obtain ⟨-, carriedOut⟩ := attends.watched holds rfl
        obtain ⟨value, beside', last, rest⟩ := free carriedOut fun _ => rfl
        exact ⟨value, beside', last, rest.head (.own (.watched rfl))⟩

end Thread

/-- **A program that fares well comes to its goal**: however it has run so far, it can still come to its
end, and when it has ended, it was with a result, in a state as it should be, and nothing is held any
more. -/
structure FaresWell (outside : Outside σ Ask Reply) (others : σ → σ → Prop) (goal : α → σ → Prop)
    (program : Program σ Ask Reply α) (state : σ) : Prop where
  goesOn : ∀ thread later, Thread.Reaches outside others (.awake program {}, state) (thread, later) →
    ∃ value beside last, Thread.Reaches outside others (thread, later) (.awake (done value) beside, last)
  ends : ∀ program' beside later, program'.IsOver →
    Thread.Reaches outside others (.awake program {}, state) (.awake program' beside, later) →
    beside.held = [] ∧ ∃ value, program' = done value ∧ goal value later

theorem fares_well {outside : Outside σ Ask Reply} {others : σ → σ → Prop} {goal : α → σ → Prop}
    {program : Program σ Ask Reply α} {state : σ}
    (fares : program.Fares outside { rely := others }
      (fun value beside later => beside.held = [] ∧ goal value later) {} state) :
    FaresWell outside others goal program state := by
  have onCourse (thread : Thread outside α) (later : σ)
      (reached : Thread.Reaches outside others (.awake program {}, state) (thread, later)) :
      thread.OnCourse { rely := others } (fun value beside later => beside.held = [] ∧ goal value later) later := by
    generalize same : (thread, later) = last at reached
    induction reached generalizing thread later with
    | refl =>
      cases same
      exact fares
    | tail _ move ih =>
      cases move with
      | own step =>
        cases same
        exact ((ih _ _ rfl).step (fun _ _ _ reached => reached.1) step).2
      | others changed =>
        cases same
        exact (ih _ _ rfl).others changed
  refine ⟨fun thread later reached => (onCourse thread later reached).exists_end others,
    fun program' beside later isOver reached => ?_⟩
  have fares := onCourse _ later reached
  cases program' with
  | done value => exact ⟨(fares later .refl).1, value, rfl, (fares later .refl).2⟩
  | breakOff => exact fares.elim
  | act | ask | hold | letGo | watch | unwatch => exact isOver.elim

end StreamWatch.Program
