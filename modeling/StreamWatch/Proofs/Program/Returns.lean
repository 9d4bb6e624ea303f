/-
**What a program can end with.**

Which result a program ends with is a matter of what it is answered and of the states it looks at. When all of these
states are of a kind, and each way to go on from them leads to a result of a kind, no run of the program ends with
another one, whoever runs beside it.

* `Returns`: whether whatever a program ends with is of a kind;
* `Returns.bind`, `returns_after`, `Returns.zoom`: how that is shown;
* `Thread.Returns.step`, `Thread.Returns.reaches`: one step of a thread, and a whole run.
-/

import StreamWatch.Proofs.Program.Frame

namespace StreamWatch.Program

variable {σ τ κ Ask : Type} {Reply : Ask → Type} {α β : Type} {seen : σ → Prop} {ends : α → Prop}

/-! ### Programs -/

/-- Whether whatever a program ends with is of a kind, when the states that it looks at are of a kind. -/
def Returns (seen : σ → Prop) (ends : α → Prop) : Program σ Ask Reply α → Prop
  | done value => ends value
  | act _ next => ∀ before, seen before → (next before).Returns seen ends
  | ask _ next => ∀ reply, (next reply).Returns seen ends
  | hold _ next => next.Returns seen ends
  | letGo next => next.Returns seen ends
  | watch _ _ next => next.Returns seen ends
  | unwatch next => next.Returns seen ends
  | breakOff => True

theorem returns_done {value : α} (holds : ends value) : (done value : Program σ Ask Reply α).Returns seen ends := holds

theorem returns_look (f : σ → α) (holds : ∀ state, seen state → ends (f state)) :
    (look f : Program σ Ask Reply α).Returns seen ends := holds

theorem Returns.bind {first : Program σ Ask Reply α} {next : α → Program σ Ask Reply β} {goal : β → Prop}
    (returns : first.Returns seen ends) (later : ∀ value, ends value → (next value).Returns seen goal) :
    (first >>= next).Returns seen goal := by
  show (first.bind next).Returns seen goal
  induction first with
  | done value => exact later value returns
  | act change rest ih => exact fun before held => ih before (returns before held)
  | ask question rest ih => exact fun reply => ih reply (returns reply)
  | hold release rest ih => exact ih returns
  | letGo rest ih => exact ih returns
  | watch period action rest ih => exact ih returns
  | unwatch rest ih => exact ih returns
  | breakOff => trivial

/-- Any program ends with something, if it ends at all. -/
theorem returns_trivial (program : Program σ Ask Reply α) : program.Returns seen fun _ => True := by
  induction program with
  | done value => trivial
  | act change rest ih => exact fun before _ => ih before
  | ask question rest ih => exact ih
  | hold release rest ih => exact ih
  | letGo rest ih => exact ih
  | watch period action rest ih => exact ih
  | unwatch rest ih => exact ih
  | breakOff => trivial

/-- What comes last says what a program ends with. -/
theorem returns_after (first : Program σ Ask Reply α) {next : α → Program σ Ask Reply β} {goal : β → Prop}
    (later : ∀ value, (next value).Returns seen goal) : (first >>= next).Returns seen goal :=
  (returns_trivial first).bind fun value _ => later value

/-- A program ends with the same where it runs over a part of a state. -/
theorem Returns.zoom {get : τ → σ} {put : σ → τ → τ} {program : Program σ Ask Reply α}
    (returns : program.Returns seen ends) {whole : τ → Prop} (part : ∀ state, whole state → seen (get state)) :
    (program.zoom get put).Returns whole ends := by
  induction program with
  | done value => exact returns
  | act change rest ih => exact fun before held => ih _ (returns _ (part before held))
  | ask question rest ih => exact fun reply => ih reply (returns reply)
  | hold release rest ih => exact ih returns
  | letGo rest ih => exact ih returns
  | watch period action rest ih => exact ih returns
  | unwatch rest ih => exact ih returns
  | breakOff => trivial

/-! ### Threads -/

variable {outside : Outside σ Ask Reply}

/-- Whether whatever a thread ends with is of a kind. -/
def Thread.Returns (seen : σ → Prop) (ends : α → Prop) : Thread outside α → Prop
  | awake program _ => program.Returns seen ends
  | waiting _ _ next _ _ => ∀ reply, (next reply).Returns seen ends

theorem Thread.Returns.step {thread next : Thread outside α} {state later : σ} (returns : thread.Returns seen ends)
    (held : seen state) (step : Thread.Step outside thread state next later) : next.Returns seen ends := by
  cases step with
  | act => exact returns _ held
  | answered => exact returns _
  | unanswered => trivial
  | asks | fallsAsleep | watched | goesOn | hold | letGo | watch | unwatch | release => exact returns

/-- Whether the outside leaves alone what is kept of the state. -/
structure Outside.Leaves (keep : σ → κ) (outside : Outside σ Ask Reply) : Prop where
  goesOn : ∀ question course state next later, outside.goesOn question course state next later → keep later = keep state
  answers : ∀ question course isAsleep state reply after,
    outside.answers question course isAsleep state reply after → keep after = keep state

/-- **What a thread can end with it ends with** in every run, when what it looks at is not changed by the thread itself
and the outside, and kept of its kind by others. -/
theorem Thread.Returns.reaches {keep : σ → κ} {good : κ → Prop} {others : σ → σ → Prop} {thread last : Thread outside α}
    {state later : σ} (leaves : outside.Leaves keep)
    (kept : ∀ state later, others state later → good (keep state) → good (keep later))
    (returns : thread.Returns (fun state => good (keep state)) ends) (own : thread.Leaves keep)
    (held : good (keep state)) (reached : Thread.Reaches outside others (thread, state) (last, later)) :
    last.Returns (fun state => good (keep state)) ends := by
  suffices whole : last.Returns (fun state => good (keep state)) ends ∧ last.Leaves keep ∧ good (keep later) from whole.1
  generalize same : (last, later) = outcome at reached
  induction reached generalizing last later with
  | refl =>
    cases same
    exact ⟨returns, own, held⟩
  | tail _ move ih =>
    subst same
    cases move with
    | own step =>
      obtain ⟨returns, own, held⟩ := ih rfl
      obtain ⟨own', same⟩ := own.step leaves.goesOn leaves.answers step
      exact ⟨returns.step held step, own', by rwa [same]⟩
    | others changed =>
      obtain ⟨returns, own, held⟩ := ih rfl
      exact ⟨returns, own, kept _ _ changed held⟩

end StreamWatch.Program
