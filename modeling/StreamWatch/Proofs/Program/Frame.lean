/-
**What a program never touches.**

A program over a part of a state leaves the rest of it alone, at every one of its actions and in
whatever it holds or watches. That is a matter of the program only, not of what it is answered or of
who runs beside it.

* `leaves_zoom`: a program over a part leaves alone whatever writing the part does;
* `leaves_zoom_of_leaves`: what it leaves alone of the part it leaves alone of the whole;
* `keep_alone`: a program that leaves something alone has not changed it when it comes to its end;
* `Thread.Leaves.step`: a thread that leaves something alone has not changed it after a step.
-/

import StreamWatch.Proofs.Program.Thread

namespace StreamWatch.Program

variable {σ τ κ Ask : Type} {Reply : Ask → Type} {α β : Type} {keep : σ → κ}

/-! ### Programs -/

/-- Whether a program leaves what is kept of the state as it is. -/
def Leaves (keep : σ → κ) : Program σ Ask Reply α → Prop
  | done _ => True
  | act change next => (∀ state, keep (change state) = keep state) ∧ ∀ before, (next before).Leaves keep
  | ask _ next => ∀ reply, (next reply).Leaves keep
  | hold release next => (∀ state, keep (release state) = keep state) ∧ next.Leaves keep
  | letGo next => next.Leaves keep
  | watch _ action next => (∀ state, keep (action state) = keep state) ∧ next.Leaves keep
  | unwatch next => next.Leaves keep
  | breakOff => True

theorem leaves_done (keep : σ → κ) (value : α) :
    (done value : Program σ Ask Reply α).Leaves keep := trivial

theorem leaves_look (keep : σ → κ) (f : σ → α) : (look f : Program σ Ask Reply α).Leaves keep :=
  ⟨fun _ => rfl, fun _ => trivial⟩

theorem leaves_get (keep : σ → κ) (question : Ask) :
    (get question : Program σ Ask Reply (Reply question)).Leaves keep :=
  fun _ => trivial

theorem leaves_bind {first : Program σ Ask Reply α} {next : α → Program σ Ask Reply β}
    (leaves : first.Leaves keep) (later : ∀ value, (next value).Leaves keep) :
    (first >>= next).Leaves keep := by
  show (first.bind next).Leaves keep
  induction first with
  | done value => exact later value
  | act change rest ih => exact ⟨leaves.1, fun before => ih before (leaves.2 before)⟩
  | ask question rest ih => exact fun reply => ih reply (leaves reply)
  | hold release rest ih => exact ⟨leaves.1, ih leaves.2⟩
  | letGo rest ih => exact ih leaves
  | watch period action rest ih => exact ⟨leaves.1, ih leaves.2⟩
  | unwatch rest ih => exact ih leaves
  | breakOff => trivial

/-- A program over a part of a state leaves alone whatever is not changed by writing that part. -/
theorem leaves_zoom {get : σ → τ} {put : τ → σ → σ}
    (untouched : ∀ part state, keep (put part state) = keep state)
    (program : Program τ Ask Reply α) : (program.zoom get put).Leaves keep := by
  induction program with
  | done value => trivial
  | act change rest ih => exact ⟨fun _ => untouched _ _, fun before => ih (get before)⟩
  | ask question rest ih => exact ih
  | hold release rest ih => exact ⟨fun _ => untouched _ _, ih⟩
  | letGo rest ih => exact ih
  | watch period action rest ih => exact ⟨fun _ => untouched _ _, ih⟩
  | unwatch rest ih => exact ih
  | breakOff => trivial

/-- What a program leaves alone of a part of the state it leaves alone where it runs over that part. -/
theorem leaves_zoom_of_leaves {keep : τ → κ} {get : σ → τ} {put : τ → σ → σ}
    (puts : ∀ part state, get (put part state) = part) {program : Program τ Ask Reply α}
    (leaves : program.Leaves keep) : (program.zoom get put).Leaves fun state => keep (get state) := by
  have same (part : τ → τ) (kept : ∀ state, keep (part state) = keep state) (state : σ) :
      keep (get (put (part (get state)) state)) = keep (get state) := by
    rw [puts]
    exact kept (get state)
  induction program with
  | done value => trivial
  | act change rest ih => exact ⟨same change leaves.1, fun before => ih (get before) (leaves.2 _)⟩
  | ask question rest ih => exact fun reply => ih reply (leaves reply)
  | hold release rest ih => exact ⟨same release leaves.1, ih leaves.2⟩
  | letGo rest ih => exact ih leaves
  | watch period action rest ih => exact ⟨same action leaves.1, ih leaves.2⟩
  | unwatch rest ih => exact ih leaves
  | breakOff => trivial

/-- What a program leaves alone is at its end as it was at its begin, when those who answer leave it
alone too. -/
theorem keep_alone {program : Program σ Ask Reply α} (leaves : program.Leaves keep)
    {answer : (question : Ask) → σ → Option (Reply question) × σ}
    (answers : ∀ question state, keep (answer question state).2 = keep state) (state : σ) :
    keep (program.alone answer state).2 = keep state := by
  induction program generalizing state with
  | done value => rfl
  | act change rest ih =>
    rw [alone, ih state (leaves.2 state), leaves.1 state]
  | ask question rest ih =>
    have answered := answers question state
    rw [alone]
    split
    · next reply after same =>
      rw [same] at answered
      rw [ih reply (leaves reply), answered]
    · next after same =>
      rw [same] at answered
      exact answered
  | hold release rest ih => exact ih leaves.2 state
  | letGo rest ih => exact ih leaves state
  | watch period action rest ih => exact ih leaves.2 state
  | unwatch rest ih => exact ih leaves state
  | breakOff => rfl

/-! ### Threads -/

variable {outside : Outside σ Ask Reply}

/-- Whether what is beside a thread leaves alone what is kept of the state. -/
structure Beside.Leaves (keep : σ → κ) (beside : Beside σ) : Prop where
  held : ∀ release ∈ beside.held, ∀ state, keep (release state) = keep state
  watch : ∀ action, beside.watch.action? = some action → ∀ state, keep (action state) = keep state

/-- Whether a thread leaves alone what is kept of the state. -/
def Thread.Leaves (keep : σ → κ) : Thread outside α → Prop
  | awake program beside => program.Leaves keep ∧ beside.Leaves keep
  | waiting _ _ next _ beside => (∀ reply, (next reply).Leaves keep) ∧ beside.Leaves keep

/-- **A thread that leaves something alone** has not changed it after a step, when the outside leaves it alone too. -/
theorem Thread.Leaves.step {thread next : Thread outside α} {state later : σ} (leaves : thread.Leaves keep)
    (goes : ∀ question course state next later, outside.goesOn question course state next later →
      keep later = keep state)
    (answers : ∀ question course isAsleep state reply after,
      outside.answers question course isAsleep state reply after → keep after = keep state)
    (step : Thread.Step outside thread state next later) : next.Leaves keep ∧ keep later = keep state := by
  cases step with
  | act => exact ⟨⟨leaves.1.2 _, leaves.2⟩, leaves.1.1 _⟩
  | asks | fallsAsleep => exact ⟨leaves, rfl⟩
  | watched watches =>
    refine ⟨⟨leaves.1, leaves.2.held, fun action again => ?_⟩, leaves.2.watch _ watches _⟩
    exact leaves.2.watch action ((Watch.action?_carriedOut _).symm.trans again)
  | goesOn isFree goesOn => exact ⟨leaves, goes _ _ _ _ _ goesOn⟩
  | answered isFree answered => exact ⟨⟨leaves.1 _, leaves.2⟩, answers _ _ _ _ _ _ answered⟩
  | unanswered isFree unanswered => exact ⟨⟨trivial, leaves.2⟩, answers _ _ _ _ _ _ unanswered⟩
  | hold =>
    refine ⟨⟨leaves.1.2, fun release among => ?_, leaves.2.watch⟩, rfl⟩
    rcases List.mem_cons.mp among with rfl | earlier
    · exact leaves.1.1
    · exact leaves.2.held release earlier
  | @letGo next beside state =>
    refine ⟨⟨leaves.1, fun release among => leaves.2.held release (List.mem_of_mem_tail among), leaves.2.watch⟩, ?_⟩
    cases held : beside.held with
    | nil => rfl
    | cons release rest => exact leaves.2.held release (by rw [held]; exact List.mem_cons_self) state
  | watch =>
    refine ⟨⟨leaves.1.2, leaves.2.held, fun action watches => ?_⟩, rfl⟩
    cases watches
    exact leaves.1.1
  | unwatch => exact ⟨⟨leaves.1, leaves.2.held, nofun⟩, rfl⟩
  | release isOver =>
    refine ⟨⟨leaves.1, fun release among => leaves.2.held release (List.mem_cons_of_mem _ among), leaves.2.watch⟩, ?_⟩
    exact leaves.2.held _ List.mem_cons_self _

end StreamWatch.Program
