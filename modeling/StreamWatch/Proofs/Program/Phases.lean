/-
**Programs that go through phases.**

What is known of a state while a program runs may change with every action of the program, and some
questions are asked only while enough is known. That is told of the program alone: an action leads from
one phase into another, and each phase has its questions. Such a program holds and watches nothing.

* `phased_bind`: one program after the other;
* `phased_zoom`: a program over a part of a state.
-/

import StreamWatch.Program

namespace StreamWatch.Program

variable {σ τ κ Ask : Type} {Reply : Ask → Type} {α β : Type} {leads : κ → (σ → σ) → κ → Prop}
  {mayAsk : κ → Ask → Prop} {phase later : κ}

/-- Whether a program that is in a phase asks only what it may there, and ends as it should, when each of its
actions leads into some phase. -/
def Phased (leads : κ → (σ → σ) → κ → Prop) (mayAsk : κ → Ask → Prop) (ends : α → κ → Prop) :
    Program σ Ask Reply α → κ → Prop
  | done value, phase => ends value phase
  | act change next, phase =>
    ∃ later, leads phase change later ∧ ∀ before, (next before).Phased leads mayAsk ends later
  | ask question next, phase =>
    mayAsk phase question ∧ ∀ reply, (next reply).Phased leads mayAsk ends phase
  | hold _ _, _ | letGo _, _ | watch _ _ _, _ | unwatch _, _ | breakOff, _ => False

theorem phased_bind {ends : β → κ → Prop} {first : Program σ Ask Reply α} {next : α → Program σ Ask Reply β}
    (phased : first.Phased leads mayAsk (fun value later => (next value).Phased leads mayAsk ends later) phase) :
    (first >>= next).Phased leads mayAsk ends phase := by
  show (first.bind next).Phased leads mayAsk ends phase
  induction first generalizing phase with
  | done value => exact phased
  | act change rest ih =>
    obtain ⟨later, leads, phased⟩ := phased
    exact ⟨later, leads, fun before => ih before (phased before)⟩
  | ask question rest ih => exact ⟨phased.1, fun reply => ih reply (phased.2 reply)⟩
  | hold | letGo | watch | unwatch | breakOff => exact phased.elim

theorem phased_change {ends : α → κ → Prop} {change : σ → σ} {next : Unit → Program σ Ask Reply α}
    (into : leads phase change later) (phased : (next ⟨⟩).Phased leads mayAsk ends later) :
    (Program.change change >>= next).Phased leads mayAsk ends phase :=
  ⟨later, into, fun _ => phased⟩

theorem phased_get {question : Ask} (may : mayAsk phase question) :
    (get question : Program σ Ask Reply (Reply question)).Phased leads mayAsk (fun _ last => last = phase)
      phase :=
  ⟨may, fun _ => rfl⟩

theorem Phased.mono {ends weaker : α → κ → Prop} {program : Program σ Ask Reply α}
    (phased : program.Phased leads mayAsk ends phase)
    (weaken : ∀ value phase, ends value phase → weaker value phase) :
    program.Phased leads mayAsk weaker phase := by
  induction program generalizing phase with
  | done value => exact weaken value phase phased
  | act change rest ih =>
    obtain ⟨later, leads, phased⟩ := phased
    exact ⟨later, leads, fun before => ih before (phased before)⟩
  | ask question rest ih => exact ⟨phased.1, fun reply => ih reply (phased.2 reply)⟩
  | hold | letGo | watch | unwatch | breakOff => exact phased.elim

/-- A program over a part of a state goes through the same phases as the program over the part. -/
theorem phased_zoom {get : τ → σ} {put : σ → τ → τ} {whole : κ → (τ → τ) → κ → Prop} {ends : α → κ → Prop}
    (lifts : ∀ {phase change later}, leads phase change later →
      whole phase (fun state => put (change (get state)) state) later)
    {program : Program σ Ask Reply α} (phased : program.Phased leads mayAsk ends phase) :
    (program.zoom get put).Phased whole mayAsk ends phase := by
  induction program generalizing phase with
  | done value => exact phased
  | act change rest ih =>
    obtain ⟨later, leads, phased⟩ := phased
    exact ⟨later, lifts leads, fun before => ih (get before) (phased (get before))⟩
  | ask question rest ih => exact ⟨phased.1, fun reply => ih reply (phased.2 reply)⟩
  | hold | letGo | watch | unwatch | breakOff => exact phased.elim

end StreamWatch.Program
