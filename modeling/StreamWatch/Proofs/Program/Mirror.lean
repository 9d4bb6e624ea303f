/-
**Programs over a part of a state that another state mirrors.**

What a program does on a part of a large state may be mirrored by what it does on a part of a small one: it sees
the same, what it writes looks the same, and what others do and how questions are answered in the large state looks
like what may happen in the small one. Then it fares in the large state as it does in the small one.

* `Mirrors`: whether a small state mirrors what happens in a large one;
* `Mirrors.fares`: what a program ensures over the small state it comes to over the large one.
-/

import StreamWatch.Proofs.Program.Thread

namespace StreamWatch.Program

variable {π σ τ Ask : Type} {Reply : Ask → Type} {α : Type}

/-- Whether a small state mirrors what happens in a large one, as far as it is known: to a program over a part of both,
to others, and to the questions that are asked. -/
structure Mirrors (around : Surroundings σ Ask Reply) (outside : Outside τ Ask Reply) (others : τ → τ → Prop)
    (get : σ → π) (put : π → σ → σ) (getLarge : τ → π) (putLarge : π → τ → τ) (known : τ → Prop) (view : τ → σ) :
    Prop where
  sees : ∀ state, getLarge state = get (view state)
  writes : ∀ part state, known state → known (putLarge part state) ∧ view (putLarge part state) = put part (view state)
  others : ∀ state later, others state later → known state →
    known later ∧ (view later = view state ∨ around.others (view state) (view later))
  inOneMoment : ∀ question course state later after, ¬ outside.goesOn question course state later after
  answered : ∀ question first isAsleep state, ∃ reply after,
    outside.answers question (outside.begins question first) isAsleep state reply after
  answers : ∀ question first isAsleep state reply after,
    outside.answers question (outside.begins question first) isAsleep state reply after → known state →
      known after ∧ around.answers question (view state) reply (view after)

section
variable {around : Surroundings σ Ask Reply} {outside : Outside τ Ask Reply} {others : τ → τ → Prop} {get : σ → π}
  {put : π → σ → σ} {getLarge : τ → π} {putLarge : π → τ → τ} {known : τ → Prop} {view : τ → σ}
  {goal : α → σ → Prop} {state later : τ} (mirrors : Mirrors around outside others get put getLarge putLarge known view)
include mirrors

theorem Mirrors.meanwhile (meanwhile : Relation.ReflTransGen others state later) (before : known state) :
    known later ∧ Meanwhile around (view state) (view later) := by
  induction meanwhile with
  | refl => exact ⟨before, .refl⟩
  | tail _ changed ih =>
    obtain ⟨still, same | changed⟩ := mirrors.others _ _ changed ih.1
    · exact ⟨still, by rw [same]; exact ih.2⟩
    · exact ⟨still, ih.2.tail changed⟩

/-- **A program over a part of a large state fares** as it ensures over the state that mirrors it. -/
theorem Mirrors.fares (program : Program π Ask Reply α) (before : known state)
    (ensures : (program.zoom get put).Ensures around goal (view state)) :
    (program.zoom getLarge putLarge).Fares outside { rely := others }
      (fun value beside later => beside = {} ∧ known later ∧ goal value (view later)) {} state := by
  -- both runs are at the same point of the program all the time, so that one induction goes through both
  induction program generalizing state with
  | done value =>
    intro later meanwhile
    obtain ⟨still, meanwhile⟩ := mirrors.meanwhile meanwhile before
    exact ⟨rfl, still, ensures _ meanwhile⟩
  | act change next ih =>
    intro later meanwhile
    obtain ⟨still, meanwhile⟩ := mirrors.meanwhile meanwhile before
    have rest : ((next (get (view later))).zoom get put).Ensures around goal
        (put (change (get (view later))) (view later)) := ensures _ meanwhile
    rw [← mirrors.sees later] at rest
    obtain ⟨after, same⟩ := mirrors.writes (change (getLarge later)) later still
    rw [← same] at rest
    exact ⟨trivial, ih (getLarge later) after rest⟩
  | ask question next ih =>
    have firm : Firm { rely := others } fun state =>
        known state ∧ (ask question fun reply => (next reply).zoom get put).Ensures around goal (view state) := by
      rintro seen later changed ⟨still, ensures⟩
      obtain ⟨still, same⟩ := mirrors.meanwhile (.single changed) still
      exact ⟨still, ensures.later same⟩
    refine fares_ask (firm.steady fun _ _ => trivial) ⟨rfl, before, ensures⟩ (mirrors.inOneMoment question)
      (mirrors.answered question) ?_
    rintro first isAsleep beside seen ⟨rfl, still, ensures⟩ isFree reply after answered
    obtain ⟨known, answered⟩ := mirrors.answers question first isAsleep seen reply after answered still
    obtain ⟨value, same, rest⟩ := ensures _ .refl _ _ answered
    exact ⟨value, same, trivial, ih value known rest⟩
  | hold | letGo | watch | unwatch | breakOff => exact ensures.elim

end
end StreamWatch.Program
