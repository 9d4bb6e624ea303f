/-
**What a walk through all pages comes to.**

When every page is what it is whenever it is asked for, the walk gives what the pages hold together,
or the reason why a page cannot be had.

* `collect`: what a listing comes to by what its pages are;
* `ensures_walk`: a walk comes to that.
-/

import StreamWatch.Proofs.Program.Run
import StreamWatch.Remote.Pages

namespace StreamWatch.Pages

open Program

variable {σ τ α : Type}

/-- All items from a page on, after those of the pages before, when at most so many pages are left. -/
def collectFrom (page : Nat → Except RemoteError (Page α)) :
    (left number : Nat) → (before : List α) → Except RemoteError (List α)
  | 0, _, before => .ok before
  | left + 1, number, before =>
    match page number with
    | .error error => .error error
    | .ok batch =>
      if batch.hasNext && !batch.results.isEmpty then
        collectFrom page left (number + 1) (before ++ batch.results)
      else .ok (before ++ batch.results)

/-- All items of a listing. -/
def collect (page : Nat → Except RemoteError (Page α)) : Except RemoteError (List α) :=
  collectFrom page (maxPages + 1) 1 []

theorem zoom_walkFrom (get : σ → τ) (put : τ → σ → σ)
    (page : Nat → Work τ (Except RemoteError (Page α)))
    (left number : Nat) (before : List α) :
    (walkFrom page left number before).zoom get put =
      walkFrom (fun number => (page number).zoom get put) left number before := by
  induction left generalizing number before with
  | zero => rfl
  | succ left ih =>
    rw [walkFrom, walkFrom, zoom_bind]
    congr 1
    funext reply
    cases reply with
    | error error => rfl
    | ok batch =>
      show Program.zoom get put (if _ then _ else _) = if _ then _ else _
      split
      · exact ih (number + 1) _
      · rfl

section
variable {around : Surroundings σ Ask Ask.Reply} {ask : Nat → Work σ (Except RemoteError (Page α))}
  {page : Nat → Except RemoteError (Page α)} {holds : σ → Prop}

theorem ensures_walkFrom (stable : Stable around holds)
    (asked : ∀ number state, holds state →
      (ask number).Ensures around (fun reply later => reply = page number ∧ holds later) state)
    (left number : Nat) (before : List α) {state : σ} (begun : holds state) :
    (walkFrom ask left number before).Ensures around
      (fun reply later => reply = collectFrom page left number before ∧ holds later) state := by
  induction left generalizing number before state with
  | zero => exact ensures_done ((stable_const _).and stable) ⟨rfl, begun⟩
  | succ left ih =>
    refine ensures_bind ((asked number state begun).mono ?_)
    rintro reply later ⟨rfl, held⟩
    rw [collectFrom]
    cases page number with
    | error error => exact ensures_done ((stable_const _).and stable) ⟨rfl, held⟩
    | ok batch =>
      by_cases more : (batch.hasNext && !batch.results.isEmpty) = true
      · simp only [more, if_true]
        exact ih (number + 1) _ held
      · simp only [more]
        exact ensures_done ((stable_const _).and stable) ⟨rfl, held⟩

/-- **A walk comes to what its pages are**, as long as every page is what it is whenever it is asked
for. -/
theorem ensures_walk (stable : Stable around holds)
    (asked : ∀ number state, holds state →
      (ask number).Ensures around (fun reply later => reply = page number ∧ holds later) state)
    {state : σ} (begun : holds state) :
    (walk ask).Ensures around (fun reply later => reply = collect page ∧ holds later) state :=
  ensures_walkFrom stable asked (maxPages + 1) 1 [] begun

end
end StreamWatch.Pages
