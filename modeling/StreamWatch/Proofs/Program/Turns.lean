/-
**Whose turn it is in a company.**

A member of a company whose turn has not come has done nothing yet, and no more members are under way
than there is room for.

* `InTurn`: a company whose members keep to their pact, those included whose turn has not come;
* `InTurn.step`, `InTurn.withState`: it stays so, whatever members and others do;
* `InTurn.length_le`: what is true only of members under way is true of no more than there is room for.
-/

import StreamWatch.Proofs.Program.Company

namespace StreamWatch.Program.Company

variable {ι σ Ask : Type} {Reply : Ask → Type} {α : Type} {venue : Venue ι σ Ask Reply}
  {rely own : ι → σ → σ → Prop} {goal : ι → α → σ → Prop} {fresh : ι → σ → Prop} {all : List ι}
  {company next : Company ι σ Ask Reply α}

/-- The company over another state. -/
def withState (state : σ) (company : Company ι σ Ask Reply α) : Company ι σ Ask Reply α :=
  { company with state }

/-- Members keep to their pact over a state that came about as they rely on. -/
theorem Keeps.withState (keeps : Keeps venue rely own goal company) {later : σ}
    (relied : ∀ label, rely label company.state later) :
    Keeps venue rely own goal (company.withState later) where
  distinct := keeps.distinct
  ensures member known := (keeps.ensures member known).later (.single (relied member.1))
  within := keeps.within

/-- Whether the members of a company keep to their pact, one for each of some labels, whether those whose
turn has not come are as fresh as they should be, and whether no more are under way than there is room
for. -/
structure InTurn (venue : Venue ι σ Ask Reply) (rely own : ι → σ → σ → Prop) (goal : ι → α → σ → Prop)
    (fresh : ι → σ → Prop) (all : List ι) (company : Company ι σ Ask Reply α) : Prop where
  keeps : Keeps venue rely own goal company
  everyone : (company.members.map (·.1)).Perm all
  fresh : ∀ member ∈ company.waiting, fresh member.1 company.state
  room : company.begun.length ≤ venue.limit

namespace InTurn

variable (inTurn : InTurn venue rely own goal fresh all company)
include inTurn

theorem withState {later : σ} (relied : ∀ label, rely label company.state later)
    (kept : ∀ label, fresh label company.state → fresh label later) :
    InTurn venue rely own goal fresh all (company.withState later) where
  keeps := inTurn.keeps.withState relied
  everyone := inTurn.everyone
  fresh member known := kept member.1 (inTurn.fresh member known)
  room := inTurn.room

/-- **One step keeps everyone in turn**, and is a step of somebody who may take it. -/
theorem step (pact : Pact venue rely own)
    (kept : ∀ label state later, rely label state later → fresh label state → fresh label later)
    (step : Step venue company next) :
    InTurn venue rely own goal fresh all next ∧
      (next.state = company.state ∨ venue.others company.state next.state ∨
        ∃ label, own label company.state next.state) := by
  obtain ⟨keeps, everyone, inOrder, room⟩ := inTurn
  obtain ⟨keepsOn, labels, moved⟩ := keeps.step pact step
  refine ⟨⟨keepsOn, labels.trans everyone, fun member known => ?_, ?_⟩, moved⟩
  · cases step with
    | others changed => exact kept _ _ _ (pact.others member.1 _ _ changed) (inOrder member known)
    | begins => exact inOrder member (List.mem_cons_of_mem _ known)
    | @goesOn waiting before after ended label program rest state later step =>
      have acting : (label, program) ∈ members ⟨waiting, before ++ (label, program) :: after, ended, state⟩ := by
        simp [members]
      have other : label ≠ member.1 := by
        have distinct := keeps.distinct
        rw [members, List.append_assoc, List.append_assoc, List.cons_append, List.map_append,
          List.nodup_append'] at distinct
        rintro rfl
        exact distinct.2.2 (List.mem_map_of_mem known) (by simp)
      obtain ⟨-, -, acts | changed⟩ :=
        (keeps.ensures _ acting).step (keeps.within _ acting) (pact.others label) step
      · exact kept _ _ _ (pact.apart label member.1 other _ _ acts) (inOrder member known)
      · exact kept _ _ _ (pact.others member.1 _ _ changed) (inOrder member known)
    | ends => exact inOrder member known
  · cases step with
    | others => exact room
    | begins free =>
      rw [List.length_append]
      exact free
    | goesOn => simpa using room
    | ends =>
      simp only [List.length_append, List.length_cons] at room ⊢
      omega

/-- What is true of nobody whose turn has not come, and of nobody who has ended, is true of no more than
there is room for. -/
theorem length_le {under : List ι} (distinct : under.Nodup) (known : ∀ label ∈ under, label ∈ all)
    (stale : ∀ label ∈ under, ¬ fresh label company.state)
    (unended : ∀ label ∈ under, ∀ value, ¬ goal label value company.state) :
    under.length ≤ venue.limit := by
  refine Nat.le_trans ?_ inTurn.room
  rw [← List.length_map Prod.fst]
  refine (List.subperm_of_subset distinct fun label among => ?_).length_le
  obtain ⟨member, there, rfl⟩ := List.mem_map.mp (inTurn.everyone.mem_iff.mpr (known label among))
  rcases List.mem_append.mp there with there | there
  · rcases List.mem_append.mp there with waits | begun
    · exact absurd (inTurn.fresh member waits) (stale _ among)
    · exact List.mem_map_of_mem begun
  · obtain ⟨result, ended, rfl⟩ := List.mem_map.mp there
    exact absurd (inTurn.keeps.goal_of_ended ended) (unended _ among _)

end InTurn
end StreamWatch.Program.Company
