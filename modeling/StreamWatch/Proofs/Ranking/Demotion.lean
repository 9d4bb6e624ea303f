/-
**Where unhealthy candidates stand.**

Sorting puts the unhealthy candidates of every provider behind its healthy ones, and nothing later
changes the order within a share. But mixing goes by the places in shares alone: a provider whose
candidates are all unhealthy takes its turns as early as any other.

* `healthyFirst_of_not_mixes`: without mixing the healthy candidates stand first;
* `pairwise_places_rounds`: in rounds everyone stands by the place in the own share;
* `rank_healthyFirst`: how far the healthy ones stand first in a lineup;
* `not_forall_rank_healthyFirst`: that this goes no further.
-/

import Mathlib
import StreamWatch.Proofs.Ranking.Lineup

namespace StreamWatch

open Candidate LimitSettings Mixing

namespace Candidate

/-- Whether no unhealthy candidate stands before a healthy one. -/
def HealthyFirst (candidates : List Candidate) : Prop :=
  candidates.Pairwise fun a b => a.isUnhealthy = true → b.isUnhealthy = true

instance (candidates : List Candidate) : Decidable (HealthyFirst candidates) :=
  inferInstanceAs (Decidable (candidates.Pairwise _))

/-- Nobody unhealthy ranks before a healthy one, where health counts. -/
theorem isUnhealthy_of_ranksBefore {criteria : List Criterion} {providers : Providers} {a b : Candidate}
    (before : ranksBefore criteria true providers a b = true) (unhealthy : a.isUnhealthy = true) :
    b.isUnhealthy = true := by
  by_contra healthy
  rw [Bool.not_eq_true] at healthy
  have behind : compareHealth a b = .gt := by rw [compareHealth, unhealthy, healthy]; rfl
  have later : compareRank criteria true providers a b = .gt := by
    rw [compareRank, if_pos rfl, behind, Ordering.gt_then]
  rw [ranksBefore, later] at before
  exact absurd before Bool.false_ne_true

end Candidate

namespace RankingSettings

variable {settings : RankingSettings} {candidates : List Candidate}

theorem InOrder.healthyFirst (inOrder : settings.InOrder candidates)
    (sorts : settings.sortByQuality = true) (demotes : settings.demoteUnhealthy = true) :
    HealthyFirst candidates := by
  refine (inOrder sorts).imp fun before => ?_
  rw [demotes] at before
  exact isUnhealthy_of_ranksBefore before

/-! ### Rounds -/

theorem provider_of_mem_places {before list : List Candidate} {place : Candidate × Nat}
    (member : place ∈ places before list) : place.1 ∈ list := by
  have named : place.1 ∈ (places before list).map (·.1) := List.mem_map_of_mem member
  rwa [places_map_fst] at named

/-- Whoever takes a turn later has no lower place, and those without a provider take none before. -/
theorem pairwise_places_rounds {owners : List Int} {queue : Int → List Candidate} (owned : Owned queue)
    (nodup : owners.Nodup) (count : Nat) {unassigned : List Candidate}
    (free : ∀ c ∈ unassigned, c.provider = none) :
    (places [] (rounds count (owners.map queue) ++ unassigned)).Pairwise fun first second =>
      second.1.provider ≠ none → first.1.provider ≠ none ∧ first.2 ≤ second.2 := by
  have early : ∀ first ∈ places [] (rounds count (owners.map queue)), first.1.provider ≠ none :=
    fun first member => provider_ne_none_of_mem_rounds owned (provider_of_mem_places member)
  have late : ∀ before, ∀ second ∈ places before unassigned, second.1.provider = none :=
    fun before second member => free second.1 (provider_of_mem_places member)
  have turns : (places [] (rounds count (owners.map queue))).Pairwise fun first second =>
      first.2 ≤ second.2 := by
    rw [places_rounds owned nodup, List.pairwise_flatMap]
    constructor
    · intro round _
      rw [List.pairwise_map]
      exact List.pairwise_of_forall fun _ _ => Nat.le_refl round
    · refine List.pairwise_lt_range.imp fun {earlier later} less first inFirst second inSecond => ?_
      obtain ⟨_, _, rfl⟩ := List.mem_map.mp inFirst
      obtain ⟨_, _, rfl⟩ := List.mem_map.mp inSecond
      exact Nat.le_of_lt less
  rw [places_append, List.pairwise_append]
  refine ⟨turns.imp_of_mem fun inFirst _ ordered _ => ⟨early _ inFirst, ordered⟩, ?_, ?_⟩
  · exact List.pairwise_of_forall_mem_list fun first _ second inSecond assigned =>
      absurd (late _ second inSecond) assigned
  · exact fun first _ second inSecond assigned => absurd (late _ second inSecond) assigned

/-! ### Lineups -/

theorem healthyFirst_of_not_mixes (sorts : settings.sortByQuality = true)
    (demotes : settings.demoteUnhealthy = true)
    (alone : ¬ settings.mixing.Mixes (settings.sorted candidates)) :
    HealthyFirst (settings.rank candidates).1 := by
  have part : (settings.rank candidates).1.Sublist (settings.sorted candidates) := by
    rw [rank_eq, mixed, apply_of_not_mixes alone]
    exact kept_sublist _ _ _
  exact ((settings.inOrder_sorted candidates).sublist part).healthyFirst sorts demotes

/-- **Unhealthy candidates in a lineup.** They stand behind the healthy ones of their own provider, and
behind all where providers are not mixed. One that stands before a healthy candidate of another
provider is no further down in its own share than that one, or that one has no provider. -/
theorem rank_healthyFirst (sorts : settings.sortByQuality = true)
    (demotes : settings.demoteUnhealthy = true) (candidates : List Candidate) :
    (¬ settings.mixing.Mixes (settings.sorted candidates) →
        HealthyFirst (settings.rank candidates).1) ∧
      (∀ provider, HealthyFirst (share provider (settings.rank candidates).1)) ∧
      ∀ before a between b after, (settings.rank candidates).1 = (before ++ a :: between) ++ b :: after →
        a.isUnhealthy = true → b.isUnhealthy = false →
        a.provider ≠ none ∧ a.provider ≠ b.provider ∧
          (b.provider ≠ none →
            (share a.provider before).length ≤ (share b.provider (before ++ a :: between)).length) := by
  have shares : ∀ provider, HealthyFirst (share provider (settings.rank candidates).1) :=
    fun provider => (settings.inOrder_share_rank_kept candidates provider).healthyFirst sorts demotes
  refine ⟨healthyFirst_of_not_mixes sorts demotes, shares, ?_⟩
  intro before a between b after ranked unhealthy healthy
  have apart : a.provider ≠ b.provider := by
    intro same
    have own := shares b.provider
    rw [ranked, share_append, share_append, share_cons, if_pos same, share_cons, if_pos rfl,
      HealthyFirst, List.pairwise_append] at own
    have sick := own.2.2 a (by simp) b (by simp) unhealthy
    rw [healthy] at sick
    exact nomatch sick
  by_cases mixes : settings.mixing.Mixes (settings.sorted candidates)
  · have owned : Owned fun provider =>
        trim (settings.allowance provider) (share (some provider) (settings.sorted candidates)) :=
      fun provider c member => (mem_share.mp ((trim_sublist _ _).subset member)).2
    have free : ∀ c ∈ share none (settings.sorted candidates), c.provider = none :=
      fun c member => (mem_share.mp member).2
    have ordered := pairwise_places_rounds owned
      (turnOrder_nodup settings.mixing settings.providers (settings.sorted candidates))
      (settings.sorted candidates).length free
    rw [← settings.rank_kept_eq_rounds mixes, ranked, places_append, places_append,
      List.pairwise_append] at ordered
    have turns := ordered.2.2 (a, (share a.provider before).length) (by simp [places])
      (b, (share b.provider (before ++ a :: between)).length) (by simp [places])
    refine ⟨fun unowned => ?_, apart, fun assigned => (turns assigned).2⟩
    by_cases assigned : b.provider = none
    · exact apart (unowned.trans assigned.symm)
    · exact (turns assigned).1 unowned
  · have first := healthyFirst_of_not_mixes sorts demotes mixes
    rw [ranked, HealthyFirst, List.pairwise_append] at first
    have sick := first.2.2 a (by simp) b (by simp) unhealthy
    rw [healthy] at sick
    exact nomatch sick

/-! ### Across providers -/

/-- Settings that put unhealthy candidates last and mix providers. -/
def mixedDemotion : RankingSettings := { demoteUnhealthy := true, mixing := .roundRobin }

/-- A stream that fails and one that does not, from different providers. -/
def failedAndFine : List Candidate :=
  [{ streamId := 1, provider := some 1, status := some .failed },
    { streamId := 2, provider := some 2, status := some .success }]

theorem rank_failedAndFine : (mixedDemotion.rank failedAndFine).1 = failedAndFine := by cbv

/-- The stream that fails stands first: it is the first of its provider, as the other one is of its
own. -/
theorem rank_healthyFirst_of_failedAndFine :
    (∀ provider, HealthyFirst (share provider (mixedDemotion.rank failedAndFine).1)) ∧
      ∃ a b, (mixedDemotion.rank failedAndFine).1 = ([] ++ a :: []) ++ b :: [] ∧
        a.isUnhealthy = true ∧ b.isUnhealthy = false ∧ a.provider ≠ b.provider ∧
        (share a.provider []).length ≤ (share b.provider [a]).length := by
  obtain ⟨-, shares, turns⟩ := @rank_healthyFirst mixedDemotion rfl rfl failedAndFine
  let a : Candidate := { streamId := 1, provider := some 1, status := some .failed }
  let b : Candidate := { streamId := 2, provider := some 2, status := some .success }
  have ranked : (mixedDemotion.rank failedAndFine).1 = ([] ++ a :: []) ++ b :: [] := rank_failedAndFine
  obtain ⟨-, apart, early⟩ := turns [] a [] b [] ranked rfl rfl
  exact ⟨shares, a, b, ranked, rfl, rfl, apart, early (Option.some_ne_none 2)⟩

/-- **Not all healthy candidates stand first** in a lineup. -/
theorem not_forall_rank_healthyFirst :
    ¬ ∀ (settings : RankingSettings) (candidates : List Candidate), settings.sortByQuality = true →
      settings.demoteUnhealthy = true → HealthyFirst (settings.rank candidates).1 := by
  intro all
  have first := all mixedDemotion failedAndFine rfl rfl
  rw [rank_failedAndFine] at first
  exact absurd first (by decide)

end RankingSettings
end StreamWatch
