/-
**How a mixed lineup spreads providers.**

In every round each provider with a candidate left takes one turn, and whoever has none left takes no
turn later. So when two neighbours are of one provider, the first ends a round and the second begins
the next, and nobody else has a turn from there on. Limits only end the turns of a provider earlier.

* `sole_of_twice`: an item twice in a row, in rounds that dwindle, is alone from there on;
* `map_provider_round`: who takes a turn in a round;
* `rank_spreads`: what follows for lineups.
-/

import Mathlib
import StreamWatch.Proofs.Ranking.Lineup

namespace StreamWatch

open Candidate LimitSettings Mixing

namespace Mixing

/-! ### Rounds that dwindle -/

section Rows

variable {α : Type} {rows : Nat → List α} {a : α}

/-- Nothing follows the first item of a part that begins with the last item of the whole. -/
theorem eq_nil_of_sublist_concat {front after : List α} (nodup : (front ++ [a]).Nodup)
    (part : (a :: after).Sublist (front ++ [a])) : after = [] := by
  induction front with
  | nil => exact List.sublist_nil.mp (List.cons_sublist_cons.mp part)
  | cons b front ih =>
    obtain ⟨notAgain, distinct⟩ := List.nodup_cons.mp nodup
    cases part with
    | cons _ part => exact ih distinct part
    | cons_cons _ part => exact absurd (List.mem_append_right front (List.mem_singleton_self a)) notAgain

/-- Whoever ends the rounds so far and begins the next one is alone in that. -/
theorem eq_nil_of_ends_and_begins (nodup : ∀ round, (rows round).Nodup)
    (dwindles : ∀ round, (rows (round + 1)).Sublist (rows round)) {count : Nat}
    {before after : List α} (ends : (List.range count).flatMap rows = before ++ [a])
    (begins : rows count = a :: after) : after = [] := by
  cases count with
  | zero => simp at ends
  | succ count =>
    have part := dwindles count
    rw [begins] at part
    rcases List.eq_nil_or_concat (rows count) with empty | ⟨front, b, row⟩
    · rw [empty] at part
      exact nomatch List.sublist_nil.mp part
    · rw [List.range_succ, List.flatMap_append, List.flatMap_singleton, row, List.concat_eq_append,
        ← List.append_assoc] at ends
      obtain ⟨-, last⟩ := List.append_inj' ends rfl
      obtain rfl := List.singleton_inj.mp last
      rw [row, List.concat_eq_append] at part
      exact eq_nil_of_sublist_concat (List.concat_eq_append ▸ row ▸ nodup count) part

/-- **Who is twice in a row is alone from there on**, in this round and in all later ones, when nobody
is twice in a round and every round is a part of the one before it. -/
theorem sole_of_twice (nodup : ∀ round, (rows round).Nodup)
    (dwindles : ∀ round, (rows (round + 1)).Sublist (rows round)) {count : Nat}
    {before after : List α} (twice : (List.range count).flatMap rows = before ++ a :: a :: after) :
    (∀ c ∈ after, c = a) ∧ ∀ c ∈ rows count, c = a := by
  induction count generalizing after with
  | zero => simp at twice
  | succ count ih =>
    rw [List.range_succ, List.flatMap_append, List.flatMap_singleton] at twice
    rcases List.append_eq_append_iff.mp twice with ⟨rest, -, row⟩ | ⟨late, earlier, tail⟩
    · -- Both are in the last round, which holds nobody twice.
      have distinct := nodup count
      rw [row] at distinct
      exact absurd distinct (by simp [List.nodup_append])
    · cases late with
      | nil =>
        have distinct := nodup count
        rw [← List.nil_append (rows count), ← tail] at distinct
        exact absurd distinct (by simp)
      | cons b late =>
        cases late with
        | nil =>
          -- The first ends the rounds before the last one, and the second begins that.
          obtain ⟨rfl, begins⟩ := List.cons.inj tail
          obtain rfl := eq_nil_of_ends_and_begins nodup dwindles earlier begins.symm
          refine ⟨fun _ member => absurd member List.not_mem_nil, fun c member => ?_⟩
          have stays := (dwindles count).subset member
          rw [show rows count = [a] from begins.symm] at stays
          exact List.mem_singleton.mp stays
        | cons d late =>
          -- Both are in the rounds before the last one.
          simp only [List.cons_append, List.cons.injEq] at tail
          obtain ⟨rfl, rfl, rfl⟩ := tail
          obtain ⟨alone, last⟩ := ih earlier
          refine ⟨fun c member => ?_, fun c member => last c ((dwindles count).subset member)⟩
          rcases List.mem_append.mp member with inLate | inLast
          · exact alone c inLate
          · exact last c inLast

end Rows

/-! ### Turns -/

/-- **Whoever has a candidate left takes one turn in a round**, in the order of turns. -/
theorem map_provider_round {queue : Int → List Candidate} (owned : Owned queue) (owners : List Int)
    (round : Nat) :
    (owners.filterMap fun owner => (queue owner)[round]?).map (·.provider) =
      (owners.filter fun owner => round < (queue owner).length).map some := by
  induction owners with
  | nil => rfl
  | cons owner rest ih =>
    rw [List.filterMap_cons]
    cases found : (queue owner)[round]? with
    | none =>
      have done := List.getElem?_eq_none_iff.mp found
      rw [List.filter_cons_of_neg (by simpa using done)]
      exact ih
    | some c =>
      obtain ⟨inQueue, -⟩ := List.getElem?_eq_some_iff.mp found
      rw [List.filter_cons_of_pos (by simpa using inQueue), List.map_cons, List.map_cons, ih,
        owned owner c (List.mem_of_getElem? found)]

/-- In rounds two neighbours of one provider are followed by its candidates alone. -/
theorem provider_eq_of_twice {owners : List Int} {queue : Int → List Candidate} (owned : Owned queue)
    (nodup : owners.Nodup) {count : Nat} {before after : List Candidate} {a b : Candidate}
    (neighbours : rounds count (owners.map queue) = before ++ a :: b :: after)
    (same : a.provider = b.provider) : ∀ c ∈ after, c.provider = b.provider := by
  let rows (round : Nat) : List (Option Int) :=
    (owners.filter fun owner => round < (queue owner).length).map some
  have once : ∀ round, (rows round).Nodup := fun round =>
    (nodup.filter _).map (Option.some_injective Int)
  have dwindles : ∀ round, (rows (round + 1)).Sublist (rows round) := fun round =>
    List.Sublist.map some (List.monotone_filter_right owners fun owner left => by
      simp only [decide_eq_true_eq] at left ⊢
      exact Nat.lt_of_succ_lt left)
  have turns : (List.range count).flatMap rows =
      before.map (·.provider) ++ b.provider :: b.provider :: after.map (·.provider) := by
    have named := congrArg (List.map (·.provider)) neighbours
    simp only [rounds, List.map_flatMap, List.filterMap_map, Function.comp_def,
      map_provider_round owned, List.map_append, List.map_cons, same] at named
    exact named
  intro c member
  exact (sole_of_twice once dwindles turns).1 _ (List.mem_map_of_mem member)

end Mixing

namespace RankingSettings

variable {settings : RankingSettings} {candidates : List Candidate}

/-! ### Lineups -/

/-- Two candidates of different providers are enough for mixing, in whatever order. -/
theorem mixes_sorted (mixing : settings.mixing ≠ .disabled) {a b : Candidate} (first : a ∈ candidates)
    (second : b ∈ candidates) {p q : Int} (ofFirst : a.provider = some p)
    (ofSecond : b.provider = some q) (differ : p ≠ q) :
    settings.mixing.Mixes (settings.sorted candidates) := by
  have takesTurns : ∀ {c : Candidate} {provider : Int}, c ∈ candidates → c.provider = some provider →
      provider ∈ providersOf (settings.sorted candidates) := by
    intro c provider member belongs
    have sorted := (settings.sorted_perm candidates).mem_iff.mpr member
    exact mem_providersOf.mpr (List.ne_nil_of_mem (mem_share.mpr ⟨sorted, belongs⟩))
  have both : [p, q] ⊆ providersOf (settings.sorted candidates) := by
    simp [takesTurns first ofFirst, takesTurns second ofSecond]
  have distinct : [p, q].Nodup := by simp [differ]
  exact ⟨mixing, (distinct.subperm both).length_le⟩

/-- **A mixed lineup spreads providers.** Where mixing is on and candidates are of two providers or
more, those without a provider stand after all that have one; and once two neighbours are of one
provider, the candidates of all others are used up. -/
theorem rank_spreads (mixing : settings.mixing ≠ .disabled) {x y : Candidate} (first : x ∈ candidates)
    (second : y ∈ candidates) {p q : Int} (ofFirst : x.provider = some p)
    (ofSecond : y.provider = some q) (differ : p ≠ q) :
    (settings.lineup candidates).ordered = (settings.rank candidates).1.map (·.streamId) ∧
      ((settings.rank candidates).1.Pairwise fun a b => a.provider = none → b.provider = none) ∧
      ∀ before a b after provider, (settings.rank candidates).1 = before ++ a :: b :: after →
        a.provider = some provider → b.provider = some provider →
        ∀ c ∈ after, c.provider = none ∨ c.provider = some provider := by
  have mixes := mixes_sorted mixing first second ofFirst ofSecond differ
  have owned : Owned fun provider =>
      trim (settings.allowance provider) (share (some provider) (settings.sorted candidates)) :=
    fun provider c member => (mem_share.mp ((trim_sublist _ _).subset member)).2
  have nodup := turnOrder_nodup settings.mixing settings.providers (settings.sorted candidates)
  have free : ∀ c ∈ share none (settings.sorted candidates), c.provider = none :=
    fun c member => (mem_share.mp member).2
  refine ⟨rfl, ?_, ?_⟩
  · rw [settings.rank_kept_eq_rounds mixes, List.pairwise_append]
    refine ⟨?_, ?_, ?_⟩
    · exact List.pairwise_of_forall_mem_list fun a member b _ unowned =>
        absurd unowned (provider_ne_none_of_mem_rounds owned member)
    · exact List.pairwise_of_forall_mem_list fun a _ b member _ => free b member
    · exact fun a _ b member _ => free b member
  · intro before a b after provider ranked ofA ofB c member
    by_cases unowned : c.provider = none
    · exact .inl unowned
    · -- Leaving out those without a provider leaves the rounds.
      have turns := congrArg (List.filter fun d => d.provider.isSome) ranked
      rw [settings.rank_kept_eq_rounds mixes, List.filter_append,
        List.filter_eq_self.mpr fun d taken =>
          Option.isSome_iff_ne_none.mpr (provider_ne_none_of_mem_rounds owned taken),
        List.filter_eq_nil_iff.mpr fun d taken => by simp [free d taken], List.append_nil,
        List.filter_append, List.filter_cons_of_pos (by simp [ofA]),
        List.filter_cons_of_pos (by simp [ofB])] at turns
      have remains : c ∈ after.filter fun d => d.provider.isSome :=
        List.mem_filter.mpr ⟨member, Option.isSome_iff_ne_none.mpr unowned⟩
      have same := provider_eq_of_twice owned nodup turns (ofA.trans ofB.symm) c remains
      exact .inr (same.trans ofB)

/-! ### A provider with more candidates than the other -/

/-- Settings that mix providers and hold each to three candidates. -/
def mixedAndLimited : RankingSettings := { mixing := .roundRobin, limit := ⟨true, 3⟩ }

/-- Four candidates of a provider, one of another, and one without any. -/
def unevenShares : List Candidate :=
  [{ streamId := 1, provider := some 1 }, { streamId := 2, provider := some 1 },
    { streamId := 3 }, { streamId := 4, provider := some 1 }, { streamId := 5, provider := some 1 },
    { streamId := 6, provider := some 2 }]

theorem rank_unevenShares :
    (mixedAndLimited.rank unevenShares).1 =
      [{ streamId := 1, provider := some 1 }, { streamId := 6, provider := some 2 },
        { streamId := 2, provider := some 1 }, { streamId := 4, provider := some 1 },
        { streamId := 3 }] := by
  cbv

/-- The second and the third candidate of the larger provider are neighbours, and only the one without
a provider comes after them. -/
theorem rank_spreads_unevenShares :
    (mixedAndLimited.lineup unevenShares).ordered = [1, 6, 2, 4, 3] ∧
      ∀ c ∈ [({ streamId := 3 } : Candidate)], c.provider = none ∨ c.provider = some 1 := by
  obtain ⟨ordered, -, spread⟩ := @rank_spreads mixedAndLimited unevenShares (by decide)
    { streamId := 1, provider := some 1 } { streamId := 6, provider := some 2 } (by decide) (by decide)
    1 2 rfl rfl (by decide)
  rw [rank_unevenShares] at ordered
  exact ⟨ordered, spread [{ streamId := 1, provider := some 1 }, { streamId := 6, provider := some 2 }]
    { streamId := 2, provider := some 1 } { streamId := 4, provider := some 1 } [{ streamId := 3 }] 1
    rank_unevenShares rfl rfl⟩

end RankingSettings
end StreamWatch
