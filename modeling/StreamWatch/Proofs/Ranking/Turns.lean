/-
**Mixing sorts candidates by their turns.**

A candidate that has a provider takes its turn in the round that its place among that provider's
candidates says, and within a round the providers take turns by a key of their own. No two turns have one
key, so there is one list of all turns in order, and the rounds of a mixed list are that list.

* `turnsBefore_iff`, `pairwise_turnOrder`: providers take turns by their keys;
* `turnsOf_perm`: the turns are a matter of the shares alone;
* `pairwise_turnsOf_rounds`, `nodup_keys`: in rounds the turns are strictly in order;
* `apply_eq_sortedTurns`: so a mixed list is sorted by turns.
-/

import StreamWatch.Proofs.Ranking.Limit
import Mathlib.Data.Prod.Lex
import Mathlib.Data.Finset.Card

namespace StreamWatch.Mixing

open Candidate LimitSettings

/-! ### Keys of providers -/

/-- What a provider takes its turn by: where priorities count the one that is set for it, the highest first
and zero when none is set, and then its id, the lowest first. -/
def providerKey (mode : Mixing) (providers : Providers) (provider : Int) : Int ×ₗ Int :=
  let priority := (providers.get? (toString provider)).bind (·.priority)
  toLex (if mode = .priorityWeighted then -priority.getD 0 else 0, provider)

variable {mode : Mixing} {providers : Providers} {candidates : List Candidate}

theorem providerKey_injective : Function.Injective (providerKey mode providers) := by
  intro p q same
  exact (Prod.mk.inj (toLex.injective same)).2

/-- Providers take turns by their keys. -/
theorem turnsBefore_iff (p q : Int) :
    turnsBefore mode providers p q = true ↔ providerKey mode providers p ≤ providerKey mode providers q := by
  unfold turnsBefore providerKey
  rw [Prod.Lex.toLex_le_toLex]
  cases mode with
  | priorityWeighted =>
    simp only [if_true, Providers.priority, Providers.settings?, Ordering.isLE_then_iff_or, Std.compare_eq_lt,
      Int.compare_eq_eq, Std.isLE_compare]
    omega
  | disabled => simp
  | roundRobin => simp

/-- The order of turns is strictly by keys. -/
theorem pairwise_turnOrder (mode : Mixing) (providers : Providers) (candidates : List Candidate) :
    (turnOrder mode providers candidates).Pairwise
      fun p q => providerKey mode providers p < providerKey mode providers q := by
  have ordered : (turnOrder mode providers candidates).Pairwise
      fun p q => turnsBefore mode providers p q = true := by
    refine List.pairwise_mergeSort (fun p q r first second => ?_) (fun p q => ?_) _
    · rw [turnsBefore_iff] at first second ⊢
      exact first.trans second
    · rw [Bool.or_eq_true, turnsBefore_iff, turnsBefore_iff]
      exact le_total _ _
  refine (ordered.and (turnOrder_nodup mode providers candidates)).imp fun both => ?_
  exact ((turnsBefore_iff _ _).mp both.1).lt_of_ne fun same => both.2 (providerKey_injective same)

/-! ### Turns -/

/-- The turn of a candidate: its round, and the provider that has the turn. -/
structure Turn where
  round : Nat
  provider : Int
  candidate : Candidate
deriving DecidableEq

namespace Turn

/-- The turn of a candidate at a place, if it has a provider. -/
def of? (place : Candidate × Nat) : Option Turn :=
  place.1.provider.map fun provider => ⟨place.2, provider, place.1⟩

/-- What turns are sorted by: the round first, and then the key of the provider. -/
def key (mode : Mixing) (providers : Providers) (turn : Turn) : Nat ×ₗ Int ×ₗ Int :=
  toLex (turn.round, providerKey mode providers turn.provider)

end Turn

/-- The turns of all candidates that have a provider, each in the round of its place among that
provider's candidates. -/
def turnsOf (candidates : List Candidate) : List Turn := (places [] candidates).filterMap Turn.of?

/-- Who takes turns are the candidates with a provider. -/
theorem turnsOf_map_candidate (candidates : List Candidate) :
    (turnsOf candidates).map (·.candidate) = candidates.filter fun c => c.provider ≠ none := by
  have each (place : Candidate × Nat) : (Turn.of? place).map (·.candidate) =
      Option.guard (fun c : Candidate => decide (c.provider ≠ none)) place.1 := by
    unfold Turn.of?
    cases belongs : place.1.provider <;> simp [Option.guard, belongs]
  conv_rhs => rw [← places_map_fst [] candidates]
  rw [turnsOf, List.map_filterMap, ← List.filterMap_eq_filter, List.filterMap_map]
  exact List.filterMap_congr fun place _ => each place

/-- The turns of a provider are those of its share, round by round. -/
theorem filter_turns (provider : Int) (before candidates : List Candidate) :
    (((places before candidates).filterMap Turn.of?).filter fun turn => turn.provider = provider) =
      ((share (some provider) candidates).zipIdx (share (some provider) before).length).map
        fun place => ⟨place.2, provider, place.1⟩ := by
  induction candidates generalizing before with
  | nil => rfl
  | cons c rest ih =>
    have later := ih (before ++ [c])
    rw [share_append, share_cons, share_nil] at later
    rw [places, share_cons, List.filterMap_cons]
    cases belongs : c.provider with
    | none => simpa [Turn.of?, belongs] using later
    | some other =>
      by_cases same : other = provider
      · subst same
        simpa [Turn.of?, belongs] using later
      · simpa [Turn.of?, belongs, same] using later

/-- **The turns are a matter of the shares alone.** -/
theorem turnsOf_perm {first second : List Candidate}
    (same : ∀ provider : Int, share (some provider) first = share (some provider) second) :
    (turnsOf first).Perm (turnsOf second) := by
  rw [List.perm_iff_count]
  intro turn
  have counted (list : List Candidate) :
      ((turnsOf list).filter fun other => other.provider = turn.provider).count turn = (turnsOf list).count turn :=
    List.count_filter (decide_eq_true rfl)
  rw [← counted first, ← counted second, turnsOf, turnsOf, filter_turns, filter_turns, same]

/-! ### Turns in rounds -/

section Rounds

variable {owners : List Int} {queue : Int → List Candidate}

theorem turnsOf_rounds (owned : Owned queue) (nodup : owners.Nodup) (count : Nat) :
    turnsOf (rounds count (owners.map queue)) =
      (List.range count).flatMap fun round =>
        owners.filterMap fun owner => ((queue owner)[round]?).map fun c => ⟨round, owner, c⟩ := by
  rw [turnsOf, places_rounds owned nodup, List.filterMap_flatMap]
  refine List.flatMap_congr fun round _ => ?_
  rw [List.filterMap_map, List.filterMap_filterMap]
  refine List.filterMap_congr fun owner _ => ?_
  cases found : (queue owner)[round]? with
  | none => rfl
  | some c => simp [Turn.of?, owned owner c (List.mem_of_getElem? found)]

/-- **In rounds the turns are in order**, when the owners of the queues are in the order of their keys. -/
theorem pairwise_turnsOf_rounds (owned : Owned queue)
    (ordered : owners.Pairwise fun p q => providerKey mode providers p < providerKey mode providers q)
    (count : Nat) :
    (turnsOf (rounds count (owners.map queue))).Pairwise
      fun a b => a.key mode providers < b.key mode providers := by
  have nodup : owners.Nodup := ordered.imp fun less same => less.ne (congrArg _ same)
  rw [turnsOf_rounds owned nodup, List.pairwise_flatMap]
  constructor
  · intro round _
    refine List.Pairwise.filterMap _ (fun p q less a ofP b ofQ => ?_) ordered
    obtain ⟨c, -, rfl⟩ := Option.map_eq_some_iff.mp ofP
    obtain ⟨d, -, rfl⟩ := Option.map_eq_some_iff.mp ofQ
    exact Prod.Lex.toLex_lt_toLex.mpr (.inr ⟨rfl, less⟩)
  · refine List.pairwise_lt_range.imp fun {earlier later} less a inEarlier b inLater => ?_
    obtain ⟨_, _, ofFirst⟩ := List.mem_filterMap.mp inEarlier
    obtain ⟨_, _, ofSecond⟩ := List.mem_filterMap.mp inLater
    obtain ⟨_, -, rfl⟩ := Option.map_eq_some_iff.mp ofFirst
    obtain ⟨_, -, rfl⟩ := Option.map_eq_some_iff.mp ofSecond
    exact Prod.Lex.toLex_lt_toLex.mpr (.inl less)

end Rounds

/-- The rounds over all shares hold the turns there are. -/
theorem turnsOf_rounds_perm (mode : Mixing) (providers : Providers) (candidates : List Candidate) :
    (turnsOf (rounds candidates.length ((turnOrder mode providers candidates).map fun provider =>
      share (some provider) candidates))).Perm (turnsOf candidates) := by
  refine turnsOf_perm fun provider => ?_
  rw [share_rounds (owned_share candidates) (turnOrder_nodup mode providers candidates)]
  split
  · exact List.take_of_length_le (share_sublist _ _).length_le
  · next noTurn => exact (Decidable.not_not.mp fun present => noTurn (mem_turnOrder.mpr present)).symm

/-! ### Sorted turns -/

/-- No two turns have one key. -/
theorem nodup_keys (mode : Mixing) (providers : Providers) (candidates : List Candidate) :
    ((turnsOf candidates).map fun turn => turn.key mode providers).Nodup := by
  have ordered := pairwise_turnsOf_rounds (owned_share candidates)
    (pairwise_turnOrder mode providers candidates) candidates.length
  have distinct := List.pairwise_map.mpr (ordered.imp fun less => less.ne)
  exact ((turnsOf_rounds_perm mode providers candidates).map _).nodup_iff.mp distinct

/-- The turns in the order of their keys. -/
def sortedTurns (mode : Mixing) (providers : Providers) (candidates : List Candidate) : List Turn :=
  (turnsOf candidates).mergeSort fun a b => a.key mode providers ≤ b.key mode providers

theorem pairwise_sortedTurns (mode : Mixing) (providers : Providers) (candidates : List Candidate) :
    (sortedTurns mode providers candidates).Pairwise fun a b => a.key mode providers ≤ b.key mode providers := by
  have sorted : (sortedTurns mode providers candidates).Pairwise
      fun a b => decide (a.key mode providers ≤ b.key mode providers) = true := by
    refine List.pairwise_mergeSort (fun a b c first second => ?_) (fun a b => ?_) _
    · rw [decide_eq_true_eq] at first second ⊢
      exact first.trans second
    · simpa using le_total _ _
  exact sorted.imp of_decide_eq_true

/-- **The rounds over all shares are the sorted turns**: both are in order, and no two turns have one key. -/
theorem turnsOf_rounds_eq_sortedTurns (mode : Mixing) (providers : Providers) (candidates : List Candidate) :
    turnsOf (rounds candidates.length ((turnOrder mode providers candidates).map fun provider =>
      share (some provider) candidates)) = sortedTurns mode providers candidates := by
  have ordered := pairwise_turnsOf_rounds (owned_share candidates)
    (pairwise_turnOrder mode providers candidates) candidates.length
  have perm := turnsOf_rounds_perm mode providers candidates
  refine (perm.trans (List.mergeSort_perm _ _).symm).eq_of_pairwise (fun a b inRounds inSorted less more => ?_)
    (ordered.imp fun less => less.le) (pairwise_sortedTurns mode providers candidates)
  have inTurns := (List.mergeSort_perm _ _).mem_iff.mp inSorted
  exact List.inj_on_of_nodup_map (nodup_keys mode providers candidates) (perm.mem_iff.mp inRounds) inTurns
    (less.antisymm more)

/-! ### Mixed lists -/

/-- The number of providers that occur. -/
theorem card_providers (candidates : List Candidate) :
    (candidates.filterMap (·.provider)).toFinset.card = (providersOf candidates).length := by
  have nodup : (providersOf candidates).Nodup := SortedMap.keys_nodup _
  have occurring : (candidates.filterMap (·.provider)).toFinset = (providersOf candidates).toFinset := by
    ext provider
    rw [List.mem_toFinset, List.mem_toFinset, mem_providersOf, List.mem_filterMap]
    constructor
    · rintro ⟨c, member, belongs⟩
      exact List.ne_nil_of_mem (mem_share.mpr ⟨member, belongs⟩)
    · intro present
      obtain ⟨c, member⟩ := List.exists_mem_of_ne_nil _ present
      exact ⟨c, mem_share.mp member⟩
  rw [occurring, List.toFinset_card_of_nodup nodup]

theorem mixes_iff :
    mode.Mixes candidates ↔
      ¬ (mode = .disabled ∨ (candidates.filterMap (·.provider)).toFinset.card < 2) := by
  rw [card_providers, not_or, Nat.not_lt]
  rfl

/-- A mixed list is the sorted turns, and after them the candidates without a provider. -/
theorem apply_of_mixes (mixes : mode.Mixes candidates) :
    mode.apply providers candidates =
      (sortedTurns mode providers candidates).map (·.candidate) ++ share none candidates := by
  have short : ∀ provider : Int, (share (some provider) candidates).length ≤ candidates.length :=
    fun provider => (share_sublist _ _).length_le
  rw [apply_eq_rounds mixes providers short, ← turnsOf_rounds_eq_sortedTurns, turnsOf_map_candidate]
  congr 1
  refine (List.filter_eq_self.mpr fun c member => ?_).symm
  exact decide_eq_true (provider_ne_none_of_mem_rounds (owned_share candidates) member)

/-- **Mixing sorts candidates by their turns.** Where it is switched off, or fewer than two providers occur,
nothing changes. Otherwise the candidates that have a provider come first, in the order of their turns: by
the place among their own provider's candidates, and then by the provider, the one for which the higher
priority is set first where priorities count and the one with the lower id first besides, so that no two have
one key. The others follow in their order. No candidate is dropped or added, and those of each provider keep
their order. -/
theorem apply_eq_sortedTurns (mode : Mixing) (providers : Providers) (candidates : List Candidate) :
    mode.apply providers candidates =
      (if mode = .disabled ∨ (candidates.filterMap (·.provider)).toFinset.card < 2 then candidates
      else
        ((turnsOf candidates).mergeSort fun a b => a.key mode providers ≤ b.key mode providers).map
            (·.candidate) ++
          candidates.filter fun c => c.provider = none) ∧
      ((turnsOf candidates).map fun turn => turn.key mode providers).Nodup ∧
      (mode.apply providers candidates).Perm candidates ∧
      ∀ provider, (mode.apply providers candidates).filter (fun c => c.provider = provider) =
        candidates.filter fun c => c.provider = provider := by
  refine ⟨?_, nodup_keys mode providers candidates, apply_perm mode providers candidates,
    share_apply mode providers candidates⟩
  by_cases mixes : mode.Mixes candidates
  · rw [if_neg (mixes_iff.mp mixes)]
    exact apply_of_mixes mixes
  · rw [if_pos (not_not.mp (mt mixes_iff.mpr mixes))]
    exact apply_of_not_mixes mixes providers

end StreamWatch.Mixing
