/-
**Mixing takes one candidate of each provider per round.**

With two providers or more, a mixed list is the rounds over the shares of all providers, and after
them the candidates without one. So mixing changes no share, and what it does depends on the shares
alone.

* `get?_byProvider`, `mem_providers`: the groups are the shares, one for each provider there is;
* `apply_eq_rounds`: a mixed list as rounds over shares;
* `share_rounds`: the first rounds hold the first candidates of each share;
* `share_apply`, `apply_perm`: mixing keeps every share, and so every candidate.
-/

import StreamWatch.Ranking.Mixing
import StreamWatch.Proofs.Ranking.Share
import Mathlib.Data.List.Induction

namespace StreamWatch.Mixing

open Candidate

/-! ### Groups -/

theorem byProvider_concat (candidates : List Candidate) (c : Candidate) :
    byProvider (candidates ++ [c]) =
      match c.provider with
      | none => byProvider candidates
      | some provider =>
        (byProvider candidates).insert provider
          (((byProvider candidates).get? provider).getD [] ++ [c]) := by
  rw [byProvider, List.foldl_append]
  rfl

/-- The group of a provider is its share. -/
theorem get?_byProvider (candidates : List Candidate) (provider : Int) :
    (byProvider candidates).get? provider =
      if share (some provider) candidates = [] then none
      else some (share (some provider) candidates) := by
  induction candidates using List.reverseRecOn with
  | nil => rfl
  | append_singleton before c ih =>
    rw [byProvider_concat, share_append, share_cons, share_nil]
    cases belongs : c.provider with
    | none => simp [ih]
    | some other =>
      by_cases same : provider = other
      · subst same
        have group : ((byProvider before).get? provider).getD [] = share (some provider) before := by
          rw [ih]
          split
          · next empty => rw [empty]; rfl
          · rfl
        simp [group]
      · have differ : ¬ other = provider := fun equal => same equal.symm
        simp [SortedMap.get?_insert_of_ne _ same, ih, differ]

/-- The providers with a share, by ascending id. -/
def providersOf (candidates : List Candidate) : List Int := (byProvider candidates).keys

theorem mem_providersOf {candidates : List Candidate} {provider : Int} :
    provider ∈ providersOf candidates ↔ share (some provider) candidates ≠ [] := by
  rw [providersOf, SortedMap.mem_keys]
  simp only [get?_byProvider]
  by_cases empty : share (some provider) candidates = []
  · simp [empty]
  · simp [empty]

/-- The providers of a list are a matter of who has a share. -/
theorem providersOf_eq {first second : List Candidate}
    (same : ∀ provider : Int, share (some provider) first ≠ [] ↔ share (some provider) second ≠ []) :
    providersOf first = providersOf second :=
  SortedMap.keys_eq_of_mem_iff fun provider => by
    have member := same provider
    rw [← mem_providersOf, ← mem_providersOf] at member
    exact member

theorem entries_byProvider (candidates : List Candidate) :
    (byProvider candidates).entries =
      (providersOf candidates).map fun provider => (provider, share (some provider) candidates) := by
  have grouped : ∀ entry ∈ (byProvider candidates).entries,
      id entry = (entry.1, share (some entry.1) candidates) := by
    intro entry member
    have found := (SortedMap.get?_eq_some_iff _ entry.1 entry.2).mpr member
    rw [get?_byProvider] at found
    split at found
    · cases found
    · exact Prod.ext rfl (Option.some.inj found).symm
  rw [providersOf, SortedMap.keys, List.map_map]
  exact (List.map_id _).symm.trans (List.map_congr_left grouped)

/-! ### Turns -/

/-- The providers in the order of their turns. -/
def turnOrder (mode : Mixing) (providers : Providers) (candidates : List Candidate) : List Int :=
  (providersOf candidates).mergeSort fun a b => turnsBefore mode providers a b

theorem turnOrder_perm (mode : Mixing) (providers : Providers) (candidates : List Candidate) :
    (turnOrder mode providers candidates).Perm (providersOf candidates) :=
  List.mergeSort_perm _ _

theorem turnOrder_nodup (mode : Mixing) (providers : Providers) (candidates : List Candidate) :
    (turnOrder mode providers candidates).Nodup :=
  (turnOrder_perm mode providers candidates).nodup_iff.mpr (SortedMap.keys_nodup _)

theorem mem_turnOrder {mode : Mixing} {providers : Providers} {candidates : List Candidate}
    {provider : Int} :
    provider ∈ turnOrder mode providers candidates ↔ share (some provider) candidates ≠ [] := by
  rw [(turnOrder_perm mode providers candidates).mem_iff, mem_providersOf]

/-- What takes turns are the shares of the providers. -/
theorem turns_byProvider (mode : Mixing) (providers : Providers) (candidates : List Candidate) :
    turns mode providers (byProvider candidates) =
      (turnOrder mode providers candidates).map fun provider => share (some provider) candidates := by
  let entryOf : Int → Int × List Candidate :=
    fun provider => (provider, share (some provider) candidates)
  have keyed :
      ((providersOf candidates).mergeSort fun a b => turnsBefore mode providers a b).map entryOf =
        ((providersOf candidates).map entryOf).mergeSort fun a b => turnsBefore mode providers a.1 b.1 :=
    List.map_mergeSort fun _ _ _ _ => rfl
  rw [turns, entries_byProvider, turnOrder, ← keyed, List.map_map]
  rfl

/-! ### Rounds -/

section Rounds

variable {α : Type}

/-- The first rounds over some lists. -/
def rounds (count : Nat) (lists : List (List α)) : List α :=
  (List.range count).flatMap fun round => lists.filterMap (·[round]?)

theorem rounds_succ (count : Nat) (lists : List (List α)) :
    rounds (count + 1) lists = rounds count lists ++ lists.filterMap (·[count]?) := by
  rw [rounds, List.range_succ, List.flatMap_append, List.flatMap_singleton]
  rfl

/-- A round after the ends of all lists is empty. -/
theorem round_eq_nil {count : Nat} {lists : List (List α)} (short : ∀ l ∈ lists, l.length ≤ count) :
    lists.filterMap (·[count]?) = [] :=
  List.filterMap_eq_nil_iff.mpr fun l member => List.getElem?_eq_none (short l member)

theorem rounds_add {count : Nat} {lists : List (List α)} (short : ∀ l ∈ lists, l.length ≤ count)
    (more : Nat) : rounds (count + more) lists = rounds count lists := by
  induction more with
  | zero => rfl
  | succ more ih =>
    have later : ∀ l ∈ lists, l.length ≤ count + more := fun l member =>
      Nat.le_trans (short l member) (Nat.le_add_right _ _)
    rw [← Nat.add_assoc, rounds_succ, ih, round_eq_nil later, List.append_nil]

theorem le_longest (lengths : List Nat) (least : Nat) :
    least ≤ lengths.foldl max least ∧ ∀ n ∈ lengths, n ≤ lengths.foldl max least := by
  induction lengths generalizing least with
  | nil => exact ⟨Nat.le_refl _, fun _ member => nomatch member⟩
  | cons length rest ih =>
    obtain ⟨first, later⟩ := ih (max least length)
    rw [List.foldl_cons]
    constructor
    · exact Nat.le_trans (Nat.le_max_left least length) first
    · intro n member
      rcases List.mem_cons.mp member with rfl | inRest
      · exact Nat.le_trans (Nat.le_max_right least n) first
      · exact later n inRest

/-- Interleaving is as many rounds as it takes; more of them change nothing. -/
theorem interleave_eq_rounds {count : Nat} {lists : List (List α)}
    (short : ∀ l ∈ lists, l.length ≤ count) :
    interleave lists = rounds count lists := by
  have longest : ∀ l ∈ lists, l.length ≤ (lists.map List.length).foldl max 0 :=
    fun l member => (le_longest _ 0).2 _ (List.mem_map_of_mem member)
  calc interleave lists = rounds ((lists.map List.length).foldl max 0) lists := rfl
    _ = rounds ((lists.map List.length).foldl max 0 + count) lists := (rounds_add longest count).symm
    _ = rounds (count + (lists.map List.length).foldl max 0) lists := by rw [Nat.add_comm]
    _ = rounds count lists := rounds_add short _

end Rounds

/-! ### Shares of rounds -/

section Shares

variable {owners : List Int} {queue : Int → List Candidate}

/-- Whether every candidate of a queue is of the queue's owner. -/
def Owned (queue : Int → List Candidate) : Prop :=
  ∀ provider, ∀ c ∈ queue provider, c.provider = some provider

theorem owned_share (candidates : List Candidate) :
    Owned fun provider => share (some provider) candidates :=
  fun _ _ member => (mem_share.mp member).2

/-- What a provider has in a round is its candidate of that round. -/
theorem share_round (owned : Owned queue) (nodup : owners.Nodup) (provider : Int) (round : Nat) :
    share (some provider) (owners.filterMap fun owner => (queue owner)[round]?) =
      if provider ∈ owners then (queue provider)[round]?.toList else [] := by
  induction owners with
  | nil => rfl
  | cons owner rest ih =>
    obtain ⟨notAgain, distinct⟩ := List.nodup_cons.mp nodup
    rw [List.filterMap_cons]
    cases found : (queue owner)[round]? with
    | none =>
      by_cases same : provider = owner
      · subst same
        simp [ih distinct, notAgain, found]
      · simp [ih distinct, same]
    | some c =>
      have belongs := owned owner c (List.mem_of_getElem? found)
      by_cases same : provider = owner
      · subst same
        simp [share_cons, belongs, ih distinct, notAgain, found]
      · have differ : ¬ owner = provider := fun equal => same equal.symm
        simp [share_cons, belongs, ih distinct, same, differ]

/-- **The first rounds hold the first candidates of every queue.** -/
theorem share_rounds (owned : Owned queue) (nodup : owners.Nodup) (provider : Int) (count : Nat) :
    share (some provider) (rounds count (owners.map queue)) =
      if provider ∈ owners then (queue provider).take count else [] := by
  induction count with
  | zero => simp [rounds]
  | succ count ih =>
    rw [rounds_succ, share_append, ih, List.filterMap_map]
    have last := share_round owned nodup provider count
    simp only [Function.comp_def]
    rw [last]
    split
    · rw [List.take_add_one]
    · rfl

theorem provider_ne_none_of_mem_rounds (owned : Owned queue) {count : Nat} {c : Candidate}
    (member : c ∈ rounds count (owners.map queue)) : c.provider ≠ none := by
  simp only [rounds, List.mem_flatMap, List.mem_filterMap, List.mem_map] at member
  obtain ⟨round, _, _, ⟨owner, _, rfl⟩, found⟩ := member
  rw [owned owner c (List.mem_of_getElem? found)]
  exact Option.some_ne_none owner

end Shares

/-! ### Mixed lists -/

/-- Whether a way of mixing changes a list: it is not switched off, and there are two providers or
more. -/
def Mixes (mode : Mixing) (candidates : List Candidate) : Prop :=
  mode ≠ .disabled ∧ 1 < (providersOf candidates).length

theorem apply_of_not_mixes {mode : Mixing} {candidates : List Candidate}
    (alone : ¬ mode.Mixes candidates)
    (providers : Providers) : mode.apply providers candidates = candidates := by
  have stays : mode = .disabled ∨ (byProvider candidates).entries.length ≤ 1 := by
    rw [entries_byProvider, List.length_map]
    by_cases off : mode = .disabled
    · exact .inl off
    · exact .inr (Nat.le_of_not_lt fun many => alone ⟨off, many⟩)
  rw [apply, if_pos stays]

/-- **A mixed list is the rounds over the shares of all providers**, and after them the candidates
without one. -/
theorem apply_eq_rounds {mode : Mixing} {candidates : List Candidate} (mixes : mode.Mixes candidates)
    (providers : Providers) {count : Nat}
    (short : ∀ provider : Int, (share (some provider) candidates).length ≤ count) :
    mode.apply providers candidates =
      rounds count
          ((turnOrder mode providers candidates).map fun provider => share (some provider) candidates) ++
        share none candidates := by
  have changes : ¬ (mode = .disabled ∨ (byProvider candidates).entries.length ≤ 1) := by
    rw [entries_byProvider, List.length_map]
    rintro (off | few)
    · exact mixes.1 off
    · exact Nat.not_lt_of_le few mixes.2
  have unassigned : (candidates.filter fun c => c.provider.isNone) = share none candidates :=
    List.filter_congr fun c _ => by cases c.provider <;> rfl
  have enough :
      ∀ l ∈ (turnOrder mode providers candidates).map
        (fun provider => share (some provider) candidates), l.length ≤ count := by
    intro l member
    obtain ⟨provider, _, rfl⟩ := List.mem_map.mp member
    exact short provider
  rw [apply, if_neg changes, turns_byProvider, unassigned, interleave_eq_rounds enough]

/-- **Mixing keeps every share.** -/
theorem share_apply (mode : Mixing) (providers : Providers) (candidates : List Candidate)
    (provider : Option Int) :
    share provider (mode.apply providers candidates) = share provider candidates := by
  by_cases mixes : mode.Mixes candidates
  · have short : ∀ provider : Int, (share (some provider) candidates).length ≤ candidates.length :=
      fun provider => (share_sublist _ _).length_le
    rw [apply_eq_rounds mixes providers short, share_append]
    cases provider with
    | none =>
      have apart : share none (rounds candidates.length ((turnOrder mode providers candidates).map
          fun provider => share (some provider) candidates)) = [] :=
        share_of_forall_ne fun c member => provider_ne_none_of_mem_rounds (owned_share candidates) member
      rw [apart, List.nil_append]
      exact share_of_forall fun c member => (mem_share.mp member).2
    | some provider =>
      have apart : share (some provider) (share none candidates) = [] :=
        share_of_forall_ne fun c member => by
          rw [(mem_share.mp member).2]
          exact (Option.some_ne_none _).symm
      rw [apart, List.append_nil, share_rounds (owned_share candidates) (turnOrder_nodup _ _ _)]
      split
      · exact List.take_of_length_le (short provider)
      · next noTurn =>
        exact (Decidable.not_not.mp fun present => noTurn (mem_turnOrder.mpr present)).symm
  · rw [apply_of_not_mixes mixes]

/-- Mixing drops no candidate and adds none. -/
theorem apply_perm (mode : Mixing) (providers : Providers) (candidates : List Candidate) :
    (mode.apply providers candidates).Perm candidates :=
  perm_of_share_eq (share_apply mode providers candidates)

end StreamWatch.Mixing
