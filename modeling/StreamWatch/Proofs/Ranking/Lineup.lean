/-
**What a lineup keeps, and that it is settled.**

Sorting orders every share by rank, mixing keeps every share, and limits keep the beginning of each.
So a lineup keeps the best candidates of every provider, however providers are mixed. Doing it all
again changes nothing: what was kept of a share is in order, it is within its limit, and it takes
the same turns as before.

* `share_rank_kept`, `share_rank_left`: the share of every provider in a lineup;
* `rank_keeps_best`: a lineup keeps exactly the best candidates of every provider;
* `rank_kept`: ranking again what was kept changes nothing;
* `channelLineup_ordered`: the lineup of a channel in its final order is that order.
-/

import StreamWatch.Ranking.Lineup
import StreamWatch.Proofs.Ranking.Limit
import StreamWatch.Proofs.Ranking.Order

namespace StreamWatch.RankingSettings

open Candidate LimitSettings Mixing

variable (settings : RankingSettings)

/-! ### Stages -/

/-- How many candidates of a provider a lineup keeps at most; zero is no limit. -/
def allowance (provider : Int) : Nat := settings.limit.allowance settings.providers provider

theorem allowance_of_enabled (on : settings.limit.enabled = true) (provider : Int) :
    settings.allowance provider =
      match (settings.providers.get? (toString provider)).bind (·.maxStreams) with
      | some own => own.toNat
      | none => settings.limit.defaultLimit.toNat := by
  rw [allowance, LimitSettings.allowance, if_pos on, LimitSettings.limitOf, Providers.settings?]
  cases (settings.providers.get? (toString provider)).bind (·.maxStreams) <;> rfl

theorem allowance_of_disabled (off : settings.limit.enabled = false) (provider : Int) :
    settings.allowance provider = 0 := by
  rw [allowance, LimitSettings.allowance, off]
  rfl

/-- Sorted and mixed candidates, before limits. -/
def mixed (candidates : List Candidate) : List Candidate :=
  settings.mixing.apply settings.providers (settings.sorted candidates)

theorem rank_eq (candidates : List Candidate) :
    settings.rank candidates =
      (kept settings.allowance [] (settings.mixed candidates),
        beyond settings.allowance [] (settings.mixed candidates)) :=
  apply_eq _ _ _

theorem sorted_perm (candidates : List Candidate) : (settings.sorted candidates).Perm candidates := by
  unfold sorted
  split
  · exact sortByRank_perm _ _ _ candidates
  · exact List.Perm.refl candidates

/-- Whether candidates are in the order that the settings ask for. -/
def InOrder (candidates : List Candidate) : Prop :=
  settings.sortByQuality = true → candidates.Pairwise fun a b =>
    ranksBefore settings.enabledCriteria settings.demoteUnhealthy settings.providers a b = true

theorem inOrder_sorted (candidates : List Candidate) :
    settings.InOrder (settings.sorted candidates) := by
  intro on
  rw [sorted, if_pos on]
  exact pairwise_sortByRank _ _ _ candidates

theorem InOrder.sublist {settings : RankingSettings} {part whole : List Candidate}
    (inOrder : settings.InOrder whole) (within : part.Sublist whole) : settings.InOrder part :=
  fun on => (inOrder on).sublist within

theorem sorted_of_inOrder {candidates : List Candidate} (inOrder : settings.InOrder candidates) :
    settings.sorted candidates = candidates := by
  unfold sorted
  split
  · next on => exact sortByRank_of_pairwise _ _ _ (inOrder on)
  · rfl

theorem share_sorted {provider : Option Int} {candidates : List Candidate}
    (inOrder : settings.InOrder (share provider candidates)) :
    share provider (settings.sorted candidates) = share provider candidates := by
  unfold sorted
  split
  · next on => exact share_sortByRank _ _ _ (inOrder on)
  · rfl

/-! ### Shares in a lineup -/

/-- **The best candidates of every provider are kept.** -/
theorem share_rank_kept (candidates : List Candidate) (provider : Int) :
    share (some provider) (settings.rank candidates).1 =
      trim (settings.allowance provider) (share (some provider) (settings.sorted candidates)) := by
  rw [rank_eq, share_kept, mixed, share_apply]

/-- **The others of every provider are left out.** -/
theorem share_rank_left (candidates : List Candidate) (provider : Int) :
    share (some provider) (settings.rank candidates).2 =
      excess (settings.allowance provider) (share (some provider) (settings.sorted candidates)) := by
  rw [rank_eq, share_beyond, mixed, share_apply]

theorem share_none_rank_kept (candidates : List Candidate) :
    share none (settings.rank candidates).1 = share none (settings.sorted candidates) := by
  rw [rank_eq, share_none_kept, mixed, share_apply]

theorem share_none_rank_left (candidates : List Candidate) :
    share none (settings.rank candidates).2 = [] := by
  rw [rank_eq, share_none_beyond]

/-- **Mixed candidates within the limits** are the rounds over the shares cut short, and after them
the candidates without a provider. -/
theorem rank_kept_eq_rounds {candidates : List Candidate}
    (mixes : settings.mixing.Mixes (settings.sorted candidates)) :
    (settings.rank candidates).1 =
      rounds (settings.sorted candidates).length
        ((turnOrder settings.mixing settings.providers (settings.sorted candidates)).map fun provider =>
          trim (settings.allowance provider) (share (some provider) (settings.sorted candidates))) ++
        share none (settings.sorted candidates) := by
  have short : ∀ provider : Int,
      (share (some provider) (settings.sorted candidates)).length ≤
        (settings.sorted candidates).length :=
    fun provider => (share_sublist _ _).length_le
  rw [rank_eq, mixed, apply_eq_rounds mixes settings.providers short]
  exact kept_rounds (owned_share _) (turnOrder_nodup _ _ _) _ _ fun c member =>
    (mem_share.mp member).2

/-- A lineup loses no candidate and gains none. -/
theorem rank_perm (candidates : List Candidate) :
    ((settings.rank candidates).1 ++ (settings.rank candidates).2).Perm candidates := by
  rw [rank_eq]
  exact (kept_append_beyond_perm _ _ _).trans
    ((apply_perm _ _ _).trans (settings.sorted_perm candidates))

/-- Whom a lineup leaves out is the same for every way of mixing. -/
theorem rank_left_perm (mode : Mixing) (candidates : List Candidate) :
    ({ settings with mixing := mode }.rank candidates).2.Perm (settings.rank candidates).2 := by
  refine perm_of_share_eq fun provider => ?_
  cases provider with
  | none => rw [share_none_rank_left, share_none_rank_left]
  | some provider =>
    rw [share_rank_left, share_rank_left]
    rfl

/-- **A lineup keeps exactly the best candidates of every provider**, in their order, and leaves the
others out in theirs. As many are kept as are set for the provider, or else for all of them. Where limits
are switched off, or the number is zero, nobody is left out. -/
theorem rank_keeps_best (candidates : List Candidate) :
    let limitOf := fun provider : Int =>
      match (settings.providers.get? (toString provider)).bind (·.maxStreams) with
      | some own => own.toNat
      | none => settings.limit.defaultLimit.toNat
    let best := if settings.sortByQuality then
        sortByRank settings.enabledCriteria settings.demoteUnhealthy settings.providers candidates
      else candidates
    let within := (settings.rank candidates).1
    let left := (settings.rank candidates).2
    settings.lineup candidates = ⟨within.map (·.streamId), left.map (·.streamId)⟩ ∧
      (settings.limit.enabled = true →
        (∀ provider, limitOf provider ≠ 0 →
          share (some provider) within = (share (some provider) best).take (limitOf provider) ∧
          share (some provider) left = (share (some provider) best).drop (limitOf provider)) ∧
        (∀ provider, limitOf provider = 0 →
          share (some provider) within = share (some provider) best ∧ share (some provider) left = []) ∧
        share none within = share none best ∧ share none left = []) ∧
      (settings.limit.enabled = false →
        left = [] ∧ ∀ provider, share provider within = share provider best) ∧
      (within ++ left).Perm candidates ∧
      ∀ mode, ({ settings with mixing := mode }.rank candidates).2.Perm left := by
  intro limitOf best within left
  have limited : settings.limit.enabled = true →
      ∀ provider, settings.allowance provider = limitOf provider := settings.allowance_of_enabled
  refine ⟨rfl, fun on => ⟨fun provider bounded => ?_, fun provider free => ?_,
    settings.share_none_rank_kept candidates, settings.share_none_rank_left candidates⟩,
    fun off => ?_, settings.rank_perm candidates,
    fun mode => settings.rank_left_perm mode candidates⟩
  · rw [settings.share_rank_kept, settings.share_rank_left, limited on, trim, excess,
      if_neg bounded, if_neg bounded]
    exact ⟨rfl, rfl⟩
  · rw [settings.share_rank_kept, settings.share_rank_left, limited on, trim, excess,
      if_pos free, if_pos free]
    exact ⟨rfl, rfl⟩
  · constructor
    · refine List.perm_nil.mp (perm_of_share_eq fun provider => ?_)
      cases provider with
      | none => exact settings.share_none_rank_left candidates
      | some provider =>
        rw [settings.share_rank_left, settings.allowance_of_disabled off, excess, if_pos rfl, share_nil]
    · intro provider
      cases provider with
      | none => exact settings.share_none_rank_kept candidates
      | some provider =>
        rw [settings.share_rank_kept, settings.allowance_of_disabled off, trim, if_pos rfl]
        rfl

/-! ### Ranking again -/

/-- A kept share is in order: it is the beginning of a sorted one. -/
theorem inOrder_share_rank_kept (candidates : List Candidate) (provider : Option Int) :
    settings.InOrder (share provider (settings.rank candidates).1) := by
  have best := (settings.inOrder_sorted candidates).sublist (share_sublist provider _)
  cases provider with
  | none =>
    rw [share_none_rank_kept]
    exact best
  | some provider =>
    rw [share_rank_kept]
    exact best.sublist (trim_sublist _ _)

/-- Sorting again what was kept changes no share. -/
theorem share_sorted_rank_kept (candidates : List Candidate) (provider : Option Int) :
    share provider (settings.sorted (settings.rank candidates).1) =
      share provider (settings.rank candidates).1 :=
  settings.share_sorted (settings.inOrder_share_rank_kept candidates provider)

/-- Every provider of the candidates is one of those that were kept, for a limit leaves at least one. -/
theorem providersOf_sorted_rank_kept (candidates : List Candidate) :
    providersOf (settings.sorted (settings.rank candidates).1) =
      providersOf (settings.sorted candidates) := by
  refine providersOf_eq fun provider => ?_
  rw [share_sorted_rank_kept, share_rank_kept]
  exact trim_ne_nil_iff _ _

theorem mixed_rank_kept_of_mixes {candidates : List Candidate}
    (mixes : settings.mixing.Mixes (settings.sorted candidates)) :
    settings.mixed (settings.rank candidates).1 = (settings.rank candidates).1 := by
  have mixesAgain : settings.mixing.Mixes (settings.sorted (settings.rank candidates).1) := by
    refine ⟨mixes.1, ?_⟩
    rw [providersOf_sorted_rank_kept]
    exact mixes.2
  have sameTurns :
      turnOrder settings.mixing settings.providers (settings.sorted (settings.rank candidates).1) =
        turnOrder settings.mixing settings.providers (settings.sorted candidates) := by
    rw [turnOrder, turnOrder, providersOf_sorted_rank_kept]
  have shortAgain : ∀ provider : Int,
      (share (some provider) (settings.sorted (settings.rank candidates).1)).length ≤
        (settings.sorted candidates).length := by
    intro provider
    rw [share_sorted_rank_kept, share_rank_kept]
    exact Nat.le_trans (trim_sublist _ _).length_le (share_sublist _ _).length_le
  rw [mixed, apply_eq_rounds mixesAgain settings.providers shortAgain, sameTurns]
  simp only [share_sorted_rank_kept, share_rank_kept, share_none_rank_kept]
  exact (settings.rank_kept_eq_rounds mixes).symm

theorem mixed_rank_kept_of_not_mixes {candidates : List Candidate}
    (alone : ¬ settings.mixing.Mixes (settings.sorted candidates)) :
    settings.mixed (settings.rank candidates).1 = (settings.rank candidates).1 := by
  have aloneAgain : ¬ settings.mixing.Mixes (settings.sorted (settings.rank candidates).1) := by
    rintro ⟨on, many⟩
    rw [providersOf_sorted_rank_kept] at many
    exact alone ⟨on, many⟩
  have within : (settings.rank candidates).1.Sublist (settings.sorted candidates) := by
    rw [rank_eq, mixed, apply_of_not_mixes alone]
    exact kept_sublist _ _ _
  have inOrder := (settings.inOrder_sorted candidates).sublist within
  rw [mixed, apply_of_not_mixes aloneAgain, settings.sorted_of_inOrder inOrder]

/-- **Ranking again what was kept changes nothing.** Every share is still in order and within its
limit, and providers take the same turns. -/
theorem rank_kept (candidates : List Candidate) :
    settings.rank (settings.rank candidates).1 = ((settings.rank candidates).1, []) := by
  have settled : settings.mixed (settings.rank candidates).1 = (settings.rank candidates).1 := by
    by_cases mixes : settings.mixing.Mixes (settings.sorted candidates)
    · exact settings.mixed_rank_kept_of_mixes mixes
    · exact settings.mixed_rank_kept_of_not_mixes mixes
  have within : ∀ provider, settings.allowance provider = 0 ∨
      (share (some provider) (settings.rank candidates).1).length ≤ settings.allowance provider := by
    intro provider
    by_cases unlimited : settings.allowance provider = 0
    · exact .inl unlimited
    · rw [share_rank_kept]
      exact .inr (length_trim_le unlimited _)
  have all := kept_of_within settings.allowance (settings.rank candidates).1 within
  conv_lhs => rw [rank_eq, settled, all.1, all.2]

/-! ### The lineup of a channel -/

/-- A candidate of a channel is what its stream stands for. -/
theorem candidates_map_streamId {ids : List Int} {streams : SortedMap Int Stream}
    {stats : SortedMap Int StreamStats} {chosen : List Candidate}
    (known : ∀ c ∈ chosen, c ∈ candidates ids streams stats) :
    candidates (chosen.map (·.streamId)) streams stats = chosen := by
  rw [candidates, List.map_map]
  have itself : ∀ c ∈ chosen,
      ((fun id => Candidate.ofStats id ((streams.get? id).bind (·.account)) (stats.get? id)) ∘
        (·.streamId)) c = id c := by
    intro c member
    obtain ⟨id, _, rfl⟩ := List.mem_map.mp (known c member)
    cases found : stats.get? id <;> simp [Candidate.ofStats, found]
  rw [List.map_congr_left itself, List.map_id]

/-- **The lineup of a channel in its final order is that order**, and nobody is left out of it any
more. -/
theorem channelLineup_ordered (ids : List Int) (streams : SortedMap Int Stream)
    (stats : SortedMap Int StreamStats) :
    settings.channelLineup (settings.channelLineup ids streams stats).ordered streams stats =
      ⟨(settings.channelLineup ids streams stats).ordered, []⟩ := by
  have known :
      ∀ c ∈ (settings.rank (candidates ids streams stats)).1, c ∈ candidates ids streams stats :=
    fun c member => (settings.rank_perm _).mem_iff.mp (List.mem_append_left _ member)
  simp only [channelLineup, lineup]
  rw [candidates_map_streamId known, rank_kept]
  rfl

end StreamWatch.RankingSettings
