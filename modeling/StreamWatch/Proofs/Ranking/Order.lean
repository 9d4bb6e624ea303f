/-
**Rank is an order, and sorting by it is stable.**

Comparing by rank is comparing by one measure after the other, so it is total and transitive
whatever the criteria are. That is what a merge sort needs to be a stable sort:

* `sortByRank_perm`: sorting moves candidates and drops none;
* `pairwise_sortByRank`: nobody stands before a better one;
* `sortByRank_of_pairwise`: a list in order stays as it is;
* `filter_sortByRank`: sorting keeps what is chosen from a list when that is in order already;
* `share_sortByRank`: so it keeps the share of a provider that is in order;
* `sortByRank_stable`: sorting is stable, and no other list is sorted as stably.
-/

import StreamWatch.Ranking.Quality
import StreamWatch.Proofs.Ranking.Share

namespace StreamWatch.Candidate

variable (criteria : List Criterion) (demote : Bool) (providers : Providers)

/-! ### The order -/

/-- Comparing by quality is a total order up to ties. -/
instance compareQuality_transCmp : Std.TransCmp (compareQuality criteria providers) := by
  induction criteria with
  | nil => exact { eq_swap := rfl, isLE_trans := fun _ _ => rfl }
  | cons criterion rest ih =>
    have byMeasure : Std.TransCmp fun a b : Candidate =>
        compare (b.measure providers criterion) (a.measure providers criterion) :=
      @Std.TransCmp.opposite _ _
        (inferInstanceAs (Std.TransCmp (compareOn (measure providers · criterion))))
    exact inferInstanceAs (Std.TransCmp (compareLex _ (compareQuality rest providers)))

/-- Comparing by health is a total order up to ties. -/
instance compareHealth_transCmp : Std.TransCmp compareHealth :=
  inferInstanceAs (Std.TransCmp (compareOn isUnhealthy))

/-- **Comparing by rank is a total order** up to ties. -/
instance compareRank_transCmp : Std.TransCmp (compareRank criteria demote providers) := by
  cases demote with
  | false => exact inferInstanceAs (Std.TransCmp (compareQuality criteria providers))
  | true =>
    exact inferInstanceAs (Std.TransCmp (compareLex compareHealth (compareQuality criteria providers)))

/-- Whether a candidate ranks no lower than another. -/
def ranksBefore (a b : Candidate) : Bool := (compareRank criteria demote providers a b).isLE

theorem ranksBefore_trans (a b c : Candidate) (first : ranksBefore criteria demote providers a b = true)
    (second : ranksBefore criteria demote providers b c = true) :
    ranksBefore criteria demote providers a c = true :=
  Std.TransCmp.isLE_trans first second

theorem ranksBefore_total (a b : Candidate) :
    (ranksBefore criteria demote providers a b ||
      ranksBefore criteria demote providers b a) = true := by
  rw [Bool.or_eq_true]
  by_cases before : ranksBefore criteria demote providers a b = true
  · exact .inl before
  · have after := Std.OrientedCmp.lt_of_not_isLE before
    exact .inr (by rw [ranksBefore, after]; rfl)

/-! ### The sort -/

theorem sortByRank_perm (candidates : List Candidate) :
    (sortByRank criteria demote providers candidates).Perm candidates :=
  List.mergeSort_perm _ _

/-- Nobody stands before a better one. -/
theorem pairwise_sortByRank (candidates : List Candidate) :
    (sortByRank criteria demote providers candidates).Pairwise
      fun a b => ranksBefore criteria demote providers a b = true :=
  List.pairwise_mergeSort (ranksBefore_trans criteria demote providers)
    (ranksBefore_total criteria demote providers) candidates

/-- A list in order stays as it is. -/
theorem sortByRank_of_pairwise {candidates : List Candidate}
    (inOrder : candidates.Pairwise fun a b => ranksBefore criteria demote providers a b = true) :
    sortByRank criteria demote providers candidates = candidates :=
  List.mergeSort_of_pairwise inOrder

/-- **Sorting keeps what is chosen from a list when that is in order already.** It is a sorted part of the
list, so it is a part of the sorted list, and there is no room there for anything else that is chosen. -/
theorem filter_sortByRank {chosen : Candidate → Bool} {candidates : List Candidate}
    (inOrder : (candidates.filter chosen).Pairwise
      fun a b => ranksBefore criteria demote providers a b = true) :
    (sortByRank criteria demote providers candidates).filter chosen = candidates.filter chosen := by
  have part : (candidates.filter chosen).Sublist (sortByRank criteria demote providers candidates) :=
    List.sublist_mergeSort (ranksBefore_trans criteria demote providers)
      (ranksBefore_total criteria demote providers) inOrder List.filter_sublist
  have within := part.filter chosen
  rw [List.filter_filter] at within
  simp only [Bool.and_self] at within
  have sized : ((sortByRank criteria demote providers candidates).filter chosen).length =
      (candidates.filter chosen).length :=
    ((sortByRank_perm criteria demote providers candidates).filter _).length_eq
  exact (within.eq_of_length sized.symm).symm

/-- Sorting keeps a share that is in order already. -/
theorem share_sortByRank {provider : Option Int} {candidates : List Candidate}
    (inOrder : (share provider candidates).Pairwise
      fun a b => ranksBefore criteria demote providers a b = true) :
    share provider (sortByRank criteria demote providers candidates) = share provider candidates :=
  filter_sortByRank criteria demote providers inOrder

/-! ### Stability -/

/-- Those of some candidates that rank with another one, in their order. -/
def peers (c : Candidate) (candidates : List Candidate) : List Candidate :=
  candidates.filter fun d => compareRank criteria demote providers c d = .eq

/-- **A list is sorted stably**: it holds the same candidates, nobody stands before a better one, and those
of one rank keep their order. -/
structure StablySorted (candidates sorted : List Candidate) : Prop where
  perm : sorted.Perm candidates
  ordered : sorted.Pairwise fun a b => compareRank criteria demote providers b a ≠ .lt
  peers : ∀ c, peers criteria demote providers c sorted = peers criteria demote providers c candidates

variable {criteria demote providers}

theorem mem_peers {c d : Candidate} {candidates : List Candidate} :
    d ∈ peers criteria demote providers c candidates ↔
      d ∈ candidates ∧ compareRank criteria demote providers c d = .eq := by
  simp only [peers, List.mem_filter, decide_eq_true_eq]

theorem self_mem_peers {c : Candidate} {candidates : List Candidate} :
    c ∈ peers criteria demote providers c candidates ↔ c ∈ candidates := by
  rw [mem_peers, and_iff_left Std.ReflCmp.compare_self]

theorem peers_cons (c first : Candidate) (rest : List Candidate) :
    peers criteria demote providers c (first :: rest) =
      if compareRank criteria demote providers c first = .eq then
        first :: peers criteria demote providers c rest
      else peers criteria demote providers c rest := by
  simp only [peers, List.filter_cons, decide_eq_true_eq]

theorem compareRank_swap (a b : Candidate) :
    compareRank criteria demote providers a b = (compareRank criteria demote providers b a).swap :=
  Std.OrientedCmp.eq_swap

/-- Nobody is worse than who ranks no lower, and who is not worse ranks no lower. -/
theorem ranksBefore_iff {a b : Candidate} :
    ranksBefore criteria demote providers a b = true ↔ compareRank criteria demote providers b a ≠ .lt := by
  rw [ranksBefore, compareRank_swap a b]
  cases compareRank criteria demote providers b a <;> decide

/-- Candidates that rank with another one rank with each other. -/
theorem pairwise_peers (c : Candidate) (candidates : List Candidate) :
    (peers criteria demote providers c candidates).Pairwise
      fun a b => ranksBefore criteria demote providers a b = true := by
  refine List.pairwise_of_forall_mem_list fun a firstPeer b secondPeer => ?_
  have first := (mem_peers.mp firstPeer).2
  have second := (mem_peers.mp secondPeer).2
  have same : compareRank criteria demote providers a b = .eq :=
    Std.TransCmp.eq_trans (Std.OrientedCmp.eq_symm first) second
  rw [ranksBefore, same]
  rfl

theorem stablySorted_sortByRank (candidates : List Candidate) :
    StablySorted criteria demote providers candidates (sortByRank criteria demote providers candidates) where
  perm := sortByRank_perm criteria demote providers candidates
  ordered := (pairwise_sortByRank criteria demote providers candidates).imp ranksBefore_iff.mp
  peers c := filter_sortByRank criteria demote providers (pairwise_peers c candidates)

/-- In a list in order the first candidate ranks no lower than any other. -/
theorem not_better_of_mem {first c : Candidate} {rest : List Candidate}
    (ordered : (first :: rest).Pairwise fun a b => compareRank criteria demote providers b a ≠ .lt)
    (member : c ∈ first :: rest) : compareRank criteria demote providers c first ≠ .lt := by
  rcases List.mem_cons.mp member with rfl | later
  · exact fun less => nomatch less.symm.trans Std.ReflCmp.compare_self
  · exact (List.pairwise_cons.mp ordered).1 c later

theorem mem_iff_of_peers_eq {one other : List Candidate}
    (same : ∀ c, peers criteria demote providers c one = peers criteria demote providers c other) (c : Candidate) :
    c ∈ one ↔ c ∈ other := by
  have itself (list : List Candidate) : c ∈ peers criteria demote providers c list ↔ c ∈ list := self_mem_peers
  rw [← itself one, same, itself other]

/-- **A list in order is told by the order among those of each rank.** The first candidates of two such lists
rank with each other, so they are the first of their rank in both. -/
theorem eq_of_peers_eq {one other : List Candidate}
    (ordered : one.Pairwise fun a b => compareRank criteria demote providers b a ≠ .lt)
    (otherOrdered : other.Pairwise fun a b => compareRank criteria demote providers b a ≠ .lt)
    (same : ∀ c, peers criteria demote providers c one = peers criteria demote providers c other) :
    one = other := by
  induction one generalizing other with
  | nil =>
    cases other with
    | nil => rfl
    | cons b more => exact absurd ((mem_iff_of_peers_eq same b).mpr List.mem_cons_self) List.not_mem_nil
  | cons a rest ih =>
    cases other with
    | nil => exact absurd ((mem_iff_of_peers_eq same a).mp List.mem_cons_self) List.not_mem_nil
    | cons b more =>
      have notBehind := not_better_of_mem otherOrdered ((mem_iff_of_peers_eq same a).mp List.mem_cons_self)
      have notAhead := not_better_of_mem ordered ((mem_iff_of_peers_eq same b).mpr List.mem_cons_self)
      have level : compareRank criteria demote providers a b = .eq := by
        rw [compareRank_swap b a] at notAhead
        cases compared : compareRank criteria demote providers a b with
        | lt => exact absurd compared notBehind
        | eq => rfl
        | gt => exact absurd (congrArg Ordering.swap compared) notAhead
      have heads := same a
      rw [peers_cons, peers_cons, if_pos Std.ReflCmp.compare_self, if_pos level] at heads
      obtain rfl := (List.cons.inj heads).1
      have tails (c : Candidate) :
          peers criteria demote providers c rest = peers criteria demote providers c more := by
        have whole := same c
        rw [peers_cons, peers_cons] at whole
        split at whole
        · exact (List.cons.inj whole).2
        · exact whole
      rw [ih (List.pairwise_cons.mp ordered).2 (List.pairwise_cons.mp otherOrdered).2 tails]

/-- **Sorting by rank is a stable sort**, whatever the criteria are and whatever is known of the candidates.
Comparing by rank is a total order up to ties, the sorted list is the only one that is sorted stably, and
sorting it again changes nothing. -/
theorem sortByRank_stable (criteria : List Criterion) (demote : Bool) (providers : Providers) :
    Std.TransCmp (compareRank criteria demote providers) ∧
      ∀ candidates,
        (∀ sorted, StablySorted criteria demote providers candidates sorted ↔
          sorted = sortByRank criteria demote providers candidates) ∧
        sortByRank criteria demote providers (sortByRank criteria demote providers candidates) =
          sortByRank criteria demote providers candidates := by
  refine ⟨inferInstance, fun candidates => ⟨fun sorted => ⟨fun stably => ?_, ?_⟩, ?_⟩⟩
  · have itself : StablySorted criteria demote providers candidates _ := stablySorted_sortByRank candidates
    exact eq_of_peers_eq stably.ordered itself.ordered fun c => (stably.peers c).trans (itself.peers c).symm
  · rintro rfl
    exact stablySorted_sortByRank candidates
  · exact sortByRank_of_pairwise criteria demote providers (pairwise_sortByRank criteria demote providers candidates)

end StreamWatch.Candidate
