/-
**Demotion is a stable partition of the quality order.**

Health is compared before quality, so candidates of one health are compared by quality alone. Hence the
list sorted by quality, its healthy candidates put before the others and nothing else moved, is sorted
by rank as stably as can be, and there is only one such list.

* `peers_demoting`: who ranks with a candidate is of the same quality and the same health;
* `stablySorted_partition`: a list sorted stably by quality and parted by health is stably sorted by rank;
* `sortByRank_demotes`: so it is what sorting by rank makes.
-/

import StreamWatch.Proofs.Ranking.Order

namespace StreamWatch.Candidate

variable {criteria : List Criterion} {providers : Providers}

/-- A stream is unhealthy when its latest probe saw a black screen, failed or ran out of time. -/
theorem isUnhealthy_iff (c : Candidate) :
    c.isUnhealthy = true ↔
      c.isBlackScreen = true ∨ c.status = some .failed ∨ c.status = some .timeout := by
  unfold isUnhealthy
  cases c.status with
  | none => simp
  | some status => cases status <;> simp [ProbeStatus.isFailure]

/-! ### Rank in one class of health -/

/-- Candidates of one health are compared by quality alone. -/
theorem compareRank_of_same_health {a b : Candidate} (same : a.isUnhealthy = b.isUnhealthy) :
    compareRank criteria true providers a b = compareRank criteria false providers a b := by
  have level : compareHealth a b = .eq := by rw [compareHealth, same]; exact Std.ReflCmp.compare_self
  simp [compareRank, level]

/-- A healthy candidate ranks before every unhealthy one. -/
theorem compareRank_of_healthy_unhealthy {a b : Candidate} (healthy : a.isUnhealthy = false)
    (unhealthy : b.isUnhealthy = true) : compareRank criteria true providers a b = .lt := by
  have before : compareHealth a b = .lt := by rw [compareHealth, healthy, unhealthy]; rfl
  simp [compareRank, before]

/-- Candidates that rank with each other are of one health. -/
theorem health_eq_of_compareRank {a b : Candidate}
    (level : compareRank criteria true providers a b = .eq) : b.isUnhealthy = a.isUnhealthy := by
  have health := (Ordering.then_eq_eq.mp level).1
  rw [if_pos rfl] at health
  exact (Std.LawfulEqOrd.eq_of_compare health).symm

/-- **Who ranks with a candidate is of the same quality and the same health.** -/
theorem peers_demoting (c : Candidate) (candidates : List Candidate) :
    peers criteria true providers c candidates =
      peers criteria false providers c (candidates.filter fun d => d.isUnhealthy = c.isUnhealthy) := by
  unfold peers
  rw [List.filter_filter]
  refine List.filter_congr fun d _ => ?_
  by_cases same : d.isUnhealthy = c.isUnhealthy
  · simp [same, compareRank_of_same_health same.symm]
  · have apart : compareRank criteria true providers c d ≠ .eq := fun level => same (health_eq_of_compareRank level)
    simp [same, apart]

/-! ### The partition -/

/-- Candidates with the healthy ones put first, each class in its order. -/
def healthyThenUnhealthy (candidates : List Candidate) : List Candidate :=
  (candidates.filter fun c => !c.isUnhealthy) ++ candidates.filter fun c => c.isUnhealthy

theorem healthyThenUnhealthy_perm (candidates : List Candidate) :
    (healthyThenUnhealthy candidates).Perm candidates := by
  have split := List.filter_append_perm (fun c : Candidate => !c.isUnhealthy) candidates
  simpa [healthyThenUnhealthy] using split

/-- Putting the healthy candidates first moves nobody within a class. -/
theorem filter_health_healthyThenUnhealthy (health : Bool) (candidates : List Candidate) :
    (healthyThenUnhealthy candidates).filter (fun c => c.isUnhealthy = health) =
      candidates.filter fun c => c.isUnhealthy = health := by
  unfold healthyThenUnhealthy
  rw [List.filter_append, List.filter_filter, List.filter_filter]
  cases health <;> simp

/-- Candidates of one health that are in order of quality are in order of rank. -/
theorem ordered_of_one_health {candidates : List Candidate} {health : Bool}
    (ordered : candidates.Pairwise fun a b => compareRank criteria false providers b a ≠ .lt)
    (one : ∀ c ∈ candidates, c.isUnhealthy = health) :
    candidates.Pairwise fun a b => compareRank criteria true providers b a ≠ .lt := by
  refine ordered.imp_of_mem fun {a b} inFirst inSecond notBehind => ?_
  rwa [compareRank_of_same_health ((one b inSecond).trans (one a inFirst).symm)]

/-- **A list sorted stably by quality and then parted by health is sorted stably by rank.** -/
theorem stablySorted_partition {candidates sorted : List Candidate}
    (byQuality : StablySorted criteria false providers candidates sorted) :
    StablySorted criteria true providers candidates (healthyThenUnhealthy sorted) := by
  refine ⟨(healthyThenUnhealthy_perm sorted).trans byQuality.perm, ?_, fun c => ?_⟩
  · have healthy (c : Candidate) (member : c ∈ sorted.filter fun c => !c.isUnhealthy) :
        c.isUnhealthy = false := by simpa using (List.mem_filter.mp member).2
    have unhealthy (c : Candidate) (member : c ∈ sorted.filter fun c => c.isUnhealthy) :
        c.isUnhealthy = true := (List.mem_filter.mp member).2
    refine List.pairwise_append.mpr ⟨?_, ?_, ?_⟩
    · exact ordered_of_one_health (byQuality.ordered.filter _) healthy
    · exact ordered_of_one_health (byQuality.ordered.filter _) unhealthy
    · intro a inFirst b inSecond
      have ahead : compareRank criteria true providers a b = .lt :=
        compareRank_of_healthy_unhealthy (healthy a inFirst) (unhealthy b inSecond)
      rw [compareRank_swap b a, ahead]
      decide
  · calc peers criteria true providers c (healthyThenUnhealthy sorted)
        = peers criteria false providers c (sorted.filter fun d => d.isUnhealthy = c.isUnhealthy) := by
          rw [peers_demoting, filter_health_healthyThenUnhealthy]
      _ = (peers criteria false providers c sorted).filter fun d => d.isUnhealthy = c.isUnhealthy :=
          List.filter_comm _ _ _
      _ = (peers criteria false providers c candidates).filter fun d => d.isUnhealthy = c.isUnhealthy := by
          rw [byQuality.peers]
      _ = peers criteria false providers c (candidates.filter fun d => d.isUnhealthy = c.isUnhealthy) :=
          List.filter_comm _ _ _
      _ = peers criteria true providers c candidates := (peers_demoting c candidates).symm

/-- **Demotion is a stable partition of the quality order.** Sorted with unhealthy candidates demoted, a list
is the healthy candidates of the list sorted by quality alone, in that order, and after them its unhealthy
ones, in that order: those that showed a black screen, failed or ran out of time. -/
theorem sortByRank_demotes (criteria : List Criterion) (providers : Providers) (candidates : List Candidate) :
    (sortByRank criteria true providers candidates =
      ((sortByRank criteria false providers candidates).filter fun c => !c.isUnhealthy) ++
        (sortByRank criteria false providers candidates).filter fun c => c.isUnhealthy) ∧
    ∀ c : Candidate, c.isUnhealthy = true ↔
      c.isBlackScreen = true ∨ c.status = some .failed ∨ c.status = some .timeout := by
  refine ⟨?_, isUnhealthy_iff⟩
  have sorted : StablySorted criteria true providers candidates _ := stablySorted_sortByRank candidates
  have partitioned : StablySorted criteria true providers candidates _ :=
    stablySorted_partition (stablySorted_sortByRank candidates)
  exact eq_of_peers_eq sorted.ordered partitioned.ordered fun c =>
    (sorted.peers c).trans (partitioned.peers c).symm

end StreamWatch.Candidate
