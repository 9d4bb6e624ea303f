/-
**Ranking by quality.**

Candidates are compared by one criterion after the other, more being better and an absent fact counting
as zero. The sort is stable: candidates equal in every criterion keep their order. Unhealthy candidates
can be put behind all healthy ones, whatever their quality.
-/

import StreamWatch.Ranking.Candidate
import StreamWatch.Ranking.Settings

namespace StreamWatch.Candidate

/-- The priority of a candidate's provider. -/
def priority (providers : Providers) (c : Candidate) : Int :=
  (c.provider.map providers.priority).getD 0

/-- The measure of a candidate by one criterion. -/
def measure (providers : Providers) (c : Candidate) : Criterion → Int
  | .resolution => (c.pixels.getD 0).toNat
  | .bitrate => (c.bitrate.getD 0).toNat
  | .frameRate => (c.frameRate.getD Binary64.zero).rank
  | .providerPriority => c.priority providers
  | .audioChannels => (c.audioChannels.getD 0).toNat

/-- Compares two candidates by quality; the better one is less, so that it comes first. -/
def compareQuality (criteria : List Criterion) (providers : Providers) (a b : Candidate) : Ordering :=
  match criteria with
  | [] => .eq
  | criterion :: rest =>
    (compare (b.measure providers criterion) (a.measure providers criterion)).then
      (compareQuality rest providers a b)

/-- Compares two candidates by health; the healthy one is less. -/
def compareHealth (a b : Candidate) : Ordering := compare a.isUnhealthy b.isUnhealthy

/-- Compares two candidates by rank, health coming before quality where it counts. -/
def compareRank (criteria : List Criterion) (demoteUnhealthy : Bool) (providers : Providers)
    (a b : Candidate) : Ordering :=
  (if demoteUnhealthy then compareHealth a b else .eq).then (compareQuality criteria providers a b)

/-- Sorts candidates by rank, the best first; those of one rank keep their order. -/
def sortByRank (criteria : List Criterion) (demoteUnhealthy : Bool) (providers : Providers)
    (candidates : List Candidate) : List Candidate :=
  candidates.mergeSort fun a b => (compareRank criteria demoteUnhealthy providers a b).isLE

end StreamWatch.Candidate
