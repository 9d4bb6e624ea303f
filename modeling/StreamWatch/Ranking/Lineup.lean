/-
**The lineup of a channel.**

A lineup is made in three stages: sort by quality, mix the providers, hold each to its limit.
-/

import StreamWatch.Ranking.Quality
import StreamWatch.Ranking.Mixing
import StreamWatch.Ranking.Limit
import StreamWatch.Remote.Resource

namespace StreamWatch

/-- The streams of a channel in their final order, and those its limits leave out. -/
structure Lineup where
  ordered : List Int
  excluded : List Int
deriving DecidableEq, Inhabited, Repr

namespace RankingSettings

/-- The first stage: candidates by quality, when that is switched on. -/
def sorted (settings : RankingSettings) (candidates : List Candidate) : List Candidate :=
  if settings.sortByQuality then
    Candidate.sortByRank settings.enabledCriteria settings.demoteUnhealthy settings.providers candidates
  else candidates

/-- All three stages: the candidates kept and those left out. -/
def rank (settings : RankingSettings) (candidates : List Candidate) :
    List Candidate × List Candidate :=
  settings.limit.apply settings.providers
    (settings.mixing.apply settings.providers (settings.sorted candidates))

/-- The lineup of candidates. -/
def lineup (settings : RankingSettings) (candidates : List Candidate) : Lineup :=
  let (kept, left) := settings.rank candidates
  ⟨kept.map (·.streamId), left.map (·.streamId)⟩

/-- The candidates that the streams of a channel stand for. A stream that is not known belongs to no
provider. -/
def candidates (ids : List Int) (streams : SortedMap Int Stream) (stats : SortedMap Int StreamStats) :
    List Candidate :=
  ids.map fun id => Candidate.ofStats id ((streams.get? id).bind (·.account)) (stats.get? id)

/-- The lineup of a channel's streams from what is known of them. -/
def channelLineup (settings : RankingSettings) (ids : List Int) (streams : SortedMap Int Stream)
    (stats : SortedMap Int StreamStats) : Lineup :=
  settings.lineup (candidates ids streams stats)

end RankingSettings
end StreamWatch
