/-
**The facts a ranking looks at.**
-/

import StreamWatch.Stats.Record

namespace StreamWatch

/-- A stream of a channel with the facts that decide its rank. -/
structure Candidate where
  streamId : Int
  provider : Option Int := none
  pixels : Option UInt64 := none
  bitrate : Option UInt64 := none
  frameRate : Option Binary64 := none
  audioChannels : Option UInt32 := none
  status : Option ProbeStatus := none
  isBlackScreen : Bool := false
deriving DecidableEq, Inhabited, Repr

namespace Candidate

/-- The facts about a stream from the record of its latest probe, if it was ever probed. -/
def ofStats (streamId : Int) (provider : Option Int) : Option StreamStats → Candidate
  | none => { streamId, provider }
  | some stats =>
    { streamId, provider
      pixels := stats.metrics.pixels?
      bitrate := stats.metrics.bitrate
      frameRate := stats.metrics.frameRate
      audioChannels := stats.metrics.audioChannels
      status := some stats.status
      isBlackScreen := stats.isBlack }

/-- Whether the latest probe failed, ran out of time or saw a black screen. -/
def isUnhealthy (c : Candidate) : Bool :=
  c.isBlackScreen || (c.status.map (·.isFailure)).getD false

end Candidate
end StreamWatch
