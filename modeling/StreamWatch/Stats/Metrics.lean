/-
**What a successful probe tells about a stream.**

* `Resolution.pixels?`: the number of pixels a written resolution such as `1920x1080` stands for.
-/

import StreamWatch.Json.Decode
import StreamWatch.Json.Writer

namespace StreamWatch

open Text Number

/-- The technical facts of a stream; a fact the probe did not tell is absent. Bit rates are in
thousands of bits per second. -/
structure Metrics where
  resolution : Option String := none
  bitrate : Option UInt64 := none
  videoBitrate : Option UInt64 := none
  frameRate : Option Binary64 := none
  audioChannels : Option UInt32 := none
  videoCodec : Option String := none
  audioCodec : Option String := none
deriving DecidableEq, Inhabited, Repr

namespace Resolution

/-- The text of a width and a height. -/
def format (width height : UInt64) : String :=
  toString width.toNat ++ "x" ++ toString height.toNat

/-- The number of pixels of a width and a height with one `x` between them, blanks around each let
pass. -/
def pixels? (text : String) : Option UInt64 := do
  let (width, height) ← splitOnce? (fun c => c == 'x' || c == 'X') (trim text.toList)
  pure ((← word? (trim width)) * (← word? (trim height)))

end Resolution

namespace Metrics

/-- The number of pixels of the resolution. -/
def pixels? (metrics : Metrics) : Option UInt64 :=
  metrics.resolution.bind Resolution.pixels?

/-- The fields of the metrics in documents. -/
def fields : Json.Fields Metrics :=
  Metrics.mk <$> .optional "resolution" .string <*> .optional "bitrate" .word
    <*> .optional "video_bitrate" .word <*> .optional "fps" .real
    <*> .optional "audio_channels" .halfWord <*> .optional "video_codec" .string
    <*> .optional "audio_codec" .string

/-- Metrics read from a document value. -/
def decode : Json.Decoder Metrics := fields.decode

/-- The members that stand for the metrics in documents. -/
def members (metrics : Metrics) : List (String × Json) :=
  [("resolution", .ofOption .str metrics.resolution),
   ("bitrate", .ofOption (fun n => .ofNat n.toNat) metrics.bitrate),
   ("video_bitrate", .ofOption (fun n => .ofNat n.toNat) metrics.videoBitrate),
   ("fps", .ofOption .real metrics.frameRate),
   ("audio_channels", .ofOption (fun n => .ofNat n.toNat) metrics.audioChannels),
   ("video_codec", .ofOption .str metrics.videoCodec),
   ("audio_codec", .ofOption .str metrics.audioCodec)]

/-- The metrics as a document value. -/
def toJson (metrics : Metrics) : Json := .ofMembers metrics.members

end Metrics
end StreamWatch
