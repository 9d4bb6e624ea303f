/-
**Reading the report of a media probe.**

A report lists the streams of a medium and facts about the whole. Of the streams only the first of video
and the first of audio are looked at. A fact that is absent or of the wrong kind is left out; only a report
of an error, or one without video and audio, tells nothing at all.
-/

import StreamWatch.Probe.Error
import StreamWatch.Stats.Metrics

namespace StreamWatch

open Number Text

namespace FrameRate

/-- A positive finite rate rounded to hundredths. -/
def rounded? (rate : Float) : Option Binary64 :=
  if rate.isFinite && rate > 0 then some (Binary64.ofFloat ((rate * 100).round / 100)) else none

/-- The frames per second of a number, or of two numbers with a slash between them. -/
def parse? (text : String) : Option Binary64 :=
  match splitOnce? (· == '/') text.toList with
  | some (upper, lower) => do
    let upper ← real? (trim upper)
    let lower ← real? (trim lower)
    if lower.toFloat == 0 then none else rounded? (upper.toFloat / lower.toFloat)
  | none => do
    let rate ← real? (trim text.toList)
    rounded? rate.toFloat

end FrameRate

namespace ProbeReport

/-- Thousands of bits per second from a number of bits per second or its text; zero says nothing. -/
def kilobits? (value : Option Json) : Option UInt64 := do
  let bits ← match ← value with
    | .str text => word? text.toList
    | other => other.word?
  if bits = 0 then none else some (bits / 1000)

/-- A text member. -/
def text? (entry : Json) (name : String) : Option String := (entry.member? name).bind (·.text?)

/-- A member that is a natural number. -/
def word? (entry : Json) (name : String) : Option UInt64 := (entry.member? name).bind (·.word?)

/-- The first entry of a kind. -/
def entry? (report : Json) (kind : String) : Option Json :=
  (((report.member? "streams").bind (·.list?)).getD []).find? fun entry =>
    text? entry "codec_type" == some kind

/-- The resolution of a video entry, when both sides are positive. -/
def resolution? (video : Json) : Option String := do
  let width ← word? video "width"
  let height ← word? video "height"
  if width = 0 ∨ height = 0 then none else some (Resolution.format width height)

/-- The frame rate of a video entry: the average one if it says anything, else the base one. -/
def frameRate? (video : Json) : Option Binary64 :=
  ["avg_frame_rate", "r_frame_rate"].findSome? fun name =>
    (text? video name).bind FrameRate.parse?

/-- What a probe tells from its video entry, its audio entry and the bit rate of the whole. -/
def metrics (video audio total : Option Json) : Metrics :=
  let videoBitrate := kilobits? (video.bind (·.member? "bit_rate"))
  { resolution := video.bind resolution?
    bitrate := kilobits? total <|> videoBitrate
    videoBitrate := videoBitrate
    frameRate := video.bind frameRate?
    audioChannels := (audio.bind (word? · "channels")).map (·.toUInt32)
    videoCodec := video.bind (text? · "codec_name")
    audioCodec := audio.bind (text? · "codec_name") }

/-- The error a report tells of. -/
def toError (error : Json) : ProbeError :=
  .exitStatus (((error.member? "code").bind (·.signedWord?)).map fun code => Int.bmod code halfBound)
    ((text? error "string").getD "Unknown ffprobe error")

/-- What a report tells about a stream. -/
def parse (report : Json) : Except ProbeError Metrics :=
  match report.member? "error" with
  | some error => .error (toError error)
  | none =>
    let video := entry? report "video"
    let audio := entry? report "audio"
    if video.isNone && audio.isNone then .error (.malformed "no audio or video streams found")
    else .ok (metrics video audio ((report.member? "format").bind (·.member? "bit_rate")))

end ProbeReport
end StreamWatch
