/-
**The media tools: how they are called and how their runs are read.**

A run of a tool is described by what can be seen of it from outside: whether it started, whether it ended in
time, how it ended and what it wrote.
-/

import StreamWatch.Probe.Report
import StreamWatch.Probe.BlackTime
import StreamWatch.Json.Reader
import StreamWatch.Text.Utf8

namespace StreamWatch

/-- The name of a program and what it is called with. -/
structure ToolCall where
  program : String
  arguments : List String
deriving DecidableEq, Repr

/-- What can be seen of a tool's run. -/
inductive ToolRun where
  /-- it could not be started -/
  | notStarted (message : String)
  /-- it was stopped when its time was up -/
  | stopped
  /-- it ended; one ended by a signal has no exit code -/
  | ended (code : Option Int) (output errors : List UInt8)
deriving DecidableEq, Repr

/-- The tools and the time each may take. -/
structure MediaTools where
  probeCommand : String
  sampleCommand : String
  timeout : Duration
deriving DecidableEq, Repr

namespace MediaTools

open Text

/-- The text of what a tool wrote. -/
def outputText (bytes : List UInt8) : String := String.ofList (decodeLossy bytes)

/-- The call that asks for the technical facts of a stream. -/
def probeCall (tools : MediaTools) (url : String) : ToolCall :=
  ⟨tools.probeCommand,
   ["-v", "error", "-print_format", "json", "-show_error", "-show_entries",
    "stream=codec_type,codec_name,width,height,avg_frame_rate,r_frame_rate,bit_rate,channels:format=bit_rate",
    "-analyzeduration", "5000000", "-probesize", "5000000", url]⟩

/-- What a run of the probing tool tells. A run that wrote nothing is a failure, whatever its exit code. -/
def readProbe (tools : MediaTools) : ToolRun → Except ProbeError Metrics
  | .notStarted message => .error (.spawn tools.probeCommand message)
  | .stopped => .error (.timeout tools.timeout.seconds.toNat)
  | .ended code output errors =>
    let text := outputText output
    if (trim text.toList).isEmpty then
      .error (.exitStatus code (firstLineOr "ffprobe produced no output" (outputText errors)))
    else
      match Json.read? text with
      | none => .error (.malformed "invalid ffprobe JSON")
      | some report => ProbeReport.parse report

/-- The call that looks for black in a sample of so many seconds. -/
def sampleCall (tools : MediaTools) (url : String) (seconds : Nat) : ToolCall :=
  ⟨tools.sampleCommand,
   ["-hide_banner", "-nostats", "-t", toString seconds, "-i", url, "-vf",
    "blackdetect=d=0.1:pix_th=0.10", "-an", "-f", "null", "-"]⟩

/-- Whether a run of the sampling tool saw a black screen. One that did not end in time saw none. -/
def readSample (tools : MediaTools) (seconds : Nat) : ToolRun → Except ProbeError Bool
  | .notStarted message => .error (.spawn tools.sampleCommand message)
  | .stopped => .ok false
  | .ended code _ errors =>
    let text := outputText errors
    if code = some 0 then
      .ok (BlackTime.isBlack (BlackTime.total text) (min (seconds * 1000) (Number.wordBound - 1)))
    else .error (.exitStatus code (firstLineOr "ffmpeg blackdetect failed" text))

end MediaTools
end StreamWatch
