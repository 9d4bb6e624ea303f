/-
**What programs ask of the outside.**

Most questions go to the remote, to the store or to the media tools. Some go to the clock. One asks for a list
of streams to be probed beside each other, so many at a time.
-/

import StreamWatch.Engine.Summary
import StreamWatch.Probe.Error
import StreamWatch.Program
import StreamWatch.Remote.Call
import StreamWatch.Settings.Service
import StreamWatch.Store.Call

namespace StreamWatch

/-- A question to the outside. -/
inductive Ask where
  | remote (call : RemoteCall)
  | store (call : StoreCall)
  /-- what a stream is made of -/
  | probe (url : String)
  /-- whether a sample of a stream is black -/
  | sample (url : String) (seconds : Nat)
  | sleep (length : Duration)
  /-- the nanoseconds since some fixed point, by a clock that never goes back -/
  | clock
  /-- the time of the day -/
  | wallClock
  /-- the outcome of every one of some streams, once all have one -/
  | probeStreams (settings : ProbingSettings) (streams : List Stream)

namespace Ask

/-- The answer to a question. -/
abbrev Reply : Ask → Type
  | remote call => call.Reply
  | store call => call.Reply
  | probe _ => Except ProbeError Metrics
  | sample .. => Except ProbeError Bool
  | sleep _ => Unit
  | clock => Nat
  | wallClock => Instant
  | probeStreams .. => List (Int × StreamOutcome)

end Ask

/-- A program that asks the outside. -/
abbrev Work (σ α : Type) := Program σ Ask Ask.Reply α

namespace Work

variable {σ : Type}

/-- Asks the remote. -/
def remote (call : RemoteCall) : Work σ call.Reply := Program.get (Ask.remote call)

/-- Asks the store. -/
def store (call : StoreCall) : Work σ call.Reply := Program.get (Ask.store call)

/-- Asks the media tools what a stream is made of. -/
def probe (url : String) : Work σ (Except ProbeError Metrics) := Program.get (Ask.probe url)

/-- Asks the media tools whether a sample of a stream is black. -/
def sample (url : String) (seconds : Nat) : Work σ (Except ProbeError Bool) :=
  Program.get (Ask.sample url seconds)

/-- Lets time go by. -/
def sleep (length : Duration) : Work σ Unit := Program.get (Ask.sleep length)

/-- The nanoseconds since some fixed point. -/
def clock : Work σ Nat := Program.get Ask.clock

/-- The time of the day. -/
def now : Work σ Instant := Program.get Ask.wallClock

/-- Has streams probed beside each other. -/
def probeStreams (settings : ProbingSettings) (streams : List Stream) : Work σ (List (Int × StreamOutcome)) :=
  Program.get (Ask.probeStreams settings streams)

end Work
end StreamWatch
