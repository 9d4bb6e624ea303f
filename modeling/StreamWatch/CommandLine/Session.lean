/-
**The service behind a command.**

A command uses the service alone: it asks a remote over the web, keeps records in memory or in a table, and has the
media tools run.

* `Outside.reply`: how the outside answers a question;
* `Outside.perform`: what the service does for a command.
-/

import StreamWatch.Probe.Tool
import StreamWatch.Remote.Http
import StreamWatch.Service.Execution
import StreamWatch.Store.Records

namespace StreamWatch.CommandLine

/-- What the service meets outside. -/
structure Outside where
  remote : HttpRemote
  transport : HttpRemote.Transport
  tools : MediaTools
  /-- how a media tool fares that is called -/
  runTool : ToolCall → ToolRun
  now : Instant

/-- The service, its records, and the nanoseconds it has slept. -/
structure Session where
  service : Service := {}
  records : Records
  slept : Nat := 0
deriving Inhabited

namespace Outside

variable (outside : Outside)

/-- How the outside answers a question about a single stream, or about none. There is no answer for a page without
a number. -/
def plainReply : (ask : Ask) → Session → Option ask.Reply × Session
  | .remote call, session =>
    (if call.isNumbered then some (outside.remote.answer outside.transport call) else none, session)
  | .store call, session =>
    let (reply, records) := session.records.answer outside.now call
    (some reply, { session with records })
  | .probe url, session =>
    (some (outside.tools.readProbe (outside.runTool (outside.tools.probeCall url))), session)
  | .sample url seconds, session =>
    (some (outside.tools.readSample seconds (outside.runTool (outside.tools.sampleCall url seconds))), session)
  | .sleep length, session => (some (), { session with slept := session.slept + length.toNanos })
  | .clock, session => (some session.slept, session)
  | .wallClock, session => (some outside.now, session)
  | .probeStreams .., session => (none, session)

/-- The session with the service changed. -/
def putService (service : Service) (session : Session) : Session := { session with service }

/-- Has streams probed, one after the other. -/
def probeEach (settings : ProbingSettings) :
    List Stream → Session → Option (List (Int × StreamOutcome)) × Session
  | [], session => (some [], session)
  | stream :: rest, session =>
    let work := (Service.onEngine (Engine.probeStream settings stream)).zoom (·.service) putService
    match work.alone outside.plainReply session with
    | (none, session) => (none, session)
    | (some outcome, session) =>
      let (outcomes, session) := probeEach settings rest session
      (outcomes.map (outcome :: ·), session)

/-- How the outside answers a question. -/
def reply : (ask : Ask) → Session → Option ask.Reply × Session
  | .probeStreams settings streams, session => outside.probeEach settings streams session
  | .remote call, session => outside.plainReply (.remote call) session
  | .store call, session => outside.plainReply (.store call) session
  | .probe url, session => outside.plainReply (.probe url) session
  | .sample url seconds, session => outside.plainReply (.sample url seconds) session
  | .sleep length, session => outside.plainReply (.sleep length) session
  | .clock, session => outside.plainReply .clock session
  | .wallClock, session => outside.plainReply .wallClock session

/-- What the service does for a command. -/
def perform {α : Type} (work : Work Service α) (session : Session) : Option α × Session :=
  (work.zoom (·.service) putService).alone outside.reply session

end Outside
end StreamWatch.CommandLine
