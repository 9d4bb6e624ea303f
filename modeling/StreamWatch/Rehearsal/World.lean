/-
**The world of a rehearsal.**

The service meets a remote, a store and media tools that follow a script. Whatever is asked of the remote and of
the media tools is noted down.

* `Stage.reply`: how the outside answers a question;
* `Stage.onService`: what the service does, as a play.
-/

import StreamWatch.Rehearsal.Script
import StreamWatch.Rehearsal.Thread
import StreamWatch.Service.Execution
import StreamWatch.Store.Memory

namespace StreamWatch.Rehearsal

open Program

/-- What a job came to that has ended. -/
inductive Ending where
  | run (result : Except EngineError RunSummary)
  | execution (result : TaskResult)
  | checks
  /-- it broke off -/
  | broken

/-- The world of a rehearsal. -/
structure World where
  service : Service := {}
  memory : Memory := .empty
  resources : Resources := {}
  /-- how often guide sources were looked at -/
  looks : SortedMap Int Nat := .empty
  /-- the calls to the remote that were not collected yet -/
  calls : List String := []
  /-- the addresses probed that were not collected yet -/
  probed : List String := []
  /-- the samples taken that were not collected yet -/
  samples : List String := []
  /-- the number of the next job -/
  nextJob : Nat := 0
  endings : List (Nat × Ending) := []
  /-- the jobs that were asked to end -/
  dismissed : List Nat := []
  /-- how many executions the scheduler has under way -/
  underWay : Nat := 0
  /-- the probe runs launched whose ends nobody has waited for, the oldest first -/
  runs : List Nat := []
  /-- the executions launched whose ends nobody has waited for, the oldest first -/
  executions : List Nat := []
deriving Inhabited

/-- What a rehearsal is of. The time of the day stands still. -/
structure Stage where
  setup : Setup := {}
  script : Script := {}
  now : Instant
deriving Inhabited

/-- Work that a thread of its own does. A job is known by its number. -/
inductive Job where
  | probeRun (number : Nat) (only : Option (List Int)) (skipRefresh : Bool)
  | execution (number : Nat) (id : String)
  /-- an execution that the scheduler keeps an eye on -/
  | scheduled (id : String)
  /-- looking for due tasks again and again -/
  | checks (number : Nat)

/-- A program of a rehearsal. -/
abbrev Scenario (α : Type) := Play World Job (Int × StreamOutcome) α

namespace World

/-- The world with the service changed. -/
def putService (service : Service) (world : World) : World := { world with service }

/-- The world with a line noted down about a call. -/
def noteCall (line : String) (world : World) : World := { world with calls := world.calls ++ [line] }

/-- The world with an address noted down. -/
def noteProbe (url : String) (world : World) : World := { world with probed := world.probed ++ [url] }

/-- The world with a line noted down about a sample. -/
def noteSample (line : String) (world : World) : World := { world with samples := world.samples ++ [line] }

/-- The page of some items that a call asks for. -/
def page {α : Type} (endless : Bool) (items : List α) (number : Nat) (size : UInt32) : Page α :=
  let size := size.toNat
  { results := (items.drop ((number - 1) * size)).take size
    count := items.length
    next := if endless ∨ number * size < items.length then some "next" else none }

/-- The first item of some kind with other streams. -/
def updateFirst (id : Int) (streams : List Int) : List Channel → List Channel
  | [] => []
  | channel :: rest =>
    if channel.id = id then { channel with streams } :: rest else channel :: updateFirst id streams rest

/-- A look at a guide source. -/
def lookAt (script : Script) (id : Int) (world : World) : Except RemoteError GuideSource × World :=
  let number := (world.looks.get? id).getD 0
  let reply := match world.resources.sources.find? (·.id = id), script.look? id number with
    | none, _ => .error (.status 404 "unknown source")
    | some source, none => .ok source
    | some source, some (.ok updatedAt) => .ok { source with updatedAt }
    | some _, some (.error error) => .error error
  (reply, { world with looks := world.looks.insert id (number + 1) })

/-- What the remote answers a call with that does not fail, and the world after it. -/
def remoteReply (script : Script) (world : World) : (call : RemoteCall) → call.Reply × World
  | .channels number size => (.ok (page script.endlessPages world.resources.channels number size), world)
  | .updateChannel id update =>
    (.ok (), { world with resources := { world.resources with
      channels := updateFirst id update.streams world.resources.channels } })
  | .streams number size => (.ok (page script.endlessPages world.resources.streams number size), world)
  | .streamsByIds ids =>
    (.ok (ids.filterMap fun id => world.resources.streams.find? (·.id = id)), world)
  | .guideSources => (.ok world.resources.sources, world)
  | .guideSource id => world.lookAt script id
  | .refreshGuideSource _ => (.ok (), world)
  | .accounts => (.ok world.resources.accounts, world)
  | .refreshAccount _ => (.ok (), world)

/-- What the store answers a call with, and the world after it. -/
def storeReply (stage : Stage) (world : World) (call : StoreCall) : call.Reply × World :=
  match stage.script.storeFault? call with
  | some error => (.error error, world)
  | none =>
    let (reply, memory) := world.memory.answer stage.now call
    (reply, { world with memory })

/-- Keeps what a job came to. The first ending counts. -/
def close (number : Nat) (ending : Ending) (world : World) : World :=
  if (world.endings.lookup number).isSome then world
  else { world with endings := world.endings ++ [(number, ending)] }

end World

namespace Stage

/-- A strand that lets milliseconds go by. -/
def pause (millis : Nat) : Strand World Unit := Program.get (Pause.sleep (.ofMillis millis))

/-- Asks the engine or a task to stop. -/
def stop (stage : Stage) (who : String) : Strand World Unit :=
  let request : Strand Service Unit :=
    if who = "engine" then change fun service => { service with engine := service.engine.cancel }
    else Service.cancelTask stage.setup who
  request.zoom (·.service) World.putService

/-- Asks someone to stop, if anyone. -/
def stopAny (stage : Stage) : Option String → Strand World Unit
  | none => pure ()
  | some who => stage.stop who

/-- A strand that changes the world and tells something of it. -/
def exchanging {α : Type} (f : World → α × World) : Strand World α := do
  return (f (← exchange fun world => (f world).2)).1

/-- How the remote answers a call: it is noted down and takes its time; then someone may be asked to stop. There is
no answer for a page without a number. -/
def remoteReply (stage : Stage) (call : RemoteCall) : Strand World call.Reply := do
  unless call.isNumbered do breakOff
  let key := callKey call
  change (World.noteCall (key ++ callNote call))
  pause ((stage.script.delays.lookup key).getD 0)
  stage.stopAny (stage.script.stops.lookup key)
  match stage.script.faults.lookup key with
  | some error => return .error error
  | none => exchanging fun world => world.remoteReply stage.script call

/-- What a media tool that fails answers, if it answers at all. -/
def toolReply {α : Type} : Except ToolFault α → Strand World (Except ProbeError α)
  | .ok value => pure (.ok value)
  | .error (.fails error) => pure (.error error)
  | .error .breaks => breakOff

/-- How the media tools answer what a stream is made of. -/
def probeReply (stage : Stage) (url : String) : Strand World (Except ProbeError Metrics) := do
  let tool := stage.script.tool url
  change (World.noteProbe url)
  pause tool.delay
  stage.stopAny tool.stops
  toolReply tool.metrics

/-- How the media tools answer whether a sample is black. -/
def sampleReply (stage : Stage) (url : String) (seconds : Nat) : Strand World (Except ProbeError Bool) := do
  let tool := stage.script.tool url
  change (World.noteSample s!"{url} {seconds}")
  pause tool.sampleDelay
  toolReply tool.isBlack

/-- How the outside answers a strand. A strand asks for no streams to be probed beside it. -/
def reply (stage : Stage) : (ask : Ask) → Strand World ask.Reply
  | .remote call => stage.remoteReply call
  | .store call => exchanging fun world => world.storeReply stage call
  | .probe url => stage.probeReply url
  | .sample url seconds => stage.sampleReply url seconds
  | .sleep length => Program.get (Pause.sleep length)
  | .clock => Program.get Pause.clock
  | .wallClock => pure stage.now
  | .probeStreams .. => breakOff

/-- What a run does with one stream, as a strand. -/
def probeStream (stage : Stage) (settings : ProbingSettings) (stream : Stream) :
    Strand World (Int × StreamOutcome) :=
  ((Service.onEngine (Engine.probeStream settings stream)).zoom (·.service) World.putService).answering
    stage.reply

/-- How a thread pauses as a strand does. -/
def pauseReply : (pause : Pause) → Scenario pause.Reply
  | .sleep length => do
    let _ ← Program.get (Wait.condition (fun _ => false) (some length))
    return ()
  | .clock => Program.get Wait.clock

/-- How the outside answers a thread. -/
def threadReply (stage : Stage) : (ask : Ask) → Scenario ask.Reply
  | .probeStreams settings streams =>
    Program.get (Wait.together settings.concurrency (streams.map (stage.probeStream settings)))
  | .remote call => (stage.remoteReply call).answering pauseReply
  | .store call => (stage.reply (.store call)).answering pauseReply
  | .probe url => (stage.reply (.probe url)).answering pauseReply
  | .sample url seconds => (stage.reply (.sample url seconds)).answering pauseReply
  | .sleep length => (stage.reply (.sleep length)).answering pauseReply
  | .clock => (stage.reply .clock).answering pauseReply
  | .wallClock => (stage.reply .wallClock).answering pauseReply

/-- What the service does, as a play. -/
def onService {α : Type} (stage : Stage) (work : Work Service α) : Scenario α :=
  (work.zoom (·.service) World.putService).answering stage.threadReply

end Stage
end StreamWatch.Rehearsal
