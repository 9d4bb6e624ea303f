/-
**What the commands do.**

A command finds its settings, makes the service ready, and then runs a task, probes an address, ranks the streams of a
channel, or serves until it is interrupted. What it prints is a document.

* `CommandLine.perform`: a command on a host;
* `CommandLine.program`: the program on a host, from its arguments.
-/

import StreamWatch.CommandLine.Arguments
import StreamWatch.CommandLine.Help
import StreamWatch.CommandLine.Session
import StreamWatch.Ranking.Lineup
import StreamWatch.Service.Control
import StreamWatch.Settings.File
import StreamWatch.Store.Address

namespace StreamWatch.CommandLine

open Json

/-- What the program finds around it. -/
structure Host where
  /-- the text files, by their paths -/
  texts : List (String × String) := []
  /-- the directories there are, and the files of databases -/
  disk : Files
  /-- what the files of databases hold, by their addresses -/
  tables : List (String × Table) := []
  /-- the variables of the environment -/
  bindings : List (String × String) := []
  transport : HttpRemote.Transport := HttpRemote.unreachable
  runTool : ToolCall → ToolRun
  now : Instant

/-- What the program prints. -/
inductive Printed where
  | document (value : Json)
  | text (text : String)

/-- How a run of the program ends. -/
structure Ending where
  exitCode : Nat
  printed : Option Printed := none
  /-- what the program complains about -/
  error : Option String := none

namespace Ending

/-- An end without a complaint. -/
def good (printed : Option Printed) : Ending := ⟨0, printed, none⟩

/-- An end with a complaint. -/
def bad (error : String) (printed : Option Printed) : Ending := ⟨1, printed, some error⟩

end Ending

/-- A step towards a command, which may end it with a complaint. -/
abbrev Step (α : Type) := Except String α

/-- The text of the settings file, and the host after it was written if there was none. -/
def settingsText (host : Host) (path : String) : Step (String × Host) :=
  match host.texts.lookup path with
  | some text => .ok (text, host)
  | none =>
    if path.isEmpty || !host.disk.hasParent path.toList then .error "No such file or directory (os error 2)"
    else
      let text := Settings.standardText
      .ok (text, { host with texts := (path, text) :: host.texts })

/-- The variable that names the settings file. -/
def pathVariable : String := "CONFIG_FILE"

/-- The path of the settings file. -/
def settingsPath (host : Host) (invocation : Invocation) : String :=
  (invocation.settingsPath <|> host.bindings.lookup pathVariable).getD "config.toml"

/-- The records to work with, and the host after the database was opened. -/
def openRecords (host : Host) (settings : StoreSettings) (isEphemeral : Bool) : Step (Records × Host) :=
  if isEphemeral then .ok (.memory .empty, host)
  else
    match Address.connect host.disk settings.url settings.maxConnections with
    | .error (.unsupported address) => .error (OpenError.message (.unsupported address))
    | .error error =>
      let url := settings.url
      let reason := error.message
      .error s!"Failed to connect to database at '{url}': {reason}"
    | .ok database =>
      if database.isWritable then
        let table := if database.isLasting then (host.tables.lookup settings.url).getD .empty else .empty
        .ok (.table table, { host with disk := database.files })
      else .error "Failed to run migrations"

/-- The host with the records kept. Those in memory are lost. -/
def keepRecords (host : Host) (settings : StoreSettings) : Records → Host
  | .memory _ => host
  | .table table => { host with tables := (settings.url, table) :: host.tables }

/-- What the service meets outside under some settings. -/
def outsideOf (host : Host) (settings : Settings) : Step Outside :=
  match HttpRemote.ofAddress? settings.remote.baseUrl settings.remote.token with
  | none => .error "Failed to create channel manager client"
  | some remote =>
    .ok
      { remote
        transport := host.transport
        tools := ⟨settings.probing.probeCommand, settings.probing.sampleCommand, settings.probing.timeout⟩
        runTool := host.runTool
        now := host.now }

/-- The duty of a task that is to run once. -/
def dutyToRun (settings : Settings) (id : String) : Step Duty :=
  match (Duty.standard settings).find? (·.id = id) with
  | none => .error s!"Unknown task '{id}'"
  | some duty =>
    match (settings.scheduler.tasks.get? id).bind (·.settings) with
    | none => .ok duty
    | some change => (duty.change change).mapError fun reason => s!"Invalid configuration for '{id}': {reason}"

/-- Runs a task once. -/
def runOnce (settings : Settings) (outside : Outside) (records : Records) (id : String) : Ending × Records :=
  match dutyToRun settings id with
  | .error error => (.bad error none, records)
  | .ok duty =>
    let session : Session := { service := .ofDuties [duty], records }
    match outside.perform (Service.execute ⟨settings, true⟩ id) session with
    | (none, session) => (.bad "Task execution aborted" none, session.records)
    | (some result, session) =>
      let printed := some (Printed.document result.toJson)
      let ending := if result.isSuccess then Ending.good printed
        else
          let code := result.error.getD "unknown error"
          Ending.bad s!"Task '{id}' did not succeed ({code})" printed
      (ending, session.records)

/-- Probes an address. -/
def probeOnce (settings : Settings) (outside : Outside) (records : Records) (url : String) :
    Ending × Records :=
  match outside.perform (Engine.probeUrl settings.probing url) { records } with
  | (some (.ok (metrics, isBlackScreen)), session) =>
    let document := ofMembers [("url", .str url), ("metrics", metrics.toJson),
      ("is_black_screen", .ofOption .bool isBlackScreen)]
    (.good (some (.document document)), session.records)
  | (_, session) => (.bad s!"Probe of {url} failed" none, session.records)

/-- What is known for ranking the streams of a channel. -/
def channelFacts (settings : Settings) (id : Int) :
    Work Service (Except String (Channel × List Stream × List StreamStats)) := do
  match ← Pages.channels settings.remote.pageSize with
  | .error error => return .error error.message
  | .ok channels =>
    match channels.find? (·.id = id) with
    | none => return .error (Failure.notFound "channel" s!"{id}").message
    | some channel =>
      match ← Work.remote (.streamsByIds channel.streams) with
      | .error error => return .error error.message
      | .ok streams =>
        match ← Work.store (.getMany channel.streams) with
        | .error error => return .error error.message
        | .ok stats => return .ok (channel, streams, stats)

/-- Ranks the streams of a channel, and puts them in that order if asked to. -/
def orderOnce (settings : Settings) (outside : Outside) (records : Records) (id : Int) (apply : Bool) :
    Ending × Records :=
  match outside.perform (channelFacts settings id) { records } with
  | (some (.ok (channel, streams, stats)), session) =>
    let lineup := settings.ranking.channelLineup channel.streams
      (.ofList (streams.map fun s => (s.id, s))) (.ofList (stats.map fun s => (s.streamId, s)))
    let printed := some (Printed.document (ofMembers [("channel_id", .int channel.id),
      ("channel_name", .str channel.name), ("current", idList channel.streams),
      ("ordered", idList lineup.ordered), ("excluded", idList lineup.excluded)]))
    if apply then
      match outside.perform (Work.remote (.updateChannel channel.id ⟨lineup.ordered⟩)) session with
      | (some (.error error), session) => (.bad error.message printed, session.records)
      | (_, session) => (.good printed, session.records)
    else (.good printed, session.records)
  | (some (.error error), session) => (.bad error none, session.records)
  | (none, session) => (.bad "the command broke off" none, session.records)

/-- Serves until it is interrupted. -/
def serve (settings : Settings) (outside : Outside) : Ending :=
  let service := Service.ofDuties (Duty.standard settings)
  let ids := (Duty.standard settings).map Duty.id
  match service.registerAll ⟨settings, true⟩ outside.now ids with
  | (.error error, _) => .bad error.message none
  | (.ok _, _) => .good none

/-- A command on a host. -/
def perform (host : Host) (invocation : Invocation) : Ending × Host :=
  match settingsText host (settingsPath host invocation) with
  | .error error => (.bad error none, host)
  | .ok (text, host) =>
    match Settings.load text host.bindings with
    | .error error => (.bad error.message none, host)
    | .ok settings =>
      match openRecords host settings.store invocation.isEphemeral with
      | .error error => (.bad error none, host)
      | .ok (records, host) =>
        match outsideOf host settings with
        | .error error => (.bad error none, host)
        | .ok outside =>
          let (ending, records) := match invocation.command with
            | .serve => (serve settings outside, records)
            | .run id => runOnce settings outside records id
            | .probe url => probeOnce settings outside records url
            | .order id apply => orderOnce settings outside records id apply
          (ending, keepRecords host settings.store records)

/-- The program on a host, from its arguments. Whoever uses it wrongly is told so. -/
def program (host : Host) (arguments : List String) : Ending × Host :=
  match parse arguments with
  | .error fault => (⟨2, none, some fault.message⟩, host)
  | .ok .version => (.good (some (.text versionText)), host)
  | .ok (.help command) => (.good (some (.text (helpText command))), host)
  | .ok (.invoke invocation) => perform host invocation

end StreamWatch.CommandLine
