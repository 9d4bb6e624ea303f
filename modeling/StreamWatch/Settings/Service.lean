/-
**The settings of the service.**

Whatever a settings file leaves out has a value of its own. Settings that would make the service misbehave
are refused before it starts.

* `Settings.check`: what is wrong with settings, the first fault counting.
-/

import StreamWatch.Failure
import StreamWatch.Ranking.Settings
import StreamWatch.Task.Timing

namespace StreamWatch

open Json

/-- Where probe records are kept. -/
structure StoreSettings where
  url : String := "sqlite://./stream-health.db"
  maxConnections : Option UInt32 := some 10
deriving Inhabited

/-- How the remote is reached. -/
structure RemoteSettings where
  baseUrl : String := "http://localhost:9191"
  token : Option String := none
  timeout : Duration := .ofSeconds 30
  pageSize : UInt32 := 100
deriving Inhabited

/-- How streams are probed. -/
structure ProbingSettings where
  probeCommand : String := "ffprobe"
  sampleCommand : String := "ffmpeg"
  timeout : Duration := .ofSeconds 30
  maxConcurrent : Nat := 4
  detectBlackScreen : Bool := false
  sampleSeconds : Nat := 10
  refreshAccounts : Bool := true
deriving Inhabited

/-- How it is told that the refresh of a guide source has finished. -/
structure RefreshSettings where
  pollInterval : Duration := .ofSeconds 5
  maxWait : Duration := .ofSeconds 300
  /-- without any other sign, a refresh counts as finished after this long -/
  assumeAfter : Duration := .ofSeconds 30
deriving DecidableEq, Inhabited, Repr

/-- What is set for one task. -/
structure TaskEntry where
  enabled : Bool := true
  timing : Timing
  settings : Option Json := none
deriving Inhabited

/-- The failures in a row that strike a stream out, unless the task is told otherwise. -/
def standardThreshold : UInt32 := 5

/-- The tasks there are unless others are set. -/
def standardTasks : SortedMap String TaskEntry :=
  .ofList
    [("stream_probe", { timing := .daily "03:00" }),
     ("reprobe_failed", { timing := .interval 3600 }),
     ("struck_stream_cleanup",
      { timing := .daily "04:30"
        settings := some (.ofMembers [("failure_threshold", .ofNat standardThreshold.toNat)]) }),
     ("epg_refresh", { timing := .manual })]

/-- When tasks start by themselves. -/
structure SchedulerSettings where
  /-- how often due tasks are looked for -/
  checkInterval : Duration := .ofSeconds 30
  /-- how long a shutdown waits for running tasks -/
  shutdownGrace : Duration := .ofSeconds 30
  tasks : SortedMap String TaskEntry := standardTasks
deriving Inhabited

/-- The settings of the service. -/
structure Settings where
  store : StoreSettings := {}
  remote : RemoteSettings := {}
  probing : ProbingSettings := {}
  scheduler : SchedulerSettings := {}
  ranking : RankingSettings := {}
  refresh : RefreshSettings := {}
deriving Inhabited

/-! ### Reading -/

/-- Store settings read from a document value. -/
def StoreSettings.decode : Decoder StoreSettings :=
  let standard : StoreSettings := {}
  (StoreSettings.mk <$> Fields.withDefault "url" .string standard.url
    <*> .optional "max_connections" .halfWord).decode

/-- Remote settings read from a document value. -/
def RemoteSettings.decode : Decoder RemoteSettings :=
  let standard : RemoteSettings := {}
  (RemoteSettings.mk <$> Fields.withDefault "base_url" .string standard.baseUrl
    <*> .withDefault "api_token" (.option .string) none
    <*> .withDefault "request_timeout" .duration standard.timeout
    <*> .withDefault "page_size" .halfWord standard.pageSize).decode

/-- Probing settings read from a document value. -/
def ProbingSettings.decode : Decoder ProbingSettings :=
  let standard : ProbingSettings := {}
  (ProbingSettings.mk <$> Fields.withDefault "ffprobe_command" .string standard.probeCommand
    <*> .withDefault "ffmpeg_command" .string standard.sampleCommand
    <*> .withDefault "probe_timeout" .duration standard.timeout
    <*> .withDefault "max_concurrent_probes" .natural standard.maxConcurrent
    <*> .withDefault "black_screen_detection" .bool standard.detectBlackScreen
    <*> .withDefault "black_screen_sample_duration" .natural standard.sampleSeconds
    <*> .withDefault "refresh_accounts_before_probe" .bool standard.refreshAccounts).decode

/-- Refresh settings read from a document value. -/
def RefreshSettings.decode : Decoder RefreshSettings :=
  let standard : RefreshSettings := {}
  (RefreshSettings.mk <$> Fields.withDefault "poll_interval" .duration standard.pollInterval
    <*> .withDefault "max_wait" .duration standard.maxWait
    <*> .withDefault "assume_complete_after" .duration standard.assumeAfter).decode

/-- A task entry read from a document value. -/
def TaskEntry.decode : Decoder TaskEntry :=
  (TaskEntry.mk <$> Fields.withDefault "enabled" .bool true <*> .required "schedule" Timing.decode
    <*> .withDefault "config" (.option .any) none).decode

/-- Scheduler settings read from a document value. -/
def SchedulerSettings.decode : Decoder SchedulerSettings :=
  let standard : SchedulerSettings := {}
  let tasks : Decoder (SortedMap String TaskEntry) := fun value =>
    (Decoder.mapping TaskEntry.decode value).map SortedMap.ofList
  (SchedulerSettings.mk <$> Fields.withDefault "check_interval" .duration standard.checkInterval
    <*> .withDefault "shutdown_grace" .duration standard.shutdownGrace
    <*> .withDefault "tasks" tasks standard.tasks).decode

/-- Settings read from a document value. -/
def Settings.decode : Decoder Settings :=
  (Settings.mk <$> Fields.withDefault "database" StoreSettings.decode {}
    <*> .withDefault "remote" RemoteSettings.decode {}
    <*> .withDefault "probing" ProbingSettings.decode {}
    <*> .withDefault "scheduler" SchedulerSettings.decode {}
    <*> .withDefault "ordering" RankingSettings.decode {}
    <*> .withDefault "refresh" RefreshSettings.decode {}).decode

/-! ### Writing -/

/-- A length of time as a document value. -/
def Duration.toJson (d : Duration) : Json := .str d.format

/-- The entries that stand for store settings. -/
def StoreSettings.entries (settings : StoreSettings) : Toml.Entries :=
  Toml.plain [("url", .str settings.url),
    ("max_connections", .ofOption (fun n => .ofNat n.toNat) settings.maxConnections)]

/-- The entries that stand for remote settings; an absent token is left out. -/
def RemoteSettings.entries (settings : RemoteSettings) : Toml.Entries :=
  Toml.plain ([("base_url", Json.str settings.baseUrl)] ++
    (settings.token.map fun token => ("api_token", Json.str token)).toList ++
    [("request_timeout", settings.timeout.toJson), ("page_size", .ofNat settings.pageSize.toNat)])

/-- The entries that stand for probing settings. -/
def ProbingSettings.entries (settings : ProbingSettings) : Toml.Entries :=
  Toml.plain [("ffprobe_command", .str settings.probeCommand),
    ("ffmpeg_command", .str settings.sampleCommand), ("probe_timeout", settings.timeout.toJson),
    ("max_concurrent_probes", .ofNat settings.maxConcurrent),
    ("black_screen_detection", .bool settings.detectBlackScreen),
    ("black_screen_sample_duration", .ofNat settings.sampleSeconds),
    ("refresh_accounts_before_probe", .bool settings.refreshAccounts)]

/-- The entries that stand for refresh settings. -/
def RefreshSettings.entries (settings : RefreshSettings) : Toml.Entries :=
  Toml.plain [("poll_interval", settings.pollInterval.toJson), ("max_wait", settings.maxWait.toJson),
    ("assume_complete_after", settings.assumeAfter.toJson)]

/-- Refresh settings as a document value. -/
def RefreshSettings.toJson (settings : RefreshSettings) : Json :=
  (Toml.Node.table settings.entries).toJson

/-- The node of free settings: an object is a table of values. -/
def freeNode : Json → Toml.Node
  | .object members => .table (Toml.plain members)
  | value => .value value

/-- The entries that stand for a task entry; absent settings are left out. -/
def TaskEntry.entries (entry : TaskEntry) : Toml.Entries :=
  [("enabled", .value (.bool entry.enabled)), ("schedule", .table (Toml.plain entry.timing.members))] ++
    (entry.settings.map fun settings => ("config", freeNode settings)).toList

/-- The entries that stand for scheduler settings. -/
def SchedulerSettings.entries (settings : SchedulerSettings) : Toml.Entries :=
  [("check_interval", .value settings.checkInterval.toJson),
   ("shutdown_grace", .value settings.shutdownGrace.toJson),
   ("tasks", .table (settings.tasks.entries.map fun (id, entry) => (id, .table entry.entries)))]

/-- The entries that stand for the settings, in the order of a settings file. -/
def Settings.entries (settings : Settings) : Toml.Entries :=
  [("database", .table settings.store.entries), ("remote", .table settings.remote.entries),
   ("probing", .table settings.probing.entries), ("scheduler", .table settings.scheduler.entries),
   ("ordering", .table settings.ranking.entries), ("refresh", .table settings.refresh.entries)]

/-- Settings as a document value. -/
def Settings.toJson (settings : Settings) : Json := (Toml.Node.table settings.entries).toJson

/-! ### Bounds -/

/-- The least and the largest number of streams that are probed at a time. -/
def concurrencyBounds : Nat × Nat := (1, 16)

/-- The number of streams that are probed at a time. -/
def ProbingSettings.concurrency (settings : ProbingSettings) : Nat :=
  max concurrencyBounds.1 (min settings.maxConcurrent concurrencyBounds.2)

/-- The least and the largest number of seconds that are sampled. -/
def sampleBounds : Nat × Nat := (3, 30)

/-- The number of seconds that are sampled in search of black. -/
def ProbingSettings.sample (settings : ProbingSettings) : Nat :=
  max sampleBounds.1 (min settings.sampleSeconds sampleBounds.2)

/-- Refuses a task whose timing can never start it. -/
def checkTask (id : String) (entry : TaskEntry) : Except Failure Unit :=
  entry.timing.check.mapError fun fault =>
    let reason := fault.message
    .settings s!"scheduler.tasks.{id}: {reason}"

/-- Refuses a setting that has to be more than nothing. -/
def positive (isZero : Bool) (name : String) : Except Failure Unit :=
  if isZero then .error (.settings s!"{name} must be greater than zero") else .ok ⟨⟩

/-- Refuses settings that would make the service misbehave. -/
def Settings.check (settings : Settings) : Except Failure Unit := do
  positive settings.probing.timeout.isZero "probing.probe_timeout"
  positive settings.scheduler.checkInterval.isZero "scheduler.check_interval"
  positive settings.refresh.pollInterval.isZero "refresh.poll_interval"
  positive (settings.remote.pageSize == 0) "remote.page_size"
  settings.scheduler.tasks.entries.forM fun (id, entry) => checkTask id entry

end StreamWatch
