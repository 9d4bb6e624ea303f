/-
**The program.**

The settings file and the variables of the environment are read and handed to the command line; what comes of it is
printed. The remote is not reached from here and no media tool is started: commands that need them say so.
-/

import StreamWatch.CommandLine.Run
import StreamWatch.Json.Writer
import Std.Time.DateTime.Timestamp

open StreamWatch CommandLine

/-- The variables that are looked at. -/
def observedVariables : List String :=
  pathVariable :: ["DATABASE__URL", "DATABASE__MAX_CONNECTIONS", "REMOTE__BASE_URL", "REMOTE__API_TOKEN",
    "REMOTE__REQUEST_TIMEOUT", "REMOTE__PAGE_SIZE", "PROBING__FFPROBE_COMMAND", "PROBING__FFMPEG_COMMAND",
    "PROBING__PROBE_TIMEOUT", "PROBING__MAX_CONCURRENT_PROBES", "PROBING__BLACK_SCREEN_DETECTION",
    "PROBING__BLACK_SCREEN_SAMPLE_DURATION", "PROBING__REFRESH_ACCOUNTS_BEFORE_PROBE",
    "SCHEDULER__CHECK_INTERVAL", "SCHEDULER__SHUTDOWN_GRACE", "ORDERING__SMART_SORT_ENABLED",
    "ORDERING__DEPRIORITIZE_FAILED_STREAMS", "ORDERING__DIVERSIFICATION", "REFRESH__POLL_INTERVAL",
    "REFRESH__MAX_WAIT", "REFRESH__ASSUME_COMPLETE_AFTER"].map ("STREAM_HEALTH_" ++ ·)

/-- The variables that are set among those looked at. -/
def readVariables : IO (List (String × String)) :=
  observedVariables.filterMapM fun name => do
    return (← IO.getEnv name).map (name, ·)

/-- The text of a file, if it can be read. -/
def readText? (path : String) : IO (Option String) := do
  try
    return some (← IO.FS.readFile path)
  catch _ =>
    return none

/-- The settings file that the arguments ask for. -/
def settingsFile (host : Host) (arguments : List String) : String :=
  match parse arguments with
  | .ok (.invoke invocation) => settingsPath host invocation
  | _ => settingsPath host {}

/-- The host this program runs on. -/
def readHost (arguments : List String) : IO Host := do
  let nanos := (← Std.Time.Timestamp.now).toNanosecondsSinceUnixEpoch.toInt
  let host : Host :=
    { disk := ⟨[".".toList], []⟩
      bindings := ← readVariables
      runTool := fun _ => .notStarted "media tools are not started from here"
      now := .ofNanos nanos }
  let path := settingsFile host arguments
  match ← readText? path with
  | some text => return { host with texts := [(path, text)] }
  | none => return host

/-- Prints what a command printed. -/
def print : Printed → IO Unit
  | .document value => IO.println value.pretty
  | .text text => IO.print text

def main (arguments : List String) : IO UInt32 := do
  let host ← readHost arguments
  let (ending, after) := program host arguments
  if host.texts.length < after.texts.length then
    for (path, text) in after.texts.take 1 do
      IO.FS.writeFile path text
  for printed in ending.printed do
    print printed
  for error in ending.error do
    IO.eprintln ((if ending.exitCode = 1 then "Error: " else "error: ") ++ error)
  return UInt32.ofNat ending.exitCode
