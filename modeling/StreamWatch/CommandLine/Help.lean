/-
**What the program tells about itself.**
-/

namespace StreamWatch.CommandLine

/-- The name and the version of the program. -/
def versionText : String := "stream-health 0.1.0\n"

/-- The option that every command has. -/
def helpOption : String := "\nOptions:\n  -h, --help  Print help\n"

/-- How the program is used. -/
def programHelp : String :=
  "Stream health probing, ranking and scheduled maintenance for IPTV channels\n\n" ++
  "Usage: stream-health [OPTIONS] [COMMAND]\n\n" ++
  "Commands:\n" ++
  "  serve  Run the task scheduler until interrupted (default)\n" ++
  "  run    Run one task once and print its result as JSON\n" ++
  "  probe  Probe a single URL and print the metrics\n" ++
  "  order  Compute a channel's stream order from stored statistics\n" ++
  "  help   Print this message or the help of the given subcommand(s)\n\n" ++
  "Options:\n" ++
  "  -c, --config <CONFIG>          Configuration file path [env: CONFIG_FILE=] [default: config.toml]\n" ++
  "  -v, --log-level <LOG_LEVEL>    Log level [default: info]\n" ++
  "      --log-format <LOG_FORMAT>  Log output format [default: text] [possible values: text, json]\n" ++
  "      --ephemeral                Keep stream statistics in memory instead of the database\n" ++
  "  -h, --help                     Print help\n" ++
  "  -V, --version                  Print version\n"

/-- How one of its commands is used. -/
def commandHelp : String → String
  | "serve" =>
    "Run the task scheduler until interrupted (default)\n\nUsage: stream-health serve\n" ++ helpOption
  | "run" =>
    "Run one task once and print its result as JSON\n\nUsage: stream-health run <TASK_ID>\n\n" ++
    "Arguments:\n  <TASK_ID>  Task identifier, e.g. stream_probe\n" ++ helpOption
  | "probe" =>
    "Probe a single URL and print the metrics\n\nUsage: stream-health probe <URL>\n\n" ++
    "Arguments:\n  <URL>  \n" ++ helpOption
  | "order" =>
    "Compute a channel's stream order from stored statistics\n\n" ++
    "Usage: stream-health order [OPTIONS] <CHANNEL_ID>\n\nArguments:\n  <CHANNEL_ID>  \n\n" ++
    "Options:\n      --apply  Write the computed order back to the channel manager\n" ++
    "  -h, --help   Print help\n"
  | _ =>
    "Print this message or the help of the given subcommand(s)\n\n" ++
    "Usage: stream-health help [COMMAND]...\n\n" ++
    "Arguments:\n  [COMMAND]...  Print help for the subcommand(s)\n"

/-- How the program, or one of its commands, is used. -/
def helpText : Option String → String
  | none => programHelp
  | some command => commandHelp command

end StreamWatch.CommandLine
