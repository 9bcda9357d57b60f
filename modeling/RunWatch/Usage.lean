import RunWatch.CommandLine
set_option autoImplicit false

namespace RunWatch

def versionText : String := "scholar-runs 0.1.0"

def helpText : String := "\n".intercalate [
  "Start, watch and throttle scholar-tracker scrape runs",
  "",
  "Usage: scholar-runs [OPTIONS] <COMMAND>",
  "",
  "Commands:",
  "  status  Show the latest run and the safety cooldown state",
  "  start   Start a manual check",
  "  watch   Follow the active run until it finishes",
  "  runs    List recent runs",
  "  help    Print this message",
  "",
  "Options of every command:",
  "      --base-url <URL>         Base URL of the scholar tracker (env SCHOLAR_RUNS_BASE_URL)",
  "      --cookie <COOKIE>        Raw Cookie header of a session (env SCHOLAR_RUNS_COOKIE)",
  "      --config <PATH>          Path to a JSON config file",
  "      --poll-interval <SPAN>   How often to poll the latest run while one is active",
  "      --starting-phase <SPAN>  How long a submission may stay unresolved before it is starting",
  "      --timeout <SPAN>         HTTP request timeout",
  "      --json                   Print JSON instead of text",
  "  -v, --verbose                Increase log verbosity",
  "  -h, --help                   Print help",
  "  -V, --version                Print version (in front of a command)",
  "",
  "Options of start:",
  "      --wait <true|false>      Follow the run until it finishes (default true)",
  "",
  "Options of runs:",
  "      --limit <N>              How many runs to list (default 10)"]

namespace UsageError

def message : UsageError → String
  | .helpAsked | .nothingGiven => helpText
  | .versionAsked => versionText
  | .noCommand => "error: a command is required"
  | .unknownCommand => "error: there is no such command"
  | .unknownArgument => "error: an argument was not expected"
  | .unfitValue => "error: a value is missing or not one of those that are possible"
  | .malformedValue => "error: a value cannot be read"
  | .repeated => "error: an option cannot be used more than once"
  | .surplusValue => "error: a flag takes no value"
  | .crash => "a span lies beyond what can be counted"

end UsageError

end RunWatch
