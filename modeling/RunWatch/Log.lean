set_option autoImplicit false

namespace RunWatch

inductive LogLevel where
  | warn
  | info
  | debug
  | trace
  deriving DecidableEq, Repr

namespace LogLevel

def name : LogLevel → String
  | .warn => "warn"
  | .info => "info"
  | .debug => "debug"
  | .trace => "trace"

def ofVerbosity : Nat → LogLevel
  | 0 => .warn
  | 1 => .info
  | 2 => .debug
  | _ => .trace

/-- The filter for a level: this level for the program and warnings for all else. -/
def directive (level : LogLevel) : String := "warn,scholar_runs=" ++ level.name

end LogLevel

end RunWatch
