import RunWatch.Run
import RunWatch.Safety
set_option autoImplicit false

namespace RunWatch

inductive Notice where
  | message (text : String)
  | likelyRunning
  | requestFailed (message : String)
  | reset
  deriving DecidableEq, Repr

def Notice.text : Notice → String
  | .message t => t
  | .likelyRunning => "Run is starting…"
  | .requestFailed m => "Request failed: " ++ m
  | .reset => "Run controller reset"

inductive Event where
  | runUpdated (run : Run)
  | runCompleted (run : Run)
  | pollingStarted
  | pollingStopped
  | cooldownBlocked (safety : SafetyState)
  | notice (n : Notice)
  deriving DecidableEq, Repr

end RunWatch
