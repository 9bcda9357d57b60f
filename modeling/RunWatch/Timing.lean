import RunWatch.Span
set_option autoImplicit false

namespace RunWatch

structure Timing where
  pollInterval : Span := .ofSeconds 5
  /-- How long a submission may stay open before it counts as starting. -/
  startingPhase : Span := .ofMillis 1500
  deriving DecidableEq, Repr

namespace Timing

open Json Shape in
def shape : RecordShape Timing where
  name := "ControllerConfig"
  fields := [("poll_interval", check Span.shape), ("starting_phase", check Span.shape)]
  build s := do
    let pollInterval ← s.required 0 "poll_interval" Span.shape
    let startingPhase ← s.required 1 "starting_phase" Span.shape
    pure { pollInterval, startingPhase }

def toJson (t : Timing) : Json := .object [
  ("poll_interval", .string t.pollInterval.text),
  ("starting_phase", .string t.startingPhase.text)]

end Timing

end RunWatch
