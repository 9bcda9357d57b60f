import RunWatch.Session
import RunWatch.Outcome
import RunWatch.Timer
import RunWatch.Timing
/-!
The controller of a session: its state, what it is handed, and what it asks its executor to do. The
controller itself neither waits nor calls: the executor hands it commands, calls that ended and
timers that fell due, one at a time, and carries out its actions in their order.
-/
set_option autoImplicit false

namespace RunWatch

/-- Whoever issued a command and waits for its reply. -/
abbrev Caller := Nat

inductive Command where
  | bootstrap
  | sync
  | start
  | reset
  deriving DecidableEq, Repr

inductive Reply where
  | done
  | outcome (o : Outcome)
  deriving DecidableEq, Repr

/-- Someone whose reply waits for a fetch of the listing. -/
inductive Waiter where
  | fetch (caller : Caller)
  /-- A start that met another run; it is answered with that run, or else with the one fetched. -/
  | conflict (caller : Caller) (runId : Option UInt64) (requestId : Option String)
  deriving DecidableEq, Repr

def Waiter.caller : Waiter → Caller
  | .fetch caller | .conflict caller _ _ => caller

/-- The fetches of the listing: one at most is in flight, and one at most follows it. -/
structure Fetches where
  inFlight : Bool := false
  /-- How many were ever sent, which is also the number of the newest. -/
  issued : Nat := 0
  current : List Waiter := []
  /-- Those who came after it was sent and wait for the next. -/
  followUp : List Waiter := []
  deriving DecidableEq, Repr

structure Controller where
  timing : Timing
  session : Session := {}
  /-- Rises with each reset; what an earlier epoch asked for is not applied. -/
  epoch : Nat := 0
  poll : Ticker := { interval := timing.pollInterval }
  starting : Deadline := {}
  fetches : Fetches := {}
  deriving DecidableEq, Repr

inductive Input where
  | command (caller : Caller) (command : Command)
  | listed (epoch seq : Nat) (result : Except Failure Listing)
  | triggered (epoch : Nat) (caller : Caller) (result : Except Failure Started)
  | pollDue
  | startingDue

inductive Action where
  | emit (event : Event)
  | publish (snapshot : Snapshot)
  | reply (caller : Caller) (reply : Reply)
  | list (epoch seq : Nat)
  | trigger (epoch : Nat) (caller : Caller)
  /-- Wakes the controller at an instant. An executor whose clock holds no such instant
  stops here. -/
  | wakeAt (due : Nat)
  deriving DecidableEq, Repr

end RunWatch
