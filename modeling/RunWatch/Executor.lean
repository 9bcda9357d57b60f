import RunWatch.Controller.Step
/-!
The executor of a controller: it hands inputs over, carries out the actions and keeps the books of
those who wait for a reply. What it cannot do itself, calls and waking up, it leaves to whoever
drives it. When the controller stops, nobody is left waiting.
-/
set_option autoImplicit false

namespace RunWatch

inductive Happening where
  | told (event : Event)
  | shown (snapshot : Snapshot)
  | replied (caller : Caller) (reply : Reply)
  | listCalled
  | triggerCalled
  | stopped
  deriving DecidableEq, Repr

/-- What an executor leaves to its driver. -/
inductive Request where
  | list (epoch seq : Nat)
  | trigger (epoch : Nat) (caller : Caller)
  | wake (due : Nat)
  deriving DecidableEq, Repr

structure Executor where
  /-- None once the controller has stopped. -/
  controller : Option Controller
  shown : Snapshot := Session.snapshot {}
  waiting : List (Caller × Command) := []
  nextCaller : Caller := 0
  /-- Starts whose call is under way. -/
  calling : List Caller := []
  requests : List Request := []
  trace : List Happening := []

namespace Executor

def start (timing : Timing) : Executor := { controller := some { timing } }

def record (x : Executor) (h : Happening) : Executor := { x with trace := x.trace ++ [h] }

def request (x : Executor) (r : Request) : Executor := { x with requests := x.requests ++ [r] }

def take (x : Executor) : List Request × List Happening × Executor :=
  (x.requests, x.trace, { x with requests := [], trace := [] })

def reply (x : Executor) (caller : Caller) (r : Reply) : Executor :=
  { x with waiting := x.waiting.filter (·.1 ≠ caller) }.record (.replied caller r)

def stoppedMeanwhile : String := "Run controller stopped before answering."
def notRunning : String := "Run controller is not running."

/-- The reply to someone who waits in vain for a controller that has stopped. -/
def strandedReply : Command → Reply
  | .start => .outcome (.localError stoppedMeanwhile)
  | _ => .done

def goneReply : Command → Reply
  | .start => .outcome (.localError notRunning)
  | _ => .done

/-- The controller is no more. Whoever waits learns it, a start whose call is under way once that
ends. -/
def stop (x : Executor) : Executor :=
  let stranded := x.waiting.filter fun p => !x.calling.contains p.1
  let gone : Executor := { x with controller := none }
  (stranded.foldl (fun x p => x.reply p.1 (strandedReply p.2)) gone).record .stopped

def perform (x : Executor) : Action → Executor
  | .emit e => x.record (.told e)
  | .publish s => { x with shown := s }.record (.shown s)
  | .reply caller r => x.reply caller r
  | .list epoch seq => (x.record .listCalled).request (.list epoch seq)
  | .trigger epoch caller =>
    let x := { x with calling := caller :: x.calling }.record .triggerCalled
    x.request (.trigger epoch caller)
  | .wakeAt due => if Instant.isCounted due then x.request (.wake due) else x.stop

/-- Carries out actions in their order, until the controller stops. -/
def performAll (x : Executor) : List Action → Executor
  | [] => x
  | a :: rest =>
    let x := x.perform a
    if x.controller.isSome then x.performAll rest else x

def endCall (x : Executor) : Input → Executor
  | .triggered _ caller _ => { x with calling := x.calling.filter (· ≠ caller) }
  | _ => x

def handle (now : Nat) (x : Executor) (i : Input) : Executor :=
  let x := x.endCall i
  match x.controller, i with
  | some c, i =>
    let t := c.step now i
    { x with controller := some t.state }.performAll t.actions
  | none, .triggered _ caller _ => x.reply caller (strandedReply .start)
  | none, _ => x

def enlist (x : Executor) (command : Command) : Executor :=
  { x with nextCaller := x.nextCaller + 1, waiting := x.waiting ++ [(x.nextCaller, command)] }

def issue (now : Nat) (x : Executor) (command : Command) : Executor :=
  let caller := x.nextCaller
  let x := x.enlist command
  if x.controller.isSome then x.handle now (.command caller command)
  else x.reply caller (goneReply command)

def kill (x : Executor) : Executor := if x.controller.isSome then x.stop else x

end Executor

end RunWatch
