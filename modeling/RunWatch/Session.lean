import RunWatch.Failure
import RunWatch.Event
set_option autoImplicit false

namespace RunWatch

inductive RunChange where
  | unchanged
  | updated
  | completed
  /-- The answer carried an older run than the one held, which stays. -/
  | stale
  deriving DecidableEq, Repr

structure Session where
  latestRun : Option Run := none
  safety : SafetyState := {}
  submitting : Bool := false
  polling : Bool := false
  likelyRunning : Bool := false
  lastError : Option String := none
  /-- Set by a conflict to the number of list requests sent before it; a later listing with a run
  clears it. -/
  conflictAfter : Option Nat := none
  deriving DecidableEq, Repr

structure Snapshot where
  latestRun : Option Run
  safety : SafetyState
  submitting : Bool
  polling : Bool
  likelyRunning : Bool
  runActive : Bool
  canStart : Bool
  lastError : Option String
  deriving DecidableEq, Repr

def Snapshot.toJson (s : Snapshot) : Json := .object [
  ("latest_run", .ofOption Run.toJson s.latestRun),
  ("safety_state", s.safety.toJson),
  ("is_submitting", .bool s.submitting),
  ("is_polling", .bool s.polling),
  ("is_likely_running", .bool s.likelyRunning),
  ("is_run_active", .bool s.runActive),
  ("can_start", .bool s.canStart),
  ("last_error_message", .ofOption .string s.lastError)]

namespace Session

/-- A run is active while the held one has not ended, or while a conflict is open. -/
def runActive (s : Session) : Bool :=
  s.conflictAfter.isSome || s.latestRun.any fun r => !r.isTerminal

def canStart (s : Session) : Bool := !s.submitting && !s.runActive && !s.safety.cooldownActive

def snapshot (s : Session) : Snapshot where
  latestRun := s.latestRun
  safety := s.safety
  submitting := s.submitting
  polling := s.polling
  likelyRunning := s.likelyRunning
  runActive := s.runActive
  canStart := s.canStart
  lastError := s.lastError

def changeTo (held : Option Run) (run : Run) : RunChange :=
  match held with
  | none => .updated
  | some h =>
    if run.id < h.id then .stale
    else if h = run then .unchanged
    else if h.id = run.id ∧ !h.isTerminal ∧ run.isTerminal then .completed
    else .updated

def hold (s : Session) (run : Run) : Session :=
  if changeTo s.latestRun run = .stale then s else { s with latestRun := some run }

/-- Applies the listing of the `seq`-th list request. The safety state is replaced as a whole, and
an empty listing leaves the held run. -/
def applyListing (s : Session) (l : Listing) (seq : Nat) : Session × RunChange :=
  let s := { s with safety := .normalize l.safety, lastError := none }
  match l.runs with
  | [] => (s, .unchanged)
  | run :: _ =>
    let change := changeTo s.latestRun run
    let s := s.hold run
    if change ≠ .stale ∧ s.conflictAfter.any (· < seq) then
      ({ s with conflictAfter := none }, change)
    else (s, change)

def applyStarted (s : Session) (r : Started) : Session × RunChange :=
  let s := { s with safety := .normalize r.safety, lastError := none }
  let change := changeTo s.latestRun r.run
  let s := s.hold r.run
  if change ≠ .stale then ({ s with conflictAfter := none }, change) else (s, change)

/-- Another run is in progress on the server; `issued` list requests have been sent so far. -/
def markConflict (s : Session) (issued : Nat) : Session :=
  { s with conflictAfter := some issued, lastError := none }

/-- A start was refused by the cooldown, which is on whatever the payload says. -/
def applyCooldown (s : Session) (raw : Json) (message : String) : Session :=
  { s with
    safety := { SafetyState.normalize raw with cooldownActive := true }
    lastError := some message }

def recordFailure (s : Session) (message : String) : Session :=
  { s with lastError := some message }

def beginSubmission (s : Session) : Session :=
  { s with submitting := true, likelyRunning := false }

def endSubmission (s : Session) : Session :=
  { s with submitting := false, likelyRunning := false }

def awaitsLikelyRunning (s : Session) : Bool := s.submitting && !s.likelyRunning

def markLikelyRunning (s : Session) : Session :=
  if s.awaitsLikelyRunning then { s with likelyRunning := true } else s

def setPolling (s : Session) (polling : Bool) : Session := { s with polling }

end Session

end RunWatch
