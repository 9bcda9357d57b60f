import RunWatch.Session
import RunWatch.Countdown
set_option autoImplicit false

namespace RunWatch

def Run.line? (r : Run) : Option String := do
  let started ← Timestamp.display? r.startTime
  let finished ← Timestamp.display? r.endTime
  some ("Run #" ++ toString r.id.toNat ++ " [" ++ r.trigger.name ++ "] " ++ r.status.name ++
    " | started " ++ started ++ " | finished " ++ finished ++
    " | scholars " ++ toString r.scholars.toNat ++
    " | new pubs " ++ toString r.newPublications.toNat ++
    " | failed " ++ toString r.failures.toNat ++
    " | partial " ++ toString r.partials.toNat)

def SafetyCounters.line (c : SafetyCounters) : String :=
  "Safety counters: blocked streak " ++ toString c.consecutiveBlockedRuns.toNat ++
    " | network streak " ++ toString c.consecutiveNetworkRuns.toNat ++
    " | cooldowns " ++ toString c.cooldownEntries.toNat ++
    " | blocked starts " ++ toString c.blockedStarts.toNat

def SafetyState.lines (s : SafetyState) (remaining : Binary64) : List String :=
  (if s.cooldownActive then
    ("Cooldown: " ++ s.label?.getD "Safety cooldown" ++ " (remaining " ++
      Countdown.text remaining ++ ")") :: (s.recommendedAction.map ("Recommended: " ++ ·)).toList
  else ["Cooldown: inactive"]) ++ [s.counters.line]

namespace Snapshot

def yesNo (b : Bool) : String := if b then "yes" else "no"

/-- The first of the states that applies. -/
def stateName (s : Snapshot) : String :=
  if s.likelyRunning then "starting"
  else if s.submitting then "submitting"
  else if s.runActive then "running"
  else if s.safety.cooldownActive then "blocked"
  else "idle"

def stateLine (s : Snapshot) : String :=
  "State: " ++ s.stateName ++ " | polling " ++ yesNo s.polling ++ " | can start " ++
    yesNo s.canStart

def runLine? (s : Snapshot) : Option String :=
  match s.latestRun with
  | some r => r.line?
  | none => some "No runs yet."

def lines? (s : Snapshot) (remaining : Binary64) : Option (List String) :=
  s.runLine?.map fun run =>
    run :: s.stateLine :: s.safety.lines remaining ++
      (s.lastError.map ("Last error: " ++ ·)).toList

end Snapshot

/-- The line that tells of an event, at an instant. An event without one is silent; the outer
`none` stands for a run that has no line. -/
def Event.line? (now : Timestamp) : Event → Option (Option String)
  | .runUpdated r => r.line?.map some
  | .runCompleted r =>
    some (some ("Run #" ++ toString r.id.toNat ++ " finished: " ++ r.status.name))
  | .pollingStarted => some (some "Watching for updates…")
  | .pollingStopped => some none
  | .cooldownBlocked safety => some (some ("Safety cooldown active; next start possible in " ++
      Countdown.text (safety.remainingAt now)))
  | .notice n => some (some n.text)

end RunWatch
