import RunWatch.Json.Number
import RunWatch.Text.Blank
import RunWatch.Timestamp
/-!
The safety policy of the server as this client sees it: whether starts are on hold, why, until
when, and the counters behind it. `SafetyState.normalize` reads it from any JSON value whatever:
what is missing or malformed falls back to zero or to nothing, and no count is negative.
-/
set_option autoImplicit false

namespace RunWatch

inductive CooldownReason where
  | blockedFailures
  | networkFailures
  | other (token : String)
  deriving DecidableEq, Repr

namespace CooldownReason

def blockedToken : String := "blocked_failure_threshold_exceeded"
def networkToken : String := "network_failure_threshold_exceeded"

def ofToken (token : String) : CooldownReason :=
  if token = blockedToken then .blockedFailures
  else if token = networkToken then .networkFailures
  else .other token

def token : CooldownReason → String
  | .blockedFailures => blockedToken
  | .networkFailures => networkToken
  | .other token => token

@[simp] theorem token_ofToken (t : String) : (ofToken t).token = t := by
  unfold ofToken
  split
  · next h => simp [token, h]
  · split
    · next h => simp [token, h]
    · rfl

def label : CooldownReason → String
  | .blockedFailures => "Blocked responses exceeded safety threshold"
  | .networkFailures => "Network failures exceeded safety threshold"
  | .other token => String.ofList (token.toList.map fun c => if c = '_' then ' ' else c)

end CooldownReason

structure SafetyCounters where
  consecutiveBlockedRuns : UInt64 := 0
  consecutiveNetworkRuns : UInt64 := 0
  cooldownEntries : UInt64 := 0
  blockedStarts : UInt64 := 0
  lastBlockedFailures : UInt64 := 0
  lastNetworkFailures : UInt64 := 0
  lastEvaluatedRun : Option UInt64 := none
  deriving DecidableEq, Repr

/-- The server's view of the cooldown. It is replaced as a whole, never merged. -/
structure SafetyState where
  cooldownActive : Bool := false
  reason : Option CooldownReason := none
  reasonLabel : Option String := none
  cooldownUntil : Option String := none
  remainingSeconds : UInt64 := 0
  recommendedAction : Option String := none
  counters : SafetyCounters := {}
  deriving DecidableEq, Repr

namespace SafetyState

def number? : Option Json → Option Binary64
  | some (.string s) =>
    (Binary64.read? (Text.trim s)).filter Binary64.isFinite
  | some v => v.toBinary64?.filter Binary64.isFinite
  | none => none

/-- A count: the whole part of a number, at least zero and at most 2⁶⁴ - 1. -/
def count (value : Option Json) : UInt64 :=
  (((number? value).getD .zero).toNatBelow UInt64.size).toUInt64

def text? : Option Json → Option String
  | some (.string s) => if Text.trimChars s.toList = [] then none else some (Text.trim s)
  | _ => none

/-- A boolean, a number other than zero, or one of four words. -/
def truth : Option Json → Bool
  | some (.bool b) => b
  | some (.string s) =>
    let word := String.ofList ((Text.trimChars s.toList).map Char.toLower)
    word == "1" || word == "true" || word == "yes" || word == "on"
  | some v =>
    match v.toBinary64? with
    | some x => x.isFinite && !x.isZero
    | none => false
  | none => false

/-- The run that was evaluated last; null counts as none, anything else as a count. -/
def runId? : Option Json → Option UInt64
  | none | some .null => none
  | some v => some (count (some v))

def readCounters (entries : Json.Entries) : SafetyCounters :=
  let get key := Json.lookup key entries
  { consecutiveBlockedRuns := count (get "consecutive_blocked_runs")
    consecutiveNetworkRuns := count (get "consecutive_network_runs")
    cooldownEntries := count (get "cooldown_entry_count")
    blockedStarts := count (get "blocked_start_count")
    lastBlockedFailures := count (get "last_blocked_failure_count")
    lastNetworkFailures := count (get "last_network_failure_count")
    lastEvaluatedRun := runId? (get "last_evaluated_run_id") }

/-- Reads a raw payload; what is no object is the state of a server that holds nothing back. -/
def normalize (raw : Json) : SafetyState :=
  match raw.entries? with
  | none => {}
  | some entries =>
    let get key := Json.lookup key entries
    { cooldownActive := truth (get "cooldown_active")
      reason := (text? (get "cooldown_reason")).map CooldownReason.ofToken
      reasonLabel := text? (get "cooldown_reason_label")
      cooldownUntil := text? (get "cooldown_until")
      remainingSeconds := count (get "cooldown_remaining_seconds")
      recommendedAction := text? (get "recommended_action")
      counters := readCounters (((get "counters").bind Json.entries?).getD []) }

def label? (s : SafetyState) : Option String := s.reasonLabel.or (s.reason.map CooldownReason.label)

/-- Nanoseconds as seconds: the whole seconds and the rest are converted one by one and added. -/
def secondsOfNanos (n : Int) : Binary64 :=
  (Binary64.ofInt (n.tdiv 1000000000)).add
    ((Binary64.ofInt (n.tmod 1000000000)).div (Binary64.ofNat 1000000000))

/-- The seconds left at an instant: up to the end of the cooldown when that is a timestamp, else
the seconds that the server gave. -/
def remainingAt (s : SafetyState) (now : Timestamp) : Binary64 :=
  if s.cooldownActive then
    match s.cooldownUntil.bind Timestamp.read? with
    | some t => (secondsOfNanos (t.nanosSince now)).atLeastZero
    | none => Binary64.ofNat s.remainingSeconds.toNat
  else .zero

end SafetyState

namespace SafetyCounters

def toJson (c : SafetyCounters) : Json := .object [
  ("consecutive_blocked_runs", .natural c.consecutiveBlockedRuns),
  ("consecutive_network_runs", .natural c.consecutiveNetworkRuns),
  ("cooldown_entry_count", .natural c.cooldownEntries),
  ("blocked_start_count", .natural c.blockedStarts),
  ("last_blocked_failure_count", .natural c.lastBlockedFailures),
  ("last_network_failure_count", .natural c.lastNetworkFailures),
  ("last_evaluated_run_id", .ofOption .natural c.lastEvaluatedRun)]

end SafetyCounters

def SafetyState.toJson (s : SafetyState) : Json := .object [
  ("cooldown_active", .bool s.cooldownActive),
  ("cooldown_reason", .ofOption (fun r => .string r.token) s.reason),
  ("cooldown_reason_label", .ofOption .string s.reasonLabel),
  ("cooldown_until", .ofOption .string s.cooldownUntil),
  ("cooldown_remaining_seconds", .natural s.remainingSeconds),
  ("recommended_action", .ofOption .string s.recommendedAction),
  ("counters", s.counters.toJson)]

end RunWatch
