import RunWatch.Json.Shape
set_option autoImplicit false

namespace RunWatch

inductive Trigger where
  | manual
  | scheduled
  | other
  deriving DecidableEq, Repr

namespace Trigger

def name : Trigger → String
  | .manual => "manual"
  | .scheduled => "scheduled"
  | .other => "other"

/-- Every name that is not known is `other`. -/
def ofName (s : String) : Trigger :=
  if s = "manual" then .manual else if s = "scheduled" then .scheduled else .other

@[simp] theorem ofName_name (t : Trigger) : ofName t.name = t := by cases t <;> rfl

end Trigger

inductive RunStatus where
  | queued
  | running
  | success
  | partly
  | failed
  | unknown
  deriving DecidableEq, Repr

namespace RunStatus

def name : RunStatus → String
  | .queued => "queued"
  | .running => "running"
  | .success => "success"
  | .partly => "partial"
  | .failed => "failed"
  | .unknown => "unknown"

def ofName (s : String) : RunStatus :=
  if s = "queued" then .queued
  else if s = "running" then .running
  else if s = "success" then .success
  else if s = "partial" then .partly
  else if s = "failed" then .failed
  else .unknown

@[simp] theorem ofName_name (s : RunStatus) : ofName s.name = s := by cases s <;> rfl

end RunStatus

structure Run where
  id : UInt64
  trigger : Trigger
  status : RunStatus
  startTime : Option String
  endTime : Option String
  scholars : UInt64
  newPublications : UInt64
  failures : UInt64
  partials : UInt64
  deriving DecidableEq, Repr

namespace Run

/-- A run that will not change any more. Of a status that is not known only the end time tells. -/
def isTerminal (r : Run) : Bool :=
  match r.status with
  | .queued | .running => false
  | .success | .partly | .failed => true
  | .unknown => r.endTime.isSome

open Json Shape in
def shape : RecordShape Run where
  name := "Run"
  fields := [("id", check count), ("trigger_type", check (variant Trigger.ofName)),
    ("status", check (variant RunStatus.ofName)), ("start_dt", check (optional text)),
    ("end_dt", check (optional text)), ("scholar_count", check count),
    ("new_publication_count", check count), ("failed_count", check count),
    ("partial_count", check count)]
  build s := do
    let id ← s.required 0 "id" count
    let trigger ← s.required 1 "trigger_type" (variant Trigger.ofName)
    let status ← s.required 2 "status" (variant RunStatus.ofName)
    let startTime ← s.withDefault 3 "start_dt" (optional text) none
    let endTime ← s.withDefault 4 "end_dt" (optional text) none
    let scholars ← s.withDefault 5 "scholar_count" count 0
    let newPublications ← s.withDefault 6 "new_publication_count" count 0
    let failures ← s.withDefault 7 "failed_count" count 0
    let partials ← s.withDefault 8 "partial_count" count 0
    pure { id, trigger, status, startTime, endTime, scholars, newPublications, failures, partials }

def toJson (r : Run) : Json := .object [
  ("id", .natural r.id),
  ("trigger_type", .string r.trigger.name),
  ("status", .string r.status.name),
  ("start_dt", .ofOption .string r.startTime),
  ("end_dt", .ofOption .string r.endTime),
  ("scholar_count", .natural r.scholars),
  ("new_publication_count", .natural r.newPublications),
  ("failed_count", .natural r.failures),
  ("partial_count", .natural r.partials)]

end Run

structure Listing where
  runs : List Run
  safety : Json

namespace Listing

open Json Shape in
def shape : RecordShape Listing where
  name := "RunListing"
  fields := [("runs", check (list Run.shape.read)), ("safety_state", check raw)]
  build s := do
    let runs ← s.withDefault 0 "runs" (list Run.shape.read) []
    let safety ← s.withDefault 1 "safety_state" raw .null
    pure { runs, safety }

def toJson (l : Listing) : Json := .object [
  ("runs", .array (l.runs.map Run.toJson)),
  ("safety_state", l.safety)]

end Listing

structure Started where
  runId : UInt64
  status : RunStatus
  scholars : UInt64
  successes : UInt64
  failures : UInt64
  partials : UInt64
  newPublications : UInt64
  reused : Bool
  idempotencyKey : String
  safety : Json

namespace Started

open Json Shape in
def shape : RecordShape Started where
  name := "ManualRunResult"
  fields := [("run_id", check count), ("status", check (variant RunStatus.ofName)),
    ("scholar_count", check count), ("succeeded_count", check count),
    ("failed_count", check count), ("partial_count", check count),
    ("new_publication_count", check count), ("reused_existing_run", check boolean),
    ("idempotency_key", check text), ("safety_state", check raw)]
  build s := do
    let runId ← s.required 0 "run_id" count
    let status ← s.required 1 "status" (variant RunStatus.ofName)
    let scholars ← s.withDefault 2 "scholar_count" count 0
    let successes ← s.withDefault 3 "succeeded_count" count 0
    let failures ← s.withDefault 4 "failed_count" count 0
    let partials ← s.withDefault 5 "partial_count" count 0
    let newPublications ← s.withDefault 6 "new_publication_count" count 0
    let reused ← s.withDefault 7 "reused_existing_run" boolean false
    let idempotencyKey ← s.withDefault 8 "idempotency_key" text ""
    let safety ← s.withDefault 9 "safety_state" raw .null
    pure { runId, status, scholars, successes, failures, partials, newPublications, reused,
           idempotencyKey, safety }

def toJson (r : Started) : Json := .object [
  ("run_id", .natural r.runId),
  ("status", .string r.status.name),
  ("scholar_count", .natural r.scholars),
  ("succeeded_count", .natural r.successes),
  ("failed_count", .natural r.failures),
  ("partial_count", .natural r.partials),
  ("new_publication_count", .natural r.newPublications),
  ("reused_existing_run", .bool r.reused),
  ("idempotency_key", .string r.idempotencyKey),
  ("safety_state", r.safety)]

/-- The run as the answer shows it, which stands until the next listing. -/
def run (r : Started) : Run where
  id := r.runId
  trigger := .manual
  status := r.status
  startTime := none
  endTime := none
  scholars := r.scholars
  newPublications := r.newPublications
  failures := r.failures
  partials := r.partials

end Started

end RunWatch
