import RunWatch.Json.Shape
import RunWatch.Text.Blank
set_option autoImplicit false

namespace RunWatch

inductive Failure where
  | conflict (runId : Option UInt64) (message : String) (requestId : Option String)
  /-- The safety payload is kept as it came. -/
  | cooldown (safety : Json) (message : String) (requestId : Option String)
  | refused (status : Nat) (code message : String) (requestId : Option String)
  | transport (message : String)

namespace Failure

def conflictCode : String := "run_in_progress"
def cooldownCode : String := "scrape_cooldown_active"

def message : Failure → String
  | .conflict _ message _ | .cooldown _ message _ | .refused _ _ message _ | .transport message =>
    message

def requestId : Failure → Option String
  | .conflict _ _ id | .cooldown _ _ id | .refused _ _ _ id => id
  | .transport _ => none

def status : Failure → Option Nat
  | .conflict .. => some 409
  | .cooldown .. => some 429
  | .refused status .. => some status
  | .transport _ => none

def code : Failure → Option String
  | .conflict .. => some conflictCode
  | .cooldown .. => some cooldownCode
  | .refused _ code .. => some code
  | .transport _ => none

def display : Failure → String
  | .refused status code message _ =>
    message ++ " (HTTP " ++ toString status ++ ", " ++ code ++ ")"
  | f => f.message

/-- An identifier given as a number of 64 bits, or as text that holds one. -/
def id? : Json → Option UInt64
  | .natural n => some n
  | .string s => Text.word? (Text.trimChars s.toList)
  | _ => none

def code? (error : Option Json) : Option String :=
  ((error.bind (Json.member? "code")).bind Json.string?).bind fun s =>
    if Text.trimChars s.toList = [] then none else some (Text.trim s)

/-- The message of an error: its own when it has an entry for one, else the detail of the body;
either counts only as text. -/
def message? (body error : Option Json) : Option String :=
  ((error.bind (Json.member? "message")).or (body.bind (Json.member? "detail"))).bind Json.string?

def ofBody (status : Nat) (body : Option Json) (requestId : Option String) : Failure :=
  let error := body.bind (Json.member? "error")
  let message := (message? body error).getD
    ("Request failed with HTTP " ++ toString status ++ ".")
  let detail key := (error.bind (Json.member? "details")).bind (Json.member? key)
  match code? error with
  | none =>
    if status = 409 then .conflict ((detail "run_id").bind id?) message requestId
    else .refused status "http_error" message requestId
  | some code =>
    if code = conflictCode then .conflict ((detail "run_id").bind id?) message requestId
    else if code = cooldownCode then
      .cooldown ((detail "safety_state").getD .null) message requestId
    else .refused status code message requestId

end Failure

end RunWatch
