import RunWatch.Failure
import RunWatch.Json.Printer
set_option autoImplicit false

namespace RunWatch

inductive Outcome where
  | started (runId : UInt64) (reused : Bool)
  | alreadyRunning (runId : Option UInt64) (requestId : Option String)
  | error (message : String) (status : Option Nat) (code requestId : Option String)
  deriving DecidableEq, Repr

namespace Outcome

def localError (message : String) : Outcome := .error message none none none

def ofFailure (f : Failure) : Outcome := .error f.message f.status f.code f.requestId

def isError : Outcome → Bool
  | .error .. => true
  | _ => false

def toJson : Outcome → Json
  | .started runId reused => .object [("kind", .string "started"), ("run_id", .natural runId),
      ("reused_existing_run", .bool reused)]
  | .alreadyRunning runId requestId => .object [("kind", .string "already_running"),
      ("run_id", .ofOption .natural runId), ("request_id", .ofOption .string requestId)]
  | .error message status code requestId => .object [("kind", .string "error"),
      ("message", .string message), ("status", .ofOption (fun n => .natural n.toUInt64) status),
      ("code", .ofOption .string code), ("request_id", .ofOption .string requestId)]

def requestNote : Option String → String
  | some id => " (request " ++ id ++ ")"
  | none => ""

def line : Outcome → String
  | .started runId reused =>
    (if reused then "Joined existing run #" else "Started run #") ++ toString runId.toNat
  | .alreadyRunning runId requestId =>
    "A run" ++ (runId.elim "" fun id => " #" ++ toString id.toNat) ++ " is already in progress" ++
      requestNote requestId
  | .error message _ _ requestId => "Could not start run: " ++ message ++ requestNote requestId

end Outcome

end RunWatch
