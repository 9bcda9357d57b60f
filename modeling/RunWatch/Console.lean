import RunWatch.Executor
import RunWatch.Fault
import RunWatch.Summary
set_option autoImplicit false

namespace RunWatch

inductive Errand where
  | status
  | start (wait : Bool)
  | watch
  deriving DecidableEq, Repr

def Errand.command : Errand → Command
  | .status | .watch => .bootstrap
  | .start _ => .start

inductive Line where
  | out (text : String)
  | err (text : String)
  deriving DecidableEq, Repr

inductive Phase where
  | asking
  | following
  /-- The user interrupted, and the controller is to forget the run. -/
  | resetting
  | ended (fault : Option Fault)
  /-- A timestamp came that no text can show. -/
  | crashed
  deriving DecidableEq, Repr

structure Console where
  errand : Errand
  json : Bool
  phase : Phase := .asking
  seen : Snapshot := Session.snapshot {}
  /-- The events that have not been told yet, oldest first. -/
  backlog : List Event := []
  printed : List Line := []
  deriving DecidableEq, Repr

namespace Console

def interrupted : String := "Interrupted; stopping…"

def print (c : Console) (l : Line) : Console := { c with printed := c.printed ++ [l] }

def printAll (c : Console) (ls : List Line) : Console := { c with printed := c.printed ++ ls }

def isOver (c : Console) : Bool :=
  match c.phase with
  | .ended _ | .crashed => true
  | _ => false

def crash (c : Console) : Console := { c with phase := .crashed }

def conclude (c : Console) (fault : Option Fault) : Console :=
  if c.isOver then c else { c with phase := .ended fault }

def tell (clock : Timestamp) (c : Console) (e : Event) : Console :=
  if c.phase = .crashed then c
  else
    match e.line? clock with
    | none => c.crash
    | some none => c
    | some (some text) => c.print (.err text)

/-- Tells of all that has not been told. In JSON it is dropped. -/
def drain (clock : Timestamp) (c : Console) : Console :=
  if c.json then { c with backlog := [] }
  else c.backlog.foldl (tell clock) { c with backlog := [] }

def printSnapshot (clock : Timestamp) (c : Console) : Console :=
  if c.phase = .crashed then c
  else if c.json then c.print (.out c.seen.toJson.pretty)
  else
    match c.seen.lines? (c.seen.safety.remainingAt clock) with
    | some lines => c.printAll (lines.map .out)
    | none => c.crash

/-- Fails when the newest snapshot tells of an error. -/
def verdict (c : Console) : Option Fault :=
  c.seen.lastError.map fun e =>
    { account := "could not fetch run status: " ++ e, reported := true }

def finish (clock : Timestamp) (c : Console) : Console :=
  let c := c.drain clock
  match c.errand with
  | .start _ => (if c.json then c else c.printSnapshot clock).conclude none
  | _ =>
    let c := c.printSnapshot clock
    c.conclude c.verdict

def follow (clock : Timestamp) (c : Console) : Console :=
  if c.seen.polling then Console.drain clock { c with phase := .following } else c.finish clock

/-- The outcome of a start is told before everything else. -/
def afterStart (clock : Timestamp) (c : Console) (wait : Bool) (o : Outcome) : Console :=
  let c := c.print (if c.json then .out o.toJson.pretty else .err o.line)
  match o with
  | .error message _ _ _ =>
    let c := if c.json then c else (c.drain clock).printSnapshot clock
    c.conclude (some { account := "manual check failed: " ++ message, reported := true })
  | _ => if wait then c.follow clock else c.conclude none

def answered (clock : Timestamp) (c : Console) (r : Reply) : Console :=
  match c.errand, r with
  | .status, _ =>
    let c := c.printSnapshot clock
    c.conclude c.verdict
  | .watch, _ => c.follow clock
  | .start wait, .outcome o => c.afterStart clock wait o
  | .start _, .done => c

def see (clock : Timestamp) (c : Console) (h : Happening) : Console :=
  match h, c.phase with
  | _, .ended _ | _, .crashed => c
  | .told e, .following => if c.json then c else c.tell clock e
  | .told e, _ => { c with backlog := c.backlog ++ [e] }
  | .shown s, .following =>
    let c := { c with seen := s }
    if s.polling then c else c.finish clock
  | .shown s, _ => { c with seen := s }
  | .replied _ r, .asking => c.answered clock r
  | .replied _ _, .resetting => c.finish clock
  | .stopped, .following => c.finish clock
  | _, _ => c

/-- The user interrupts. Only a console that follows a run hears it, and then the controller has to
be reset. -/
def interrupt (c : Console) : Console :=
  if c.phase = .following then { c.print (.err interrupted) with phase := .resetting } else c

end Console

end RunWatch
