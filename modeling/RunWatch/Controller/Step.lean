import RunWatch.Controller.Basic
set_option autoImplicit false

namespace RunWatch

structure Turn where
  state : Controller
  actions : List Action := []

namespace Turn

def act (t : Turn) (a : Action) : Turn := { t with actions := t.actions ++ [a] }

def emit (t : Turn) (e : Event) : Turn := t.act (.emit e)

def emitAll (t : Turn) (es : List Event) : Turn := es.foldl emit t

def publish (t : Turn) : Turn := t.act (.publish t.state.session.snapshot)

def reply (t : Turn) (caller : Caller) (r : Reply) : Turn := t.act (.reply caller r)

def modify (t : Turn) (f : Controller → Controller) : Turn := { t with state := f t.state }

def mapSession (t : Turn) (f : Session → Session) : Turn :=
  t.modify fun c => { c with session := f c.session }

def mapFetches (t : Turn) (f : Fetches → Fetches) : Turn :=
  t.modify fun c => { c with fetches := f c.fetches }

def sendList (t : Turn) : Turn :=
  let t := t.mapFetches fun f => { f with inFlight := true, issued := f.issued + 1 }
  t.act (.list t.state.epoch t.state.fetches.issued)

/-- Lets someone wait for a fetch that is sent from now on; never for one sent before. -/
def requestList (t : Turn) (w : Waiter) : Turn :=
  if t.state.fetches.inFlight then
    t.mapFetches fun f => { f with followUp := f.followUp ++ [w] }
  else (t.mapFetches fun f => { f with current := f.current ++ [w] }).sendList

def wakeAt (t : Turn) (due : Option Nat) : Turn :=
  match due with
  | some due => t.act (.wakeAt due)
  | none => t

/-- Polls exactly while a run is active. -/
def updatePolling (t : Turn) (now : Nat) : Turn :=
  if t.state.session.runActive then
    if t.state.poll.isArmed then t
    else
      let t := t.modify fun c => { c with poll := c.poll.arm now }
      ((t.wakeAt t.state.poll.due).mapSession (·.setPolling true)).emit .pollingStarted
  else if t.state.poll.isArmed then
    ((t.modify fun c => { c with poll := c.poll.disarm }).mapSession
      (·.setPolling false)).emit .pollingStopped
  else t

/-- What is told of a run that was applied; the run is the one held afterwards. -/
def changeEvents (change : RunChange) (run : Run) : List Event :=
  match change with
  | .updated => [.runUpdated run]
  | .completed => [.runUpdated run, .runCompleted run]
  | .unchanged | .stale => []

def emitChange (t : Turn) (change : RunChange) : Turn :=
  match t.state.session.latestRun with
  | some run => t.emitAll (changeEvents change run)
  | none => t

def waiterReply (s : Session) : Waiter → Reply
  | .fetch _ => .done
  | .conflict _ runId requestId =>
    .outcome (.alreadyRunning (runId.or (s.latestRun.map (·.id))) requestId)

def replyWaiters (t : Turn) (ws : List Waiter) : Turn :=
  ws.foldl (fun t w => t.reply w.caller (waiterReply t.state.session w)) t

def followUp (t : Turn) : Turn :=
  if t.state.fetches.followUp.isEmpty then t
  else
    (t.mapFetches fun f => { f with current := f.followUp, followUp := [] }).sendList

end Turn

namespace Controller

def alreadySubmitting : String := "A manual check is already being submitted."
def resetMeanwhile : String := "Run status was reset before the server responded."
def followingOther : String := "A run is already in progress; following it."

def localError (message : String) : Reply := .outcome (.localError message)

def noteFailure (t : Turn) (f : Failure) : Turn :=
  (t.mapSession (·.recordFailure f.message)).emit (.notice (.requestFailed f.message))

def start (now : Nat) (t : Turn) (caller : Caller) : Turn :=
  if t.state.session.submitting then t.reply caller (localError alreadySubmitting)
  else
    let t := t.mapSession (·.beginSubmission)
    let t := t.modify fun c => { c with starting := c.starting.set now c.timing.startingPhase }
    ((t.wakeAt t.state.starting.due).publish).act (.trigger t.state.epoch caller)

/-- The reply to a waiter when a reset comes before its fetch has ended. -/
def resetReply : Waiter → Reply
  | .fetch _ => .done
  | .conflict .. => localError resetMeanwhile

def reset (t : Turn) (caller : Caller) : Turn :=
  let waiters := t.state.fetches.current ++ t.state.fetches.followUp
  let t := t.modify fun c => { c with
    epoch := c.epoch + 1
    poll := c.poll.disarm
    starting := c.starting.clear
    fetches := { issued := c.fetches.issued } }
  let t := waiters.foldl (fun t w => t.reply w.caller (resetReply w)) t
  (((t.mapSession fun _ => {}).emit (.notice .reset)).publish).reply caller .done

def command (now : Nat) (t : Turn) (caller : Caller) : Command → Turn
  | .bootstrap | .sync => t.requestList (.fetch caller)
  | .start => start now t caller
  | .reset => reset t caller

def applyListed (t : Turn) (seq : Nat) : Except Failure Listing → Turn
  | .ok listing =>
    let applied := t.state.session.applyListing listing seq
    (t.mapSession fun _ => applied.1).emitChange applied.2
  | .error f => noteFailure t f

def listed (now : Nat) (t : Turn) (seq : Nat) (result : Except Failure Listing) : Turn :=
  let waiters := t.state.fetches.current
  let t := t.mapFetches fun f => { f with inFlight := false, current := [] }
  ((((applyListed t seq result).updatePolling now).publish).replyWaiters waiters).followUp

/-- The call of a start of this epoch ended. Another run in progress is followed, and the reply
waits until it has been fetched. -/
def triggered (now : Nat) (t : Turn) (caller : Caller) : Except Failure Started → Turn
  | .ok started =>
    let applied := t.state.session.applyStarted started
    let t := (t.mapSession fun _ => applied.1).emitChange applied.2
    ((t.updatePolling now).publish).reply caller
      (.outcome (.started started.runId started.reused))
  | .error (.conflict runId _ requestId) =>
    let t := t.mapSession (·.markConflict t.state.fetches.issued)
    let t := t.emit (.notice (.message followingOther))
    ((t.updatePolling now).publish).requestList (.conflict caller runId requestId)
  | .error (.cooldown safety message requestId) =>
    let t := t.mapSession (·.applyCooldown safety message)
    ((t.emit (.cooldownBlocked t.state.session.safety)).publish).reply caller
      (.outcome (.ofFailure (.cooldown safety message requestId)))
  | .error f => ((noteFailure t f).publish).reply caller (.outcome (.ofFailure f))

/-- A poll asks for the listing unless a list call is in flight; the next poll is an interval away
in either case. -/
def pollDue (now : Nat) (t : Turn) : Turn :=
  if t.state.poll.isDue now then
    let t := t.modify fun c => { c with poll := c.poll.fire now }
    let t := t.wakeAt t.state.poll.due
    if t.state.fetches.inFlight then t else t.sendList
  else t

def startingDue (now : Nat) (t : Turn) : Turn :=
  if t.state.starting.isDue now then
    let t := t.modify fun c => { c with starting := c.starting.clear }
    if t.state.session.awaitsLikelyRunning then
      ((t.mapSession (·.markLikelyRunning)).emit (.notice .likelyRunning)).publish
    else t
  else t

def step (now : Nat) (c : Controller) : Input → Turn
  | .command caller cmd => command now ⟨c, []⟩ caller cmd
  | .listed epoch seq result =>
    if epoch = c.epoch then listed now ⟨c, []⟩ seq result else ⟨c, []⟩
  | .triggered epoch caller result =>
    if epoch = c.epoch then
      let t : Turn := ⟨{ c with starting := c.starting.clear }, []⟩
      triggered now (t.mapSession (·.endSubmission)) caller result
    else Turn.reply ⟨c, []⟩ caller (localError resetMeanwhile)
  | .pollDue => pollDue now ⟨c, []⟩
  | .startingDue => startingDue now ⟨c, []⟩

end Controller

end RunWatch
