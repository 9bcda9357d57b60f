import RunWatch.Executor
/-!
A controller in a simulated world: a clock that moves from one occurrence to the next, and a server
with prepared answers. Calls are answered in order, each after its delay, and a call for which
nothing is left gets the server's standing answer.
-/
set_option autoImplicit false

namespace RunWatch.Simulation

/-- An answer that comes some milliseconds after its call. -/
structure Prepared (α : Type) where
  delay : Nat := 0
  result : Except Failure α

structure Server where
  lists : List (Prepared Listing)
  triggers : List (Prepared Started)
  standingList : Prepared Listing
  standingTrigger : Prepared Started

namespace Server

def list (s : Server) : Prepared Listing × Server :=
  match s.lists with
  | a :: rest => (a, { s with lists := rest })
  | [] => (s.standingList, s)

def trigger (s : Server) : Prepared Started × Server :=
  match s.triggers with
  | a :: rest => (a, { s with triggers := rest })
  | [] => (s.standingTrigger, s)

end Server

structure World where
  server : Server
  executor : Executor
  now : Nat := 0
  /-- Calls under way: when they end, and what they bring. -/
  pending : List (Nat × Input) := []
  trace : List (Nat × Happening) := []

namespace World

def start (server : Server) (timing : Timing) : World := { server, executor := .start timing }

def takeTrace (w : World) : List (Nat × Happening) × World := (w.trace, { w with trace := [] })

def answerAfter (w : World) (delay : Nat) (i : Input) : World :=
  { w with pending := w.pending ++ [(w.now + Instant.ofMillis delay, i)] }

/-- Takes over a request. Nobody has to be woken, for time stands still until the next
occurrence. -/
def serve (w : World) : Request → World
  | .list epoch seq =>
    let (a, server) := w.server.list
    answerAfter { w with server } a.delay (.listed epoch seq a.result)
  | .trigger epoch caller =>
    let (a, server) := w.server.trigger
    answerAfter { w with server } a.delay (.triggered epoch caller a.result)
  | .wake _ => w

def moved (w : World) (x : Executor) : World :=
  let (requests, trace, executor) := x.take
  requests.foldl serve { w with executor, trace := w.trace ++ trace.map fun h => (w.now, h) }

def handle (w : World) (i : Input) : World := w.moved (w.executor.handle w.now i)

def issue (w : World) (command : Command) : World := w.moved (w.executor.issue w.now command)

def kill (w : World) : World := w.moved w.executor.kill

/-- Takes out the call that ends first; of several, the one that was made first. -/
def takeEarliest : List (Nat × Input) → Option ((Nat × Input) × List (Nat × Input))
  | [] => none
  | p :: rest =>
    match takeEarliest rest with
    | some (q, left) => if q.1 < p.1 then some (q, p :: left) else some (p, rest)
    | none => some (p, [])

/-- What occurs next and when, no later than `limit`. Of what is due at one instant, calls that end
come first, and polling comes before the starting phase. -/
def next? (w : World) (limit : Nat) : Option (Nat × Input × World) :=
  let timer (due : Controller → Option Nat) (i : Input) : Option (Nat × Input × World) :=
    (w.executor.controller.bind fun c => Instant.firing? (due c) w.now limit).map fun t => (t, i, w)
  let call := ((takeEarliest w.pending).filter (·.1.1 ≤ limit)).map
    fun (p, pending) => (p.1, p.2, { w with pending })
  [call, timer (·.poll.due) .pollDue, timer (·.starting.due) .startingDue].foldl (fun first o =>
    match first, o with
    | some f, some x => if x.1 < f.1 then some x else some f
    | some f, none => some f
    | none, o => o) none

def runWith (fuel : Nat) (reached : World → Bool) (limit : Nat) (w : World) : World :=
  match fuel with
  | 0 => w
  | fuel + 1 =>
    if reached w then w
    else
      match w.next? limit with
      | some (t, i, w) => runWith fuel reached limit ({ w with now := t }.handle i)
      | none => { w with now := limit }

/-- More occurrences than can be up to a limit: at most one timer of each kind falls due in a
millisecond, and each of them and each caller brings a few calls. -/
def fuelUpTo (w : World) (limit : Nat) : Nat :=
  8 * (Instant.millis (limit - w.now) + w.pending.length + w.executor.waiting.length + 4)

def runUntil (reached : World → Bool) (limit : Nat) (w : World) : World :=
  w.runWith (w.fuelUpTo limit) reached limit

def settle (w : World) : World := w.runUntil (fun _ => false) w.now

def advance (w : World) (nanos : Nat) : World := w.runUntil (fun _ => false) (w.now + nanos)

def await (w : World) (nanos : Nat) : World :=
  (w.runUntil (fun w => w.executor.waiting.isEmpty) (w.now + nanos)).settle

end World

end RunWatch.Simulation
