import RunWatch.Console
import RunWatch.Simulation.World
set_option autoImplicit false

namespace RunWatch.Simulation

structure Flow where
  world : World
  console : Console
  happened : List (Nat × Happening) := []

namespace Flow

def absorb (clock : Timestamp) (f : Flow) : Flow :=
  let (trace, world) := f.world.takeTrace
  { world
    console := trace.foldl (fun c h => c.see clock h.2) f.console
    happened := f.happened ++ trace }

def issue (clock : Timestamp) (f : Flow) (command : Command) : Flow :=
  absorb clock { f with world := f.world.issue command }

def start (clock : Timestamp) (server : Server) (timing : Timing) (errand : Errand)
    (json : Bool) : Flow :=
  issue clock ⟨.start server timing, { errand, json }, []⟩ errand.command

def interrupt (clock : Timestamp) (f : Flow) : Flow :=
  let f := { f with console := f.console.interrupt }
  if f.console.phase = .resetting then f.issue clock .reset else f

/-- Runs until the console is over or the limit is reached; the fuel bounds the occurrences. -/
def runWith (clock : Timestamp) (fuel : Nat) (interruptAt : Option Nat) (limit : Nat) (f : Flow) :
    Flow :=
  match fuel with
  | 0 => f
  | fuel + 1 =>
    if f.console.isOver then f
    else
      let soon := (interruptAt.filter (· ≤ limit)).getD limit
      match f.world.next? soon with
      | some (t, i, w) =>
        runWith clock fuel interruptAt limit
          (absorb clock { f with world := { w with now := t }.handle i })
      | none =>
        let f := { f with world := { f.world with now := soon } }
        if (interruptAt.filter (· ≤ limit)).isSome then
          runWith clock fuel none limit (f.interrupt clock)
        else f

def run (clock : Timestamp) (interruptAt : Option Nat) (limit : Nat) (f : Flow) : Flow :=
  f.runWith clock (f.world.fuelUpTo limit + 2) interruptAt limit

def remains (f : Flow) : Snapshot := ((f.world.issue .reset).settle).executor.shown

end Flow

end RunWatch.Simulation
