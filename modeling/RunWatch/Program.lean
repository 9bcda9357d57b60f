import RunWatch.Client
import RunWatch.CommandLine
set_option autoImplicit false

namespace RunWatch.Program

/-- The usual place of the settings file: below the configuration directory, which is `given` when
that is absolute, and else belongs to the home directory. -/
def usualPath (given home : Option String) : Option String :=
  let directory :=
    (given.filter fun d => d.toList.head? = some '/').or
      ((home.filter (· ≠ "")).map (· ++ "/.config"))
  directory.map (· ++ "/scholar-runs/config.json")

def settingsPath (o : Overrides) (usual : Option String) : Option (String × Bool) :=
  match o.configPath with
  | some path => some (path, true)
  | none => usual.map fun path => (path, false)

def prepare (i : Invocation) (file : Option SettingsFile) : Except Stop Settings := do
  let settings ← Settings.resolve i.overrides file
  settings.client.check.mapError .fault
  .ok settings

/-- What listing the runs prints, by the clock. No lines stand for a listing that holds a timestamp
without a text. -/
def listingLines? (json : Bool) (clock : Timestamp) (l : Listing) : Option (List Line) :=
  let safety := SafetyState.normalize l.safety
  if json then
    let document : Json := .object
      [("runs", .array (l.runs.map Run.toJson)), ("safety_state", safety.toJson)]
    some [.out document.sorted.pretty]
  else
    (l.runs.mapM Run.line?).map fun runs =>
      ((if runs.isEmpty then ["No runs yet."] else runs) ++
        safety.lines (safety.remainingAt clock)).map .out

def listingFault (f : Failure) : Fault :=
  { account := "failed to list runs", causes := [f.display] }

def lastLines (json : Bool) (fault : Option Fault) : List Line :=
  match fault with
  | none => []
  | some f => if json then (f.document?.map Line.out).toList else [.err f.report]

def exitCode (fault : Option Fault) : Nat := if fault.isSome then 1 else 0

end RunWatch.Program
