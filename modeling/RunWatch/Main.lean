import RunWatch.Live
import RunWatch.Program
import RunWatch.Usage
set_option autoImplicit false

open RunWatch

def fileState (path : String) : IO FileState := do
  try
    return .contents (← IO.FS.readBinFile path)
  catch
    | .noFileOrDirectory .. => return .absent
    | .inappropriateType _ 21 _ => return .directory
    | .inappropriateType .. => return .unreadable "Not a directory (os error 20)"
    | .permissionDenied .. => return .unreadable "Permission denied (os error 13)"
    | e => return .unreadable (toString e)

def settingsFile (o : Overrides) : IO (Option SettingsFile) := do
  let usual := Program.usualPath (← IO.getEnv "XDG_CONFIG_HOME") (← IO.getEnv "HOME")
  match Program.settingsPath o usual with
  | none => return none
  | some (path, named) => return some { path, named, state := ← fileState path }

def finish (json : Bool) (fault : Option Fault) : IO UInt32 := do
  for l in Program.lastLines json fault do Live.print l
  return (Program.exitCode fault).toUInt32

/-- The exit code of a program that came to a value which it does not survive. -/
def crash (account : String) : IO UInt32 := do
  IO.eprintln account
  return 101

def beyondCalendar : String := "a timestamp lies beyond the calendar"

def carryOut (i : Invocation) (settings : Settings) : IO UInt32 := do
  match i.task with
  | .runs limit =>
    match ← (Live.list settings.client limit).block with
    | .error f => finish i.json (some (Program.listingFault f))
    | .ok listing =>
      match Program.listingLines? i.json (← Live.clock) listing with
      | none => crash beyondCalendar
      | some lines =>
        for l in lines do Live.print l
        finish i.json none
  | .errand errand =>
    let console ← (Live.run settings errand i.json).block
    match console.phase with
    | .ended fault => finish i.json fault
    | _ => crash beyondCalendar

def main (args : List String) : IO UInt32 := do
  let env : CommandLine.Environment :=
    { baseUrl := ← IO.getEnv "SCHOLAR_RUNS_BASE_URL", cookie := ← IO.getEnv "SCHOLAR_RUNS_COOKIE" }
  match CommandLine.parse env args with
  | .error e =>
    if e.exitCode = 0 then IO.println e.message else IO.eprintln e.message
    return e.exitCode.toUInt32
  | .ok i =>
    match Program.prepare i (← settingsFile i.overrides) with
    | .error (.fault f) => finish i.json (some f)
    | .error .crash => crash UsageError.crash.message
    | .ok settings => carryOut i settings
