import RunWatch.Fault
import RunWatch.Json.Reader
import RunWatch.Timing
/-!
Settings in three layers: what the command line gives goes before what the settings file gives, and
that before what is built in. The poll interval has a floor, which holds whatever the layers say.
-/
set_option autoImplicit false

namespace RunWatch

structure Overrides where
  configPath : Option String := none
  baseUrl : Option String := none
  cookie : Option String := none
  timeout : Option Span := none
  pollInterval : Option Span := none
  startingPhase : Option Span := none
  deriving DecidableEq, Repr

structure FileSettings where
  baseUrl : Option String := none
  cookie : Option String := none
  timeout : Option Span := none
  pollInterval : Option Span := none
  startingPhase : Option Span := none
  deriving DecidableEq, Repr

structure ClientSettings where
  baseUrl : String
  cookie : Option String
  timeout : Span
  userAgent : String
  deriving DecidableEq, Repr

structure Settings where
  client : ClientSettings
  timing : Timing
  deriving DecidableEq, Repr

namespace FileSettings

open Json Shape in
def shape : RecordShape FileSettings where
  name := "FileConfig"
  fields := [("base_url", check (optional text)), ("cookie", check (optional text)),
    ("timeout", check (optional Span.shape)), ("poll_interval", check (optional Span.shape)),
    ("starting_phase", check (optional Span.shape))]
  build s := do
    let baseUrl ← s.withDefault 0 "base_url" (optional text) none
    let cookie ← s.withDefault 1 "cookie" (optional text) none
    let timeout ← s.withDefault 2 "timeout" (optional Span.shape) none
    let pollInterval ← s.withDefault 3 "poll_interval" (optional Span.shape) none
    let startingPhase ← s.withDefault 4 "starting_phase" (optional Span.shape) none
    pure { baseUrl, cookie, timeout, pollInterval, startingPhase }

end FileSettings

inductive FileState where
  | absent
  | unreadable (cause : String)
  | contents (bytes : ByteArray)

namespace FileState

def absentCause : String := "No such file or directory (os error 2)"

def directory : FileState := .unreadable "Is a directory (os error 21)"

end FileState

structure SettingsFile where
  path : String
  /-- The user named the path; otherwise it is the usual one, which may be absent. -/
  named : Bool
  state : FileState

namespace SettingsFile

def unreadable (f : SettingsFile) (cause : String) : Fault :=
  { account := "failed to read config file " ++ f.path, causes := [cause] }

def invalid (f : SettingsFile) (cause : String) : Fault :=
  { account := "invalid config file " ++ f.path, causes := [cause] }

/-- Whether a value stops the program before the first fault in a text that is no document. -/
def crashes (text : String) : Bool :=
  match (Json.soFar? .asWritten text).map FileSettings.shape.read with
  | some (.error .crash) => true
  | _ => false

def read (f : SettingsFile) : Except Stop FileSettings :=
  match f.state with
  | .absent => if f.named then .error (.fault (f.unreadable FileState.absentCause)) else .ok {}
  | .unreadable cause => .error (.fault (f.unreadable cause))
  | .contents bytes =>
    match String.fromUTF8? bytes with
    | none => .error (.fault (f.unreadable "stream did not contain valid UTF-8"))
    | some text =>
      match Json.read? .asWritten text with
      | none =>
        .error (if crashes text then .crash else .fault (f.invalid "not a JSON document"))
      | some value =>
        match FileSettings.shape.read value with
        | .error .crash => .error .crash
        | .error e => .error (.fault (f.invalid e.message))
        | .ok settings => .ok settings

end SettingsFile

namespace Settings

def defaultBaseUrl : String := "http://localhost:8000"
def defaultTimeout : Span := .ofSeconds 15
def userAgent : String := "scholar-runs/0.1.0"

def leastPollInterval : Span := .ofMillis 250

def atLeast (least s : Span) : Span := if s.nanos < least.nanos then least else s

def merge (o : Overrides) (f : FileSettings) : Settings where
  client := {
    baseUrl := (o.baseUrl.or f.baseUrl).getD defaultBaseUrl
    cookie := o.cookie.or f.cookie
    timeout := (o.timeout.or f.timeout).getD defaultTimeout
    userAgent }
  timing := {
    pollInterval :=
      atLeast leastPollInterval ((o.pollInterval.or f.pollInterval).getD ({} : Timing).pollInterval)
    startingPhase := (o.startingPhase.or f.startingPhase).getD ({} : Timing).startingPhase }

def resolve (o : Overrides) (file : Option SettingsFile) : Except Stop Settings :=
  match file with
  | none => .ok (merge o {})
  | some f => f.read.map (merge o)

theorem le_nanos_atLeast (least s : Span) : least.nanos ≤ (atLeast least s).nanos := by
  unfold atLeast
  split <;> omega

end Settings

end RunWatch
