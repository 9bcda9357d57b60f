import RunWatch.Console
import RunWatch.Settings
import RunWatch.Text.Digits
/-!
The command line. Options that concern every command may stand before the command and after it, and
what stands after it goes before; what the environment gives counts where neither does. A value that
stands apart from its option is not judged before the next option, or the end, closes it, so a word
that is no argument at all is found first.
-/
set_option autoImplicit false

namespace RunWatch

inductive Task where
  | errand (e : Errand)
  | runs (limit : UInt64)
  deriving DecidableEq, Repr

structure Invocation where
  task : Task
  json : Bool
  verbosity : Nat
  overrides : Overrides
  deriving DecidableEq, Repr

inductive UsageError where
  | helpAsked
  | versionAsked
  | nothingGiven
  | noCommand
  | unknownCommand
  | unknownArgument
  | unfitValue
  | malformedValue
  | repeated
  | surplusValue
  /-- The program does not survive a value. -/
  | crash
  deriving DecidableEq, Repr

def UsageError.exitCode : UsageError → Nat
  | .helpAsked | .versionAsked => 0
  | .crash => 101
  | _ => 2

namespace CommandLine

/-- What the environment gives in place of options. -/
structure Environment where
  baseUrl : Option String := none
  cookie : Option String := none

inductive Name where
  | status
  | start
  | watch
  | runs
  | help
  deriving DecidableEq, Repr

def Name.ofWord? (word : String) : Option Name :=
  if word = "status" then some .status
  else if word = "start" then some .start
  else if word = "watch" then some .watch
  else if word = "runs" then some .runs
  else if word = "help" then some .help
  else none

inductive Opt where
  | baseUrl
  | cookie
  | config
  | pollInterval
  | startingPhase
  | timeout
  | wait
  | limit
  deriving DecidableEq, Repr

inductive Flag where
  | json
  | verbose
  | help
  | version
  deriving DecidableEq, Repr

/-- The long options that are known before a command (`none`) and after it. -/
def long? (level : Option Name) (word : String) : Option (Opt ⊕ Flag) :=
  if word = "base-url" then some (.inl .baseUrl)
  else if word = "cookie" then some (.inl .cookie)
  else if word = "config" then some (.inl .config)
  else if word = "poll-interval" then some (.inl .pollInterval)
  else if word = "starting-phase" then some (.inl .startingPhase)
  else if word = "timeout" then some (.inl .timeout)
  else if word = "wait" ∧ level = some .start then some (.inl .wait)
  else if word = "limit" ∧ level = some .runs then some (.inl .limit)
  else if word = "json" then some (.inr .json)
  else if word = "verbose" then some (.inr .verbose)
  else if word = "help" then some (.inr .help)
  else if word = "version" ∧ level = none then some (.inr .version)
  else none

def short? (level : Option Name) (c : Char) : Option Flag :=
  if c = 'v' then some .verbose
  else if c = 'h' then some .help
  else if c = 'V' ∧ level = none then some .version
  else none

structure Given where
  overrides : Overrides := {}
  wait : Option Bool := none
  limit : Option UInt64 := none
  json : Bool := false
  verbosity : Nat := 0
  deriving DecidableEq, Repr

namespace Given

def put {α : Type} (held : Option α) (value : Except UsageError α) : Except UsageError (Option α) :=
  if held.isSome then .error .repeated else value.map some

def span (text : String) : Except UsageError Span :=
  match Span.read text with
  | .ok s => .ok s
  | .error .malformed => .error .malformedValue
  | .error .crash => .error .crash

def path (text : String) : Except UsageError String :=
  if text = "" then .error .unfitValue else .ok text

def bool (text : String) : Except UsageError Bool :=
  if text = "true" then .ok true else if text = "false" then .ok false else .error .unfitValue

def word (text : String) : Except UsageError UInt64 :=
  match Text.word? text.toList with
  | some n => .ok n
  | none => .error .malformedValue

def take (g : Given) (o : Opt) (value : Option String) : Except UsageError Given :=
  match value with
  | none => .error .unfitValue
  | some v =>
    let given := g.overrides
    match o with
    | .baseUrl => (put given.baseUrl (.ok v)).map fun x => { g with overrides.baseUrl := x }
    | .cookie => (put given.cookie (.ok v)).map fun x => { g with overrides.cookie := x }
    | .config => (put given.configPath (path v)).map fun x => { g with overrides.configPath := x }
    | .pollInterval =>
      (put given.pollInterval (span v)).map fun x => { g with overrides.pollInterval := x }
    | .startingPhase =>
      (put given.startingPhase (span v)).map fun x => { g with overrides.startingPhase := x }
    | .timeout => (put given.timeout (span v)).map fun x => { g with overrides.timeout := x }
    | .wait => (put g.wait (bool v)).map fun x => { g with wait := x }
    | .limit => (put g.limit (word v)).map fun x => { g with limit := x }

/-- Takes a flag. How often `verbose` comes is counted up to 255. -/
def raise (g : Given) : Flag → Except UsageError Given
  | .json => if g.json then .error .repeated else .ok { g with json := true }
  | .verbose => .ok { g with verbosity := min 255 (g.verbosity + 1) }
  | .help => .error .helpAsked
  | .version => .error .versionAsked

/-- What was given after the command goes before what was given in front of it. -/
def orElse (after before : Given) : Given where
  overrides := {
    configPath := after.overrides.configPath.or before.overrides.configPath
    baseUrl := after.overrides.baseUrl.or before.overrides.baseUrl
    cookie := after.overrides.cookie.or before.overrides.cookie
    timeout := after.overrides.timeout.or before.overrides.timeout
    pollInterval := after.overrides.pollInterval.or before.overrides.pollInterval
    startingPhase := after.overrides.startingPhase.or before.overrides.startingPhase }
  wait := after.wait.or before.wait
  limit := after.limit.or before.limit
  json := after.json || before.json
  verbosity := if after.verbosity = 0 then before.verbosity else after.verbosity

def orEnvironment (g : Given) (env : Environment) : Given :=
  { g with
    overrides := { g.overrides with
      baseUrl := g.overrides.baseUrl.or env.baseUrl
      cookie := g.overrides.cookie.or env.cookie } }

end Given

structure Scan where
  given : Given := {}
  /-- An option that has not been closed, with its value if that has come. -/
  openOption : Option (Opt × Option String) := none

namespace Scan

def awaitsValue (s : Scan) : Bool :=
  match s.openOption with
  | some (_, none) => true
  | _ => false

def close (s : Scan) : Except UsageError Scan :=
  match s.openOption with
  | none => .ok s
  | some (o, value) => (s.given.take o value).map fun given => { given }

def raise (s : Scan) (f : Flag) : Except UsageError Scan := do
  let s ← s.close
  let given ← s.given.raise f
  .ok { s with given }

def long (level : Option Name) (s : Scan) (word : String) (value : Option String) :
    Except UsageError Scan :=
  match long? level word, value with
  | none, _ => .error .unknownArgument
  | some (.inr _), some _ => .error .surplusValue
  | some (.inr f), none => s.raise f
  | some (.inl o), none => s.close.map fun s => { s with openOption := some (o, none) }
  | some (.inl o), some v => do
    let s ← s.close
    let given ← s.given.take o (some v)
    .ok { s with given }

def shorts (level : Option Name) (s : Scan) : List Char → Except UsageError Scan
  | [] => .ok s
  | c :: cs =>
    match short? level c with
    | none => .error .unknownArgument
    | some f => do
      let s ← s.raise f
      s.shorts level cs

def stray (level : Option Name) : UsageError :=
  if level = none then .unknownCommand else .unknownArgument

/-- What follows a double dash has no place; in front of a command not even a command has. -/
def afterDashes (level : Option Name) (s : Scan) : List String → Except UsageError Scan
  | [] => .ok s
  | word :: _ =>
    .error (if (Name.ofWord? word).isSome then .unknownArgument else stray level)

def split (cs : List Char) : String × Option String :=
  match cs.dropWhile (· ≠ '=') with
  | [] => (String.ofList cs, none)
  | _ :: value => (String.ofList (cs.takeWhile (· ≠ '=')), some (String.ofList value))

def argument (level : Option Name) (s : Scan) (word : String) : Except UsageError Scan :=
  match word.toList, s.openOption with
  | '-' :: '-' :: cs, _ =>
    let (word, value) := split cs
    s.long level word value
  | '-' :: c :: cs, _ => s.shorts level (c :: cs)
  | _, some (o, none) => .ok { s with openOption := some (o, some word) }
  | _, _ => .error (stray level)

/-- Scans the arguments of a level; in front of a command, up to it. -/
def run (level : Option Name) (s : Scan) :
    List String → Except UsageError (Scan × Option (Name × List String))
  | [] => .ok (s, none)
  | word :: rest =>
    match if level = none ∧ !s.awaitsValue then Name.ofWord? word else none with
    | some name => .ok (s, some (name, rest))
    | none =>
      if word = "--" then (s.afterDashes level rest).map fun s => (s, none)
      else
        match s.argument level word with
        | .error e => .error e
        | .ok s => s.run level rest

end Scan

def givenAfter (name : Name) (args : List String) : Except UsageError Given := do
  let (s, _) ← ({} : Scan).run (some name) args
  let s ← s.close
  .ok s.given

/-- The command `help` takes the name of a command and nothing after it. -/
def helpFor : List String → UsageError
  | [] => .helpAsked
  | [word] => if (Name.ofWord? word).isSome then .helpAsked else .unknownCommand
  | _ => .unknownCommand

def task? (g : Given) : Name → Option Task
  | .status => some (.errand .status)
  | .start => some (.errand (.start (g.wait.getD true)))
  | .watch => some (.errand .watch)
  | .runs => some (.runs (g.limit.getD 10))
  | .help => none

def parse (env : Environment) (args : List String) : Except UsageError Invocation := do
  let (before, command) ← ({} : Scan).run none args
  match command with
  | none =>
    let before ← before.close
    if before.given.orEnvironment env = {} then .error .nothingGiven else .error .noCommand
  | some (.help, rest) => .error (helpFor rest)
  | some (name, rest) =>
    let after ← givenAfter name rest
    let before ← before.close
    let g := (after.orElse before.given).orEnvironment env
    match task? g name with
    | some task => .ok { task, json := g.json, verbosity := g.verbosity, overrides := g.overrides }
    | none => .error .unknownCommand

end CommandLine

end RunWatch
