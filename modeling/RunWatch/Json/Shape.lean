import RunWatch.Json.Printer
import RunWatch.Text.Quoted
set_option autoImplicit false

namespace RunWatch

namespace Json

inductive Expected where
  | count
  | text
  | boolean
  | sequence
  | variant
  | unit
  | duration
  | singleKey
  | record (name : String)
  | elements (name : String) (n : Nat)
  | fewerElements
  deriving DecidableEq, Repr

inductive ShapeError where
  | wrongType (found : Json) (expected : Expected)
  | wrongValue (found : Json) (expected : Expected)
  | wrongLength (length : Nat) (expected : Expected)
  | missingField (name : String)
  | duplicateField (name : String)
  /-- The program does not survive the value. -/
  | crash

def Expected.phrase : Expected → String
  | .count => "u64"
  | .text => "a string"
  | .boolean => "a boolean"
  | .sequence => "a sequence"
  | .variant => "string or map"
  | .unit => "unit"
  | .duration => "a duration"
  | .singleKey => "map with a single key"
  | .record name => "struct " ++ name
  | .elements name n => "struct " ++ name ++ " with " ++ toString n ++ " elements"
  | .fewerElements => "fewer elements in array"

def foundText : Json → String
  | .null => "null"
  | .bool b => "boolean `" ++ (if b then "true" else "false") ++ "`"
  | .natural n => "integer `" ++ toString n.toNat ++ "`"
  | .negative k => "integer `-" ++ toString (k + 1) ++ "`"
  | .real x => "floating point `" ++ realText x ++ "`"
  | .string s => "string " ++ Text.quoted s
  | .array _ => "sequence"
  | .object _ => "map"

def ShapeError.message : ShapeError → String
  | .wrongType found expected =>
    "invalid type: " ++ found.foundText ++ ", expected " ++ expected.phrase
  | .wrongValue found expected =>
    "invalid value: " ++ found.foundText ++ ", expected " ++ expected.phrase
  | .wrongLength n expected => "invalid length " ++ toString n ++ ", expected " ++ expected.phrase
  | .missingField name => "missing field `" ++ name ++ "`"
  | .duplicateField name => "duplicate field `" ++ name ++ "`"
  | .crash => "a value that cannot be held"

abbrev Shape (α : Type) := Json → Except ShapeError α

namespace Shape

def raw : Shape Json := .ok

def count : Shape UInt64
  | .natural n => .ok n
  | .negative k => .error (.wrongValue (.negative k) .count)
  | v => .error (.wrongType v .count)

def text : Shape String
  | .string s => .ok s
  | v => .error (.wrongType v .text)

def boolean : Shape Bool
  | .bool b => .ok b
  | v => .error (.wrongType v .boolean)

def optional {α : Type} (shape : Shape α) : Shape (Option α)
  | .null => .ok none
  | v => (shape v).map some

def list {α : Type} (shape : Shape α) : Shape (List α)
  | .array items => items.mapM shape
  | v => .error (.wrongType v .sequence)

/-- A name out of a set, as a text or as the key of an object whose one value is null. -/
def variant {α : Type} (ofName : String → α) : Shape α
  | .string s => .ok (ofName s)
  | .object [(name, .null)] => .ok (ofName name)
  | .object [(_, v)] => .error (.wrongType v .unit)
  | .object entries => .error (.wrongValue (.object entries) .singleKey)
  | v => .error (.wrongType v .variant)

def check {α : Type} (shape : Shape α) : Shape Unit := fun v => (shape v).map fun _ => ()

end Shape

structure Source where
  value? : Nat → String → Option Json
  missing : Nat → String → ShapeError

namespace Source

def ofEntries (entries : Entries) : Source := ⟨fun _ name => lookup name entries,
  fun _ name => .missingField name⟩

def ofItems (record : String) (size : Nat) (items : List Json) : Source :=
  ⟨fun i _ => items[i]?, fun i _ => .wrongLength i (.elements record size)⟩

def required {α : Type} (s : Source) (i : Nat) (name : String) (shape : Shape α) :
    Except ShapeError α :=
  match s.value? i name with
  | some v => shape v
  | none => .error (s.missing i name)

def withDefault {α : Type} (s : Source) (i : Nat) (name : String) (shape : Shape α) (d : α) :
    Except ShapeError α :=
  match s.value? i name with
  | some v => shape v
  | none => .ok d

end Source

/-- A record: its name in messages, its fields in order, and how it is put together. -/
structure RecordShape (α : Type) where
  name : String
  fields : List (String × Shape Unit)
  build : Source → Except ShapeError α

namespace RecordShape

/-- The first fault among entries in their order: a field that comes again or a value without the
shape of its field. -/
def checkEntries (fields : List (String × Shape Unit)) (seen : List String) :
    Entries → Except ShapeError Unit
  | [] => .ok ()
  | (k, v) :: rest =>
    match fields.find? fun f => f.1 == k with
    | none => checkEntries fields seen rest
    | some (_, shape) =>
      if seen.contains k then .error (.duplicateField k)
      else
        match shape v with
        | .error e => .error e
        | .ok () => checkEntries fields (k :: seen) rest

def read {α : Type} (r : RecordShape α) : Shape α
  | .object entries => do
    checkEntries r.fields [] entries
    r.build (.ofEntries entries)
  | .array items => do
    let a ← r.build (.ofItems r.name r.fields.length items)
    if r.fields.length < items.length then .error (.wrongLength items.length .fewerElements)
    else .ok a
  | v => .error (.wrongType v (.record r.name))

end RecordShape

end Json

end RunWatch
