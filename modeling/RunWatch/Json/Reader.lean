import RunWatch.Json.Token
/-!
JSON documents. The reader runs over the tokens with a stack of the containers that are open, so
it ends with them. Two sets of rules are in use: a message body keeps the entries of an object in
the order of their keys and may nest 127 deep, and a settings file keeps its entries as they are
written.
-/
set_option autoImplicit false

namespace RunWatch.Json

structure Rules where
  depth : Option Nat
  keep : Entries → Entries
  /-- What stands for a scalar that has no value; without it such a scalar is refused. -/
  standIn : Option Json
  /-- What stands for a key that has no value, below the outermost object; in that one, and without
  a stand-in everywhere, such a key is refused. -/
  keyStandIn : Option String

/-- The rules of message bodies: at most 127 levels, and the last entry under a key counts. -/
def Rules.body : Rules := ⟨some 127, collect, none, none⟩

/-- Entries as written. A scalar without a value reads as an empty list, which no setting takes
for its value. -/
def Rules.asWritten : Rules := ⟨none, id, some (.array []), some ""⟩

inductive Frame where
  | items (done : List Json)
  | entries (done : Entries) (key : String)

/-- What the reader expects next, above the stack of open containers. -/
inductive Reader where
  | value (stack : List Frame)
  | firstItem (stack : List Frame)
  | firstKey (stack : List Frame)
  | key (done : Entries) (stack : List Frame)
  | colon (done : Entries) (key : String) (stack : List Frame)
  | after (value : Json) (stack : List Frame)

namespace Reader

def Rules.admits (rules : Rules) (stack : List Frame) : Bool :=
  match rules.depth with
  | some d => stack.length < d
  | none => true

def begin? (rules : Rules) (stack : List Frame) : Token → Option Reader
  | .scalar v => (v.or rules.standIn).map fun v => .after v stack
  | .text s => ((s.map Json.string).or rules.standIn).map fun v => .after v stack
  | .openArray => if Rules.admits rules stack then some (.firstItem stack) else none
  | .openObject => if Rules.admits rules stack then some (.firstKey stack) else none
  | _ => none

def key? (rules : Rules) (stack : List Frame) (k : Option String) : Option String :=
  if stack.isEmpty then k else k.or rules.keyStandIn

def step? (rules : Rules) (r : Reader) (t : Token) : Option Reader :=
  match r, t with
  | .value stack, t => begin? rules stack t
  | .firstItem stack, .closeArray => some (.after (.array []) stack)
  | .firstItem stack, t => begin? rules (.items [] :: stack) t
  | .firstKey stack, .closeObject => some (.after (.object []) stack)
  | .firstKey stack, .text k => (key? rules stack k).map fun k => .colon [] k stack
  | .key done stack, .text k => (key? rules stack k).map fun k => .colon done k stack
  | .colon done k stack, .colon => some (.value (.entries done k :: stack))
  | .after v (.items done :: stack), .comma => some (.value (.items (v :: done) :: stack))
  | .after v (.items done :: stack), .closeArray =>
    some (.after (.array (v :: done).reverse) stack)
  | .after v (.entries done k :: stack), .comma => some (.key ((k, v) :: done) stack)
  | .after v (.entries done k :: stack), .closeObject =>
    some (.after (.object (rules.keep ((k, v) :: done).reverse)) stack)
  | _, _ => none

def content (last : Option Json) : Frame → Json
  | .items done => .array (last.toList ++ done).reverse
  | .entries done k => .object ((last.map fun v => (k, v)).toList ++ done).reverse

def soFar? : Reader → Option Json
  | .after v [] => some v
  | .after v [frame] => some (content (some v) frame)
  | .key done [] | .colon done _ [] => some (.object done.reverse)
  | .after _ stack | .value stack | .firstItem stack | .firstKey stack
  | .key _ stack | .colon _ _ stack => stack.getLast?.map (content none)

def result? : Reader → Option Json
  | .after v [] => some v
  | _ => none

end Reader

def read? (rules : Rules) (text : String) : Option Json := do
  let tokens ← tokens? text.toList
  let r ← tokens.foldlM (Reader.step? rules) (.value [])
  r.result?

/-- What is complete, in the outermost container, in front of the first fault of a text. -/
def soFar? (rules : Rules) (text : String) : Option Json :=
  (furthest (Reader.step? rules) (.value []) (tokensSoFar text.toList)).soFar?

def ofBytes? (bytes : ByteArray) : Option Json := (String.fromUTF8? bytes).bind (read? .body)

end RunWatch.Json
