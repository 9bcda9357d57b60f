import RunWatch.Json.Shape
import RunWatch.Text.Blank
/-!
Spans of time and their human text, such as `1h 30m` or `1.5s`. A text is a sequence of parts, each
a number and a unit; blanks may stand before a number, between its digits and after it. Every
quantity on the way is a number of 64 bits, and a text for which one is not is no span. There is one
exception: nanoseconds that fill the second behind the last one of 64 bits are a crash. A month is
30.44 days and a year 365.25 days.
-/
set_option autoImplicit false

namespace RunWatch

/-- A span of whole nanoseconds, of less than 2⁶⁴ seconds when it is read from text. -/
structure Span where
  nanos : Nat
  deriving DecidableEq, Repr

namespace Span

def nanosPerSecond : Nat := 1000000000

def ofSeconds (n : Nat) : Span := ⟨n * nanosPerSecond⟩

def ofMillis (n : Nat) : Span := ⟨n * 1000000⟩

def wholeSeconds (s : Span) : Nat := s.nanos / nanosPerSecond

def subsecondNanos (s : Span) : Nat := s.nanos % nanosPerSecond

inductive Measure where
  | seconds (n : Nat)
  | nanos (n : Nat)
  deriving DecidableEq, Repr

structure TimeUnit where
  names : List String
  whole : Measure
  fraction : Option Measure

def minute : Nat := 60
def hour : Nat := 3600
def day : Nat := 86400
def week : Nat := 7 * day
def month : Nat := 2630016
def year : Nat := 31557600

/-- Names are told apart by case: `m` is a minute and `M` a month. Fractions of up to a minute are
counted in nanoseconds and of more in seconds; a nanosecond has none. -/
def units : List TimeUnit := [
  ⟨["nanos", "nsec", "ns"], .nanos 1, none⟩,
  ⟨["usec", "us", "µs"], .nanos 1000, some (.nanos 1000)⟩,
  ⟨["millis", "msec", "ms"], .nanos 1000000, some (.nanos 1000000)⟩,
  ⟨["seconds", "second", "secs", "sec", "s"], .seconds 1, some (.nanos nanosPerSecond)⟩,
  ⟨["minutes", "minute", "min", "mins", "m"], .seconds minute, some (.nanos (60 * nanosPerSecond))⟩,
  ⟨["hours", "hour", "hr", "hrs", "h"], .seconds hour, some (.seconds hour)⟩,
  ⟨["days", "day", "d"], .seconds day, some (.seconds day)⟩,
  ⟨["weeks", "week", "wk", "wks", "w"], .seconds week, some (.seconds week)⟩,
  ⟨["months", "month", "M"], .seconds month, some (.seconds month)⟩,
  ⟨["years", "year", "yr", "yrs", "y"], .seconds year, some (.seconds year)⟩]

def unit? (name : String) : Option TimeUnit := units.find? fun u => u.names.contains name

def isUnitChar (c : Char) : Bool := ('a' ≤ c && c ≤ 'z') || ('A' ≤ c && c ≤ 'Z') || c == 'µ'

def word? (n : Nat) : Option Nat := if n < UInt64.size then some n else none

inductive ReadError where
  | malformed
  /-- The program does not survive the text. -/
  | crash
  deriving DecidableEq, Repr

abbrev Reading := Except ReadError

def step {α : Type} : Option α → Reading α
  | some a => .ok a
  | none => .error .malformed

/-- Adds seconds and nanoseconds to a span. Nanoseconds beyond a second are carried with a check of
the range, and nanoseconds that make one second exactly are carried without it. -/
def add (s : Span) (seconds nanos : Nat) : Reading Span := do
  let nanos ← step (word? (s.subsecondNanos + nanos))
  let seconds ← step (word? (s.wholeSeconds + seconds))
  if nanos = nanosPerSecond then
    if (word? (seconds + 1)).isSome then .ok (ofSeconds (seconds + 1)) else .error .crash
  else
    let seconds ← step (word? (seconds + nanos / nanosPerSecond))
    .ok ⟨seconds * nanosPerSecond + nanos % nanosPerSecond⟩

/-- Adds `n / d` of a measure; the quotient must be whole. -/
def addMeasure (s : Span) (n d : Nat) : Measure → Reading Span
  | .seconds k => do
    let q ← step (word? (n * k))
    if q % d = 0 then s.add (q / d) 0 else .error .malformed
  | .nanos k => do
    let q ← step (word? (n * k))
    if q % d = 0 then s.add 0 (q / d) else .error .malformed

def takeNumber? (n : Nat) : List Char → Option (Nat × List Char)
  | [] => some (n, [])
  | c :: cs =>
    match Text.digit? c with
    | some d => (word? (10 * n + d)).bind fun n => takeNumber? n cs
    | none =>
      if Text.isBlank c then takeNumber? n cs
      else if isUnitChar c || c == '.' then some (n, c :: cs)
      else none

def takeFraction? (n d : Nat) : List Char → Option (Nat × Nat × List Char)
  | [] => some (n, d, [])
  | c :: cs =>
    match Text.digit? c with
    | some k => do
      let d ← word? (10 * d)
      let n ← word? (10 * n + k)
      takeFraction? n d cs
    | none =>
      if Text.isBlank c then takeFraction? n d cs
      else if isUnitChar c then some (n, d, c :: cs)
      else none

def takeUnit? : List Char → Option (List Char × List Char)
  | [] => some ([], [])
  | c :: cs =>
    if isUnitChar c then (takeUnit? cs).map fun p => (c :: p.1, p.2)
    else if Text.isDigit c || Text.isBlank c then some ([], c :: cs)
    else none

def readPart (s : Span) (cs : List Char) : Reading (Span × List Char) := do
  let (n, cs) ← step (takeNumber? 0 cs)
  let (numerator, denominator, cs) ← step (
    match cs with
    | '.' :: cs => (takeFraction? 0 1 cs).filter fun f => f.2.1 ≠ 1
    | _ => some (0, 1, cs))
  let (name, cs) ← step (takeUnit? cs)
  let unit ← step (unit? (String.ofList name))
  let s ← s.addMeasure n 1 unit.whole
  if denominator = 1 then .ok (s, cs)
  else
    let measure ← step unit.fraction
    let s ← s.addMeasure numerator denominator measure
    .ok (s, cs)

def readParts (s : Span) (cs : List Char) : Reading Span :=
  match Text.dropBlanks cs with
  | [] => .ok s
  | c :: rest =>
    if Text.isDigit c then
      match readPart s (c :: rest) with
      | .error e => .error e
      | .ok (s, left) => if left.length < cs.length then readParts s left else .error .malformed
    else .error .malformed
termination_by cs.length

/-- Reads a span: at least one part, or zero alone. -/
def read (text : String) : Reading Span :=
  if text = "0" then .ok ⟨0⟩
  else if Text.dropBlanks text.toList = [] then .error .malformed
  else readParts ⟨0⟩ text.toList

def plural (name : String) (n : Nat) : Option String :=
  if n = 0 then none else some (toString n ++ name ++ (if n = 1 then "" else "s"))

def item (name : String) (n : Nat) : Option String :=
  if n = 0 then none else some (toString n ++ name)

def parts (s : Span) : List String :=
  let secs := s.wholeSeconds
  let ofYear := secs % year
  let ofDay := ofYear % month % day
  let nanos := s.subsecondNanos
  [plural "year" (secs / year), plural "month" (ofYear / month),
    plural "day" (ofYear % month / day), item "h" (ofDay / hour), item "m" (ofDay % hour / 60),
    item "s" (ofDay % 60), item "ms" (nanos / 1000000), item "us" (nanos / 1000 % 1000),
    item "ns" (nanos % 1000)].filterMap id

def text (s : Span) : String := if s.nanos = 0 then "0s" else " ".intercalate s.parts

def shape : Json.Shape Span
  | .string s =>
    match read s with
    | .ok span => .ok span
    | .error .malformed => .error (.wrongValue (.string s) .duration)
    | .error .crash => .error .crash
  | v => .error (.wrongType v .duration)

end Span

end RunWatch
