import RunWatch.Calendar
import RunWatch.Text.Digits
/-!
Instants written in the profile of RFC 3339, and their display to the minute in UTC. Years 0 to
9999 are written; an offset can carry the instant into the year before or the year after. A display
exists for every year up to 9999 and for none after it.
-/
set_option autoImplicit false

namespace RunWatch

/-- Seconds from the beginning of 1 March of year 0 in UTC, and nanoseconds after them. -/
structure Timestamp where
  seconds : Int
  nanos : Nat
  deriving DecidableEq, Repr

namespace Timestamp

def lastYear : Int := 9999

def secondsPerDay : Int := 86400

def date (t : Timestamp) : Date := Date.ofDayNumber (t.seconds / secondsPerDay)

def expect? (c : Char) : List Char → Option (List Char)
  | d :: cs => if d = c then some cs else none
  | [] => none

/-- The character between date and time may be any of ASCII. -/
def skipSeparator? : List Char → Option (List Char)
  | c :: cs => if c.toNat < 128 then some cs else none
  | [] => none

def fractionNanos (ds : List Nat) : Nat := Text.ofDigits ((ds ++ List.replicate 9 0).take 9)

def readFraction? : List Char → Option (Nat × List Char)
  | '.' :: cs =>
    match Text.takeDigits cs with
    | ([], _) => none
    | (ds, rest) => some (fractionNanos ds, rest)
  | cs => some (0, cs)

def readOffset? : List Char → Option Int
  | ['Z'] | ['z'] => some 0
  | c :: cs => do
    let sign : Int ← if c = '+' then some 1 else if c = '-' then some (-1) else none
    let (h, cs) ← Text.takeExactly? 2 cs
    let cs ← expect? ':' cs
    let (m, cs) ← Text.takeExactly? 2 cs
    if h ≤ 23 ∧ m ≤ 59 ∧ cs = [] then some (sign * (h * 3600 + m * 60)) else none
  | [] => none

/-- A second that is followed by a new month in UTC, in a year that can be shown: the only place of
a leap second. -/
def endsMonth (t : Timestamp) : Bool :=
  (t.seconds + 1) % secondsPerDay == 0 && t.date.year ≤ lastYear &&
    (Date.ofDayNumber ((t.seconds + 1) / secondsPerDay)).day == 1

/-- Reads date, separator, time and offset. A leap second counts as the last nanosecond of the
second before it. -/
def read? (text : String) : Option Timestamp := do
  let (year, cs) ← Text.takeExactly? 4 text.toList
  let cs ← expect? '-' cs
  let (month, cs) ← Text.takeExactly? 2 cs
  let cs ← expect? '-' cs
  let (day, cs) ← Text.takeExactly? 2 cs
  let cs ← skipSeparator? cs
  let (hour, cs) ← Text.takeExactly? 2 cs
  let cs ← expect? ':' cs
  let (minute, cs) ← Text.takeExactly? 2 cs
  let cs ← expect? ':' cs
  let (second, cs) ← Text.takeExactly? 2 cs
  let (nanos, cs) ← readFraction? cs
  let offset ← readOffset? cs
  let date : Date := ⟨year, month, day⟩
  if date.isValid ∧ hour ≤ 23 ∧ minute ≤ 59 ∧ second ≤ 60 then
    let start := date.dayNumber * secondsPerDay + hour * 3600 + minute * 60 - offset
    if second = 60 then
      let t : Timestamp := ⟨start + 59, 999999999⟩
      if t.endsMonth then some t else none
    else some ⟨start + second, nanos⟩
  else none

def ofUnixNanos (n : Int) : Timestamp :=
  let epoch : Date := ⟨1970, 1, 1⟩
  ⟨epoch.dayNumber * secondsPerDay + n / 1000000000, (n % 1000000000).toNat⟩

def yearText (y : Int) : String := (if y < 0 then "-" else "") ++ Text.padded 4 y.natAbs

def dateText (d : Date) : String :=
  yearText d.year ++ "-" ++ Text.padded 2 d.month ++ "-" ++ Text.padded 2 d.day

/-- The minute of an instant in UTC; an instant after the last year has no text. -/
def minuteText? (t : Timestamp) : Option String :=
  if t.date.year ≤ lastYear then
    let s := (t.seconds % secondsPerDay).toNat
    some (dateText t.date ++ " " ++ Text.padded 2 (s / 3600) ++ ":" ++
      Text.padded 2 (s / 60 % 60) ++ " UTC")
  else none

/-- What stands for a time in a line of text: a dash when there is none, the minute in UTC when it
is a timestamp, and else the text itself. A timestamp without a text has no display. -/
def display? : Option String → Option String
  | none => some "-"
  | some text =>
    match read? text with
    | some t => t.minuteText?
    | none => some text

def nanosSince (t now : Timestamp) : Int :=
  (t.seconds - now.seconds) * 1000000000 + (t.nanos - now.nanos)

theorem nanosSince_le {t a b : Timestamp} (h : 0 ≤ b.nanosSince a) :
    t.nanosSince b ≤ t.nanosSince a := by
  simp only [nanosSince] at *
  omega

end Timestamp

end RunWatch
