import RunWatch.Span
/-!
Timers under a clock. An instant is the number of nanoseconds since the clock started, and waits end
at whole milliseconds. A ticker falls due again and again while it is armed, a deadline once for
each time that it is set. Both are values: waiting for one reads its due time, and only a wait that
fires changes it, so a wait that is given up leaves no trace.
-/
set_option autoImplicit false

namespace RunWatch

namespace Instant

def nanosPerMilli : Nat := 1000000

def ofMillis (n : Nat) : Nat := n * nanosPerMilli

def millis (t : Nat) : Nat := t / nanosPerMilli

def ceilMillis (t : Nat) : Nat := ofMillis ((t + (nanosPerMilli - 1)) / nanosPerMilli)

@[simp] theorem ceilMillis_ofMillis (n : Nat) : ceilMillis (ofMillis n) = ofMillis n := by
  simp only [ceilMillis, ofMillis, nanosPerMilli]
  omega

/-- The clock counts its seconds in a signed word of 64 bits and holds no instant beyond. -/
def isCounted (t : Nat) : Bool := t / Span.nanosPerSecond < UInt64.size / 2

/-- When a wait that begins at `now` ends by a timer that is due, if that is no later than `limit`.
A timer that is overdue ends the wait at once. -/
def firing? (due : Option Nat) (now limit : Nat) : Option Nat :=
  (due.map fun d => max now (ceilMillis d)).filter (· ≤ limit)

end Instant

structure Ticker where
  interval : Span
  due : Option Nat := none
  deriving DecidableEq, Repr

namespace Ticker

def isArmed (t : Ticker) : Bool := t.due.isSome

/-- Arms the first tick one interval from now; a ticker that is armed keeps its cadence. -/
def arm (t : Ticker) (now : Nat) : Ticker :=
  if t.isArmed then t else { t with due := some (now + t.interval.nanos) }

def disarm (t : Ticker) : Ticker := { t with due := none }

def isDue (t : Ticker) (now : Nat) : Bool := t.due.any (· ≤ now)

/-- Takes a tick that is due and puts the next one an interval after it was taken. -/
def fire (t : Ticker) (now : Nat) : Ticker := { t with due := some (now + t.interval.nanos) }

def wait (t : Ticker) (now limit : Nat) : Ticker × Option Nat :=
  match Instant.firing? t.due now limit with
  | some fired => (t.fire fired, some fired)
  | none => (t, none)

@[simp] theorem isArmed_arm (t : Ticker) (now : Nat) : (t.arm now).isArmed := by
  unfold arm
  split
  · assumption
  · rfl

@[simp] theorem isArmed_disarm (t : Ticker) : t.disarm.isArmed = false := rfl

end Ticker

structure Deadline where
  due : Option Nat := none
  deriving DecidableEq, Repr

namespace Deadline

def set (_ : Deadline) (now : Nat) (after : Span) : Deadline := ⟨some (now + after.nanos)⟩

def clear (_ : Deadline) : Deadline := ⟨none⟩

def isDue (d : Deadline) (now : Nat) : Bool := d.due.any (· ≤ now)

def wait (d : Deadline) (now limit : Nat) : Deadline × Option Nat :=
  match Instant.firing? d.due now limit with
  | some fired => (d.clear, some fired)
  | none => (d, none)

end Deadline

end RunWatch
