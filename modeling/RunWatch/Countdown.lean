import RunWatch.Binary64.Basic
set_option autoImplicit false

namespace RunWatch.Countdown

/-- The whole seconds that a countdown shows; an infinite time shows none. -/
def wholeSeconds (seconds : Binary64) : Nat :=
  if seconds.isFinite then seconds.toNatBelow UInt64.size else 0

def textOfSeconds (n : Nat) : String :=
  if 3600 ≤ n then toString (n / 3600) ++ "h " ++ toString (n % 3600 / 60) ++ "m"
  else if 60 ≤ n then toString (n / 60) ++ "m " ++ toString (n % 60) ++ "s"
  else toString n ++ "s"

def text (seconds : Binary64) : String := textOfSeconds (wholeSeconds seconds)

end RunWatch.Countdown
