set_option autoImplicit false

namespace RunWatch.Url.Punycode

/-- The digits 0 to 25 are letters and 26 to 35 are figures. -/
def digit (d : Nat) : Char :=
  if d < 26 then Char.ofNat ('a'.toNat + d) else Char.ofNat ('0'.toNat + (d - 26))

/-- Below the threshold of its place a digit is the last one. -/
def threshold (place bias : Nat) : Nat :=
  if place ≤ bias then 1 else if bias + 26 ≤ place then 26 else place - bias

theorem threshold_bounds (place bias : Nat) :
    1 ≤ threshold place bias ∧ threshold place bias ≤ 26 := by
  unfold threshold
  split
  · omega
  · split <;> omega

def scale (delta place : Nat) : Nat × Nat :=
  if 455 < delta then scale (delta / 35) (place + 36) else (delta, place)
termination_by delta
decreasing_by omega

def adapt (delta count : Nat) (first : Bool) : Nat :=
  let d := if first then delta / 700 else delta / 2
  let (d, place) := scale (d + d / count) 0
  place + 36 * d / (d + 38)

def writeDelta (bias place n : Nat) : List Char :=
  let t := threshold place bias
  if n < t then [digit n]
  else digit (t + (n - t) % (36 - t)) :: writeDelta bias (place + 36) ((n - t) / (36 - t))
termination_by n
decreasing_by
  have := threshold_bounds place bias
  exact Nat.lt_of_le_of_lt (Nat.div_le_self _ _) (by omega)

structure Writer where
  out : List Char := []
  delta : Nat := 0
  bias : Nat := 72
  placed : Nat

/-- Passes one character of the label while the character `m` is put in place. -/
def Writer.pass (basic m : Nat) (w : Writer) (c : Char) : Writer :=
  if c.toNat < m then { w with delta := w.delta + 1 }
  else if c.toNat = m then
    { out := w.out ++ writeDelta w.bias 36 w.delta
      delta := 0
      bias := adapt w.delta (w.placed + 1) (w.placed = basic)
      placed := w.placed + 1 }
  else w

def Writer.run (label : List Char) (basic : Nat) : List Nat → Nat → Writer → Writer
  | [], _, w => w
  | m :: rest, n, w =>
    let w := { w with delta := w.delta + (m - n) * (w.placed + 1) }
    let w := label.foldl (Writer.pass basic m) w
    Writer.run label basic rest (m + 1) { w with delta := w.delta + 1 }

def insert (n : Nat) : List Nat → List Nat
  | [] => [n]
  | m :: rest => if n < m then n :: m :: rest else if n = m then m :: rest else m :: insert n rest

def encode (label : List Char) : List Char :=
  let basic := label.filter (·.toNat < 128)
  let others := ((label.filter (128 ≤ ·.toNat)).map Char.toNat).foldl (fun ns n => insert n ns) []
  let w := Writer.run label basic.length others 128 { placed := basic.length }
  basic ++ (if basic.isEmpty then [] else ['-']) ++ w.out

def digit? (c : Char) : Option Nat :=
  if 'a' ≤ c ∧ c ≤ 'z' then some (c.toNat - 'a'.toNat)
  else if '0' ≤ c ∧ c ≤ '9' then some (c.toNat - '0'.toNat + 26)
  else none

theorem digit?_digit {d : Nat} (h : d < 36) : digit? (digit d) = some d := by
  have all : ∀ i : Fin 36, digit? (digit i) = some i.val := by decide
  exact all ⟨d, h⟩

structure Reader where
  chars : List Char
  codePoint : Nat := 128
  bias : Nat := 72
  start : Nat := 0
  sum : Nat := 0
  weight : Nat := 1
  place : Nat := 36

def bounded? (n : Nat) : Option Nat := if n < 0x100000000 then some n else none

namespace Reader

def put? (r : Reader) : Option Reader :=
  let count := r.chars.length + 1
  let codePoint := r.codePoint + r.sum / count
  let i := r.sum % count
  if codePoint.isValidChar then
    some { chars := r.chars.insertIdx i (Char.ofNat codePoint), codePoint
           bias := adapt (r.sum - r.start) count (r.start = 0), start := i + 1, sum := i + 1 }
  else none

def step? (r : Reader) (c : Char) : Option Reader := do
  let d ← digit? c
  let product ← bounded? (d * r.weight)
  let sum ← bounded? (r.sum + product)
  let t := threshold r.place r.bias
  if d < t then put? { r with sum }
  else
    let weight ← bounded? (r.weight * (36 - t))
    some { r with sum, weight, place := r.place + 36 }

def label? (r : Reader) : Option (List Char) := if r.place = 36 then some r.chars else none

end Reader

/-- The label that a text of ASCII stands for. What is before its last hyphen stands for itself,
unless the text begins with that hyphen. -/
def decode? (code : List Char) : Option (List Char) := do
  let digits := (code.reverse.takeWhile (· ≠ '-')).reverse
  let basic := (code.take (code.length - digits.length)).dropLast
  let digits := if basic.isEmpty then code else digits
  let r ← digits.foldlM Reader.step? { chars := basic }
  r.label?

end RunWatch.Url.Punycode
