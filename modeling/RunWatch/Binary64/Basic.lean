/-!
Binary64 numbers held exactly. Every finite binary64 number is a whole number of units of 2⁻¹⁰⁷⁴,
the least positive one, so a finite number is a sign and a count of units, and order, truncation
and the exact part of every operation are operations on natural numbers. Rounding to nearest, ties
to even, is the one function `roundUnits`.

Nothing here claims that a given count of units is representable: the operations that build
numbers round, and only they are used to build them.
-/
set_option autoImplicit false

namespace RunWatch

inductive Binary64 where
  | nan
  | infinite (negative : Bool)
  | finite (negative : Bool) (units : Nat)
  deriving DecidableEq, Repr

namespace Binary64

def unitsPerOne : Nat := 1 <<< 1074

def unitsLimit : Nat := 1 <<< 2098

def zero : Binary64 := .finite false 0

def isFinite : Binary64 → Bool
  | .finite _ _ => true
  | _ => false

def isZero : Binary64 → Bool
  | .finite _ u => u == 0
  | _ => false

def neg : Binary64 → Binary64
  | .nan => .nan
  | .infinite s => .infinite (!s)
  | .finite s u => .finite (!s) u

/-- The whole number nearest to `num / den`, and the even one of two equally near. -/
def roundEven (num den : Nat) : Nat :=
  let q := num / den
  let r := num % den
  if 2 * r < den || (2 * r == den && q % 2 == 0) then q else q + 1

theorem roundEven_mul {den : Nat} (h : 0 < den) (k : Nat) : roundEven (k * den) den = k := by
  simp [roundEven, Nat.mul_div_cancel _ h, h]

/-- The spacing of binary64 numbers, in units, at a number of `u` units: 53 digits are kept. -/
def spacing (u : Nat) : Nat := 1 <<< (u.log2 - 52)

theorem spacing_pos (u : Nat) : 0 < spacing u := by
  simp only [spacing, Nat.one_shiftLeft]
  exact Nat.two_pow_pos _

theorem spacing_of_lt {u : Nat} (h : u < 1 <<< 53) : spacing u = 1 := by
  have : u.log2 - 52 = 0 := by
    by_cases hu : u = 0
    · subst hu; rfl
    · have := (Nat.log2_lt hu).2 (Nat.one_shiftLeft 53 ▸ h)
      omega
  simp [spacing, this]

/-- The count of units of the binary64 number nearest to `num / den` units. -/
def roundUnits (num den : Nat) : Nat :=
  let s := spacing (num / den)
  roundEven num (den * s) * s

def ofUnits (negative : Bool) (num den : Nat) : Binary64 :=
  let u := roundUnits num den
  if u < unitsLimit then .finite negative u else .infinite negative

/-- Whole numbers below 2⁵³ are binary64 numbers. -/
def ofNat (n : Nat) : Binary64 := ofUnits false (n * unitsPerOne) 1

def ofInt (n : Int) : Binary64 := ofUnits (n < 0) (n.natAbs * unitsPerOne) 1

def mul : Binary64 → Binary64 → Binary64
  | .finite s u, .finite t v => ofUnits (s != t) (u * v) unitsPerOne
  | .infinite s, .infinite t => .infinite (s != t)
  | .infinite s, .finite t v | .finite t v, .infinite s =>
    if v = 0 then .nan else .infinite (s != t)
  | _, _ => .nan

def div : Binary64 → Binary64 → Binary64
  | .finite s u, .finite t v =>
    if v = 0 then (if u = 0 then .nan else .infinite (s != t))
    else ofUnits (s != t) (u * unitsPerOne) v
  | .infinite s, .finite t _ => .infinite (s != t)
  | .finite s _, .infinite t => .finite (s != t) 0
  | _, _ => .nan

def signedUnits (negative : Bool) (units : Nat) : Int := if negative then -units else units

def add : Binary64 → Binary64 → Binary64
  | .finite s u, .finite t v =>
    let sum := signedUnits s u + signedUnits t v
    if sum = 0 then .finite (s && t) 0 else ofUnits (sum < 0) sum.natAbs 1
  | .infinite s, .infinite t => if s = t then .infinite s else .nan
  | .infinite s, .finite _ _ | .finite _ _, .infinite s => .infinite s
  | _, _ => .nan

def atLeastZero : Binary64 → Binary64
  | .nan => zero
  | .infinite true => zero
  | .infinite false => .infinite false
  | .finite true _ => zero
  | .finite false u => .finite false u

/-- The whole part of a positive number, kept below `limit`; nothing below zero counts. -/
def toNatBelow (limit : Nat) : Binary64 → Nat
  | .nan => 0
  | .infinite s => if s then 0 else limit - 1
  | .finite s u => if s then 0 else min (u / unitsPerOne) (limit - 1)

theorem toNatBelow_lt {limit : Nat} (h : 0 < limit) (x : Binary64) :
    toNatBelow limit x < limit := by
  cases x with
  | nan => simpa [toNatBelow]
  | infinite s => cases s <;> simp [toNatBelow] <;> omega
  | finite s u => cases s <;> simp [toNatBelow] <;> omega

theorem roundUnits_one_of_lt {n : Nat} (h : n < 1 <<< 53) : roundUnits n 1 = n := by
  simp [roundUnits, roundEven, spacing_of_lt h, Nat.mod_one]

end Binary64

end RunWatch
