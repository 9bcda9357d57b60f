import RunWatch.Json.Basic
import RunWatch.Binary64.Decimal
/-!
The numbers of JSON text. A numeral without fraction and exponent is a whole number when it fits
into 64 bits. Any other numeral is read in two roundings: its first digits, as many as fit into 64
bits, become a binary64 number, which is then multiplied or divided by a power of ten. So a long
numeral need not be read as the nearest binary64 number.
-/
set_option autoImplicit false

namespace RunWatch.Json

structure Literal where
  negative : Bool
  whole : List Nat
  fraction : Option (List Nat)
  exponent : Option (Bool × List Nat)
  deriving DecidableEq, Repr

def someDigits? (cs : List Char) : Option (List Nat × List Char) :=
  match Text.takeDigits cs with
  | ([], _) => none
  | split => some split

def Literal.readExponent? : List Char → Option (Option (Bool × List Nat))
  | [] => some none
  | c :: cs =>
    if c = 'e' ∨ c = 'E' then
      let (down, rest) := Binary64.takeSign cs
      match someDigits? rest with
      | some (ds, []) => some (some (down, ds))
      | _ => none
    else none

/-- Reads a numeral: no digit may follow a leading zero, and a point and an exponent each need a
digit after them. -/
def Literal.read? (cs : List Char) : Option Literal := do
  let (minus, body) : Bool × List Char :=
    match cs with
    | '-' :: body => (true, body)
    | _ => (false, cs)
  let (whole, rest) ← someDigits? body
  if whole.head? = some 0 ∧ whole.length ≠ 1 then none
  let (fraction, rest) ←
    match rest with
    | '.' :: rest => (someDigits? rest).map fun p => (some p.1, p.2)
    | _ => some (none, rest)
  let exponent ← Literal.readExponent? rest
  some ⟨minus, whole, fraction, exponent⟩

/-- Appends digits to `n` as long as the number stays below 2⁶⁴; the digits left over follow. -/
def fill (n : Nat) : List Nat → Nat × List Nat
  | [] => (n, [])
  | d :: ds => if 10 * n + d < UInt64.size then fill (10 * n + d) ds else (n, d :: ds)

/-- Divides by powers of ten of at most 308 until the exponent is used up or nothing is left. -/
def scaleDown (f : Binary64) (e : Nat) : Binary64 :=
  if e ≤ 308 then f.div (Binary64.powerOfTen e)
  else if f.isZero then f
  else scaleDown (f.div (Binary64.powerOfTen 308)) (e - 308)
termination_by e
decreasing_by omega

def scale? (significand : Nat) (exponent : Int) : Option Binary64 :=
  let f := Binary64.ofNat significand
  if exponent < 0 then some (scaleDown f (-exponent).toNat)
  else if exponent ≤ 308 then
    let g := f.mul (Binary64.powerOfTen exponent.toNat)
    if g.isFinite then some g else none
  else if f.isZero then some f
  else none

def exponentLimit : Nat := 2147483647

/-- A numeral with a fraction or an exponent, or one too long for 64 bits; `none` when it is out
of range. -/
def Literal.real? (l : Literal) : Option Binary64 :=
  let (n, left) := fill 0 l.whole
  let (n, shift) : Nat × Int :=
    match l.fraction with
    | none => (n, left.length)
    | some ds =>
      let (m, unread) := fill n ds
      (m, (left.length : Int) - (ds.length - unread.length : Nat))
  match l.exponent with
  | none => scale? n shift
  | some (down, ds) =>
    let e := Text.ofDigits ds
    if exponentLimit < e then
      if n ≠ 0 ∧ !down then none else some Binary64.zero
    else scale? n (if down then shift - e else shift + e)

/-- The value of a numeral. Zero with a minus sign is a binary64 number, as is a whole number that
64 bits do not hold. -/
def Literal.value? (l : Literal) : Option Json :=
  let real := l.real?.map fun x => Json.real (if l.negative then x.neg else x)
  match l.fraction, l.exponent, fill 0 l.whole with
  | none, none, (n, []) =>
    if l.negative then
      if 0 < n ∧ n ≤ UInt64.size / 2 then some (.negative (n - 1)) else real
    else some (.natural n.toUInt64)
  | _, _, _ => real

def toBinary64? : Json → Option Binary64
  | .natural n => some (Binary64.ofNat n.toNat)
  | .negative k => some (Binary64.ofInt (-(k + 1 : Int)))
  | .real x => some x
  | _ => none

end RunWatch.Json
