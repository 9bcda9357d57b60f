import RunWatch.Binary64.Basic
import RunWatch.Text.Digits
/-!
The shortest decimal numeral of a finite binary64 number: of all numerals that round to the number
those with the fewest digits, and of these the nearest. A number of `u` units is searched on the
decimal grids of 1, 2, … 17 digits; the first grid with a point that rounds back is the answer.

How such a numeral is written down, with or without an exponent, is the choice of each format.
-/
set_option autoImplicit false

namespace RunWatch.Binary64

structure Numeral where
  significand : Nat
  exponent : Int
  deriving DecidableEq, Repr

/-- The least `j` at or after `from` with `unitsPerOne ≤ u · 10^j`. -/
def leadingShift (u : Nat) : (fuel start : Nat) → Nat
  | 0, start => start
  | fuel + 1, start =>
    if unitsPerOne ≤ u * Nat.pow 10 start then start else leadingShift u fuel (start + 1)

def leadingExponent (u : Nat) : Int :=
  if unitsPerOne ≤ u then ((toString (u / unitsPerOne)).length : Int) - 1
  else -(leadingShift u 400 0 : Int)

/-- Whether the grid point `c · 10^p` rounds to the number of `u` units. The reach of a number is
half the way to each neighbour, the ends included when its last binary digit is even; below a
power of two the neighbour is half as far. -/
def roundsTo (u c : Nat) (p : Int) : Bool :=
  let s := spacing u
  let even := (u / s) % 2 == 0
  let below := if s ≠ 1 ∧ u = 1 <<< u.log2 then s else 2 * s
  let den := if p < 0 then Nat.pow 10 (-p).toNat else 1
  let point := 4 * (if p < 0 then c * unitsPerOne else c * Nat.pow 10 p.toNat * unitsPerOne)
  let low := 4 * u * den - below * den
  let high := 4 * u * den + 2 * s * den
  if even then low ≤ point && point ≤ high else low < point && point < high

def nearestOn (u : Nat) (p : Int) : Option Nat :=
  let num := if p < 0 then u * Nat.pow 10 (-p).toNat else u
  let den := if p < 0 then unitsPerOne else unitsPerOne * Nat.pow 10 p.toNat
  let q := num / den
  let nearest := roundEven num den
  let other := if nearest = q then q + 1 else q
  if roundsTo u nearest p then some nearest
  else if roundsTo u other p then some other
  else none

def Numeral.stripZeros : Nat → Numeral → Numeral
  | 0, n => n
  | fuel + 1, n =>
    if n.significand % 10 = 0 ∧ n.significand ≠ 0 then
      stripZeros fuel ⟨n.significand / 10, n.exponent + 1⟩
    else n

def searchGrids (u : Nat) (lead : Int) : (fuel digits : Nat) → Numeral
  | 0, _ => ⟨0, 0⟩
  | fuel + 1, digits =>
    let p := lead - digits + 1
    match nearestOn u p with
    | some c => Numeral.stripZeros 20 ⟨c, p⟩
    | none => searchGrids u lead fuel (digits + 1)

/-- The shortest numeral of a number of `u` units. -/
def shortest (u : Nat) : Numeral :=
  if u = 0 then ⟨0, 0⟩ else searchGrids u (leadingExponent u) 17 1

end RunWatch.Binary64
