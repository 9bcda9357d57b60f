import RunWatch.Binary64.Basic
import RunWatch.Text.Digits
set_option autoImplicit false

namespace RunWatch.Binary64

def ofDecimal (negative : Bool) (significand : Nat) (exponent : Int) : Binary64 :=
  if significand = 0 then .finite negative 0
  else if 400 < exponent then .infinite negative
  else if exponent + ((toString significand).length : Int) < -400 then .finite negative 0
  else if 0 ≤ exponent then
    ofUnits negative (significand * Nat.pow 10 exponent.toNat * unitsPerOne) 1
  else ofUnits negative (significand * unitsPerOne) (Nat.pow 10 (-exponent).toNat)

def powerOfTen (n : Nat) : Binary64 := ofDecimal false 1 n

def takeSign : List Char → Bool × List Char
  | '-' :: cs => (true, cs)
  | '+' :: cs => (false, cs)
  | cs => (false, cs)

/-- The exponent after `e` or `E`; a text that does not begin with one has exponent zero. -/
def readExponent? : List Char → Option Int
  | [] => some 0
  | c :: cs =>
    if c = 'e' ∨ c = 'E' then
      let (negative, digits) := takeSign cs
      (Text.natOf? digits).map fun n => if negative then -(n : Int) else n
    else none

/-- An unsigned numeral: digits with an optional point, at least one digit, and an optional
exponent. -/
def readNumeral? (negative : Bool) (cs : List Char) : Option Binary64 :=
  let (whole, rest) := Text.takeDigits cs
  let (fraction, rest) : List Nat × List Char :=
    match rest with
    | '.' :: rest => Text.takeDigits rest
    | _ => ([], rest)
  if whole.isEmpty && fraction.isEmpty then none
  else (readExponent? rest).map fun e =>
    ofDecimal negative (Text.ofDigits (whole ++ fraction)) (e - fraction.length)

/-- Reads a signed numeral, an infinity or a NaN; the words are read in either case. -/
def read? (s : String) : Option Binary64 :=
  let (negative, body) := takeSign s.toList
  let word := String.ofList (body.map Char.toLower)
  if word = "inf" ∨ word = "infinity" then some (.infinite negative)
  else if word = "nan" then some .nan
  else readNumeral? negative body

end RunWatch.Binary64
