import RunWatch.Json.Basic
import RunWatch.Binary64.Shortest
import RunWatch.Text.Hex
set_option autoImplicit false

namespace RunWatch.Json

/-- Quotation marks, backslashes and control characters are escaped, and nothing else. -/
def escape (c : Char) : List Char :=
  if c = '"' then ['\\', '"']
  else if c = '\\' then ['\\', '\\']
  else if c = '\n' then ['\\', 'n']
  else if c = '\r' then ['\\', 'r']
  else if c = '\t' then ['\\', 't']
  else if c.toNat = 8 then ['\\', 'b']
  else if c.toNat = 12 then ['\\', 'f']
  else if c.toNat < 0x20 then
    ['\\', 'u', '0', '0', Text.hexDigit (c.toNat / 16), Text.hexDigit (c.toNat % 16)]
  else [c]

def quote (s : String) : String := "\"" ++ String.ofList (s.toList.flatMap escape) ++ "\""

def withPoint (digits : List Char) (n : Int) : List Char :=
  if n ≤ 0 then '0' :: '.' :: List.replicate (-n).toNat '0' ++ digits
  else if digits.length ≤ n.toNat then
    digits ++ List.replicate (n.toNat - digits.length) '0' ++ ['.', '0']
  else digits.take n.toNat ++ '.' :: digits.drop n.toNat

/-- A number between 10⁻⁵ and 10¹⁶ is written with a point and at least one digit after it, any
other with an exponent and its sign. -/
def layout (digits : List Char) (exponent : Int) : List Char :=
  let n := (digits.length : Int) + exponent
  if -5 < n ∧ n ≤ 16 then withPoint digits n
  else
    let mantissa :=
      match digits with
      | d :: [] => [d]
      | d :: ds => d :: '.' :: ds
      | [] => []
    let e := n - 1
    mantissa ++ 'e' :: (if e < 0 then '-' else '+') :: (toString e.natAbs).toList

def realText : Binary64 → String
  | .finite minus u =>
    let n := Binary64.shortest u
    let text := if u = 0 then "0.0"
      else String.ofList (layout (toString n.significand).toList n.exponent)
    if minus then "-" ++ text else text
  | _ => "null"

def scalarText : Json → String
  | .bool b => if b then "true" else "false"
  | .natural n => toString n.toNat
  | .negative k => "-" ++ toString (k + 1)
  | .real x => realText x
  | .string s => quote s
  | _ => "null"

mutual

def compact : Json → String
  | .array items => "[" ++ compactItems true items ++ "]"
  | .object entries => "\x7b" ++ compactEntries true entries ++ "\x7d"
  | v => scalarText v

def compactItems (first : Bool) : List Json → String
  | [] => ""
  | v :: rest => (if first then "" else ",") ++ v.compact ++ compactItems false rest

def compactEntries (first : Bool) : List (String × Json) → String
  | [] => ""
  | (k, v) :: rest =>
    (if first then "" else ",") ++ quote k ++ ":" ++ v.compact ++ compactEntries false rest

end

def newline (level : Nat) : String := "\n" ++ String.ofList (List.replicate (2 * level) ' ')

mutual

/-- Each item and entry on a line of its own, except that empty containers take none. -/
def prettyAt (level : Nat) : Json → String
  | .array [] => "[]"
  | .array (v :: rest) => "[" ++ prettyItems level true (v :: rest) ++ newline level ++ "]"
  | .object [] => "\x7b\x7d"
  | .object (e :: rest) =>
    "\x7b" ++ prettyEntries level true (e :: rest) ++ newline level ++ "\x7d"
  | v => scalarText v

def prettyItems (level : Nat) (first : Bool) : List Json → String
  | [] => ""
  | v :: rest =>
    (if first then "" else ",") ++ newline (level + 1) ++ prettyAt (level + 1) v ++
      prettyItems level false rest

def prettyEntries (level : Nat) (first : Bool) : List (String × Json) → String
  | [] => ""
  | (k, v) :: rest =>
    (if first then "" else ",") ++ newline (level + 1) ++ quote k ++ ": " ++
      prettyAt (level + 1) v ++ prettyEntries level false rest

end

def pretty (v : Json) : String := prettyAt 0 v

end RunWatch.Json
