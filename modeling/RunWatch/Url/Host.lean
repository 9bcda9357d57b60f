import RunWatch.Text.Digits
import RunWatch.Text.Parts
import RunWatch.Url.Domain
import RunWatch.Url.Percent
set_option autoImplicit false

namespace RunWatch.Url

inductive Host where
  | name (text : String)
  | ipv4 (bits : Nat)
  | ipv6 (pieces : List Nat)
  deriving DecidableEq, Repr

namespace Host

/-- A number in the notation of a programmer: `0x` for hexadecimal and `0` for octal. -/
def ipv4Number? : List Char → Option Nat
  | [] => none
  | '0' :: 'x' :: cs | '0' :: 'X' :: cs => Text.numberIn? 16 cs
  | '0' :: c :: cs => Text.numberIn? 8 (c :: cs)
  | cs => Text.numberIn? 10 cs

def labels (name : List Char) : List (List Char) :=
  let parts := Text.splitOn (· == '.') name
  if parts.getLast? = some [] then parts.dropLast else parts

def endsInNumber (name : List Char) : Bool :=
  match (labels name).getLast? with
  | some l => (!l.isEmpty && l.all Text.isDigit) || (ipv4Number? l).isSome
  | none => false

/-- Up to four numbers; the last one fills what remains of 32 bits. -/
def readIpv4? (name : List Char) : Option Nat := do
  let numbers ← (labels name).mapM ipv4Number?
  let last ← numbers.getLast?
  let front := numbers.dropLast
  if numbers.length ≤ 4 ∧ front.all (· < 256) ∧ last < 1 <<< (8 * (4 - front.length)) then
    some (front.foldr (fun n (acc : Nat × Nat) => (acc.1 + n * acc.2, acc.2 * 256))
      (last, 1 <<< (8 * (4 - front.length)))).1
  else none

def decimalByte? (cs : List Char) : Option Nat :=
  match cs with
  | '0' :: _ :: _ => none
  | _ => (Text.natOf? cs).filter (· < 256)

/-- A group of an address of version 6: a piece, or at the end four bytes as two pieces. -/
def group? (cs : List Char) : Option (List Nat) :=
  if cs.contains '.' then
    match (Text.splitOn (· == '.') cs).mapM decimalByte? with
    | some [a, b, c, d] => some [256 * a + b, 256 * c + d]
    | _ => none
  else if cs.isEmpty ∨ 4 < cs.length then none
  else (Text.numberIn? 16 cs).map fun n => [n]

def groups? (cs : List Char) : Option (List Nat) :=
  if cs.isEmpty then some []
  else
    let parts := Text.splitOn (· == ':') cs
    if parts.dropLast.any (·.contains '.') then none else (parts.mapM group?).map List.flatten

def splitDouble (front : List Char) : List Char → List Char × Option (List Char)
  | ':' :: ':' :: cs => (front.reverse, some cs)
  | c :: cs => splitDouble (c :: front) cs
  | [] => (front.reverse, none)

def readIpv6? (cs : List Char) : Option (List Nat) :=
  match splitDouble [] cs with
  | (all, none) => (groups? all).filter (·.length = 8)
  | (front, some back) =>
    if front.contains '.' then none
    else
      match groups? front, groups? back with
      | some f, some b =>
        if f.length + b.length ≤ 7 then
          some (f ++ List.replicate (8 - f.length - b.length) 0 ++ b)
        else none
      | _, _ => none

def isForbidden (c : Char) : Bool :=
  c.toNat ≤ 0x20 || c.toNat = 0x7F ||
    ['#', '%', '/', ':', '<', '>', '?', '@', '[', '\\', ']', '^', '|'].contains c

def read? (cs : List Char) : Option Host :=
  match cs with
  | '[' :: rest =>
    if rest.getLast? = some ']' then (readIpv6? rest.dropLast).map Host.ipv6 else none
  | _ => do
    let text ← Percent.decodeText? cs
    let name ← Domain.toAscii? text
    if name.isEmpty ∨ name.any isForbidden then none
    else if endsInNumber name then (readIpv4? name).map Host.ipv4
    else some (.name (String.ofList name))

def readOpaque? (cs : List Char) : Option Host :=
  match cs with
  | '[' :: rest =>
    if rest.getLast? = some ']' then (readIpv6? rest.dropLast).map Host.ipv6 else none
  | _ =>
    if cs.any fun c => c ≠ '%' && isForbidden c && (c.toNat = 0 || ' ' ≤ c) && c.toNat ≠ 0x7F then
      none
    else some (.name (String.ofList (Percent.encode Percent.control cs)))

def zeros (pieces : List Nat) : Nat := (pieces.takeWhile (· = 0)).length

/-- Where the longest run of zeros begins, and how long it is; of several the first. -/
def longestZeros (i : Nat) : List Nat → Nat × Nat
  | [] => (i, 0)
  | p :: rest =>
    let here := zeros (p :: rest)
    let later := longestZeros (i + 1) rest
    if later.2 ≤ here then (i, here) else later

def pieceText (pieces : List Nat) : List Char := [':'].intercalate (pieces.map Text.hexText)

def ipv6Text (pieces : List Nat) : String :=
  let (i, n) := longestZeros 0 pieces
  String.ofList (if n < 2 then pieceText pieces
    else pieceText (pieces.take i) ++ [':', ':'] ++ pieceText (pieces.drop (i + n)))

def text : Host → String
  | .name t => t
  | .ipv4 n => ".".intercalate
      [toString (n / 16777216 % 256), toString (n / 65536 % 256), toString (n / 256 % 256),
        toString (n % 256)]
  | .ipv6 pieces => "[" ++ ipv6Text pieces ++ "]"

end Host

end RunWatch.Url
