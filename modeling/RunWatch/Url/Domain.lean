import RunWatch.Text.Mark
import RunWatch.Text.Normal
import RunWatch.Url.Domain.Direction
import RunWatch.Url.Domain.Joiner
import RunWatch.Url.Domain.Mapping
import RunWatch.Url.Punycode
/-!
Domain names in ASCII. A name is mapped character by character and composed, and each of its labels
is judged in the characters that it stands for; a label beyond ASCII is then written in Punycode
behind the mark `xn--`. A label that comes with the mark stands for what its Punycode says.
-/
set_option autoImplicit false

namespace RunWatch.Url.Domain
open Text

structure Label where
  text : List Char
  written : List Char
  deriving DecidableEq, Repr

def isAscii (cs : List Char) : Bool := cs.all (·.toNat < 128)

def mark : List Char := ['x', 'n', '-', '-']

/-- The longest label, in characters beyond ASCII and in Punycode. -/
def longestText : Nat := 1000
def longestPunycode : Nat := 2000

def isSettled (text : List Char) : Bool := text.all isKept && Normal.compose text == text

def decode? (code : List Char) : Option (List Char) :=
  if code.isEmpty ∨ !isAscii code ∨ code.getLast? = some '-' ∨ longestPunycode < code.length then
    none
  else (Punycode.decode? code).filter fun text => text.length ≤ longestText ∧ isSettled text

/-- A label does not begin with a mark, and its joiners are where they may be. -/
def isSound (text : List Char) : Bool := !text.head?.any isMark && joinersFit [] text

def label? (cs : List Char) : Option Label :=
  let label : Option Label :=
    if mark.isPrefixOf cs then (decode? (cs.drop mark.length)).map fun text => ⟨text, cs⟩
    else if isAscii cs then some ⟨cs, cs⟩
    else if longestText < cs.length then none
    else some ⟨cs, mark ++ Punycode.encode cs⟩
  label.filter fun l => isSound l.text

def toAscii? (name : List Char) : Option (List Char) := do
  let mapped ← name.mapM mapChar?
  let labels ← (splitOn (· == '.') (Normal.compose mapped.flatten)).mapM label?
  if isOrdered (labels.map (·.text)) then some (['.'].intercalate (labels.map (·.written)))
  else none

end RunWatch.Url.Domain
