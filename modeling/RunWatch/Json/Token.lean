import RunWatch.Json.Number
import RunWatch.Text.Hex
/-!
The tokens of JSON text. The lexer is an automaton over characters: it takes one character at a
time, so that it ends with the text and every token comes from its own stretch of it.
-/
set_option autoImplicit false

namespace RunWatch.Json

inductive Token where
  | openArray
  | closeArray
  | openObject
  | closeObject
  | comma
  | colon
  /-- A word or a number; a number that is out of range has no value. -/
  | scalar (value : Option Json)
  /-- A string; one that holds half of a surrogate pair has no value. -/
  | text (value : Option String)

/-- A string under way: its characters, the last one first; a leading half of a surrogate pair
that waits for the other one; and whether the escapes so far made characters. -/
structure Quote where
  chars : List Char
  high : Option Nat
  sound : Bool

namespace Quote

def start : Quote := ⟨[], none, true⟩

/-- A character that is no escape of a trailing half ends the wait for one. -/
def push (q : Quote) (c : Char) : Quote := ⟨c :: q.chars, none, q.sound && q.high.isNone⟩

def pushUnit (q : Quote) (u : Nat) : Quote :=
  if 0xDC00 ≤ u ∧ u ≤ 0xDFFF then
    match q.high with
    | some h =>
      ⟨Char.ofNat (0x10000 + (h - 0xD800) * 0x400 + (u - 0xDC00)) :: q.chars, none, q.sound⟩
    | none => { q with sound := false }
  else if 0xD800 ≤ u ∧ u ≤ 0xDBFF then ⟨q.chars, some u, q.sound && q.high.isNone⟩
  else q.push (Char.ofNat u)

def value? (q : Quote) : Option String :=
  if q.sound && q.high.isNone then some (String.ofList q.chars.reverse) else none

end Quote

inductive Place where
  | between
  | word (letters : List Char)
  | numeral (chars : List Char)
  | quote (q : Quote)
  | escape (q : Quote)
  | hex (q : Quote) (digits value : Nat)

def isSpace (c : Char) : Bool := c == ' ' || c == '\n' || c == '\t' || c == '\r'

def isNumeralChar (c : Char) : Bool :=
  Text.isDigit c || c == '-' || c == '+' || c == '.' || c == 'e' || c == 'E'

def isLetter (c : Char) : Bool := 'a' ≤ c && c ≤ 'z'

def punctuation? (c : Char) : Option Token :=
  if c = '[' then some .openArray
  else if c = ']' then some .closeArray
  else if c = '\x7b' then some .openObject
  else if c = '\x7d' then some .closeObject
  else if c = ',' then some .comma
  else if c = ':' then some .colon
  else none

def word? (letters : List Char) : Option Token :=
  if letters = "null".toList then some (.scalar (some .null))
  else if letters = "true".toList then some (.scalar (some (.bool true)))
  else if letters = "false".toList then some (.scalar (some (.bool false)))
  else none

def escaped? (c : Char) : Option Char :=
  if c = '"' ∨ c = '\\' ∨ c = '/' then some c
  else if c = 'b' then some (Char.ofNat 8)
  else if c = 'f' then some (Char.ofNat 12)
  else if c = 'n' then some '\n'
  else if c = 'r' then some '\r'
  else if c = 't' then some '\t'
  else none

structure Lexer where
  tokens : List Token
  place : Place

namespace Lexer

def start : Lexer := ⟨[], .between⟩

def settle? (l : Lexer) : Option Lexer :=
  match l.place with
  | .between => some l
  | .word letters => (word? letters.reverse).map fun t => ⟨t :: l.tokens, .between⟩
  | .numeral chars =>
    (Literal.read? chars.reverse).map fun n => ⟨.scalar n.value? :: l.tokens, .between⟩
  | _ => none

/-- A character outside strings that continues neither a word nor a numeral. -/
def begin? (tokens : List Token) (c : Char) : Option Lexer :=
  if isSpace c then some ⟨tokens, .between⟩
  else if c = '"' then some ⟨tokens, .quote .start⟩
  else if isLetter c then some ⟨tokens, .word [c]⟩
  else if isNumeralChar c then some ⟨tokens, .numeral [c]⟩
  else (punctuation? c).map fun t => ⟨t :: tokens, .between⟩

def step? (l : Lexer) (c : Char) : Option Lexer :=
  match l.place with
  | .quote q =>
    if c = '"' then some ⟨.text q.value? :: l.tokens, .between⟩
    else if c = '\\' then some ⟨l.tokens, .escape q⟩
    else if c.toNat < 0x20 then none
    else some ⟨l.tokens, .quote (q.push c)⟩
  | .escape q =>
    if c = 'u' then some ⟨l.tokens, .hex q 0 0⟩
    else (escaped? c).map fun d => ⟨l.tokens, .quote (q.push d)⟩
  | .hex q digits value =>
    (Text.hexDigit? c).map fun d =>
      let value := 16 * value + d
      if digits = 3 then ⟨l.tokens, .quote (q.pushUnit value)⟩
      else ⟨l.tokens, .hex q (digits + 1) value⟩
  | .word letters =>
    if isLetter c then some ⟨l.tokens, .word (c :: letters)⟩
    else l.settle?.bind fun l => begin? l.tokens c
  | .numeral chars =>
    if isNumeralChar c then some ⟨l.tokens, .numeral (c :: chars)⟩
    else l.settle?.bind fun l => begin? l.tokens c
  | .between => begin? l.tokens c

end Lexer

def tokens? (text : List Char) : Option (List Token) :=
  (text.foldlM Lexer.step? Lexer.start).bind fun l => l.settle?.map (·.tokens.reverse)

def furthest {σ α : Type} (step? : σ → α → Option σ) (s : σ) : List α → σ
  | [] => s
  | a :: rest =>
    match step? s a with
    | some t => furthest step? t rest
    | none => s

/-- The tokens that are complete in front of the first character that fits none. -/
def tokensSoFar (text : List Char) : List Token :=
  (furthest Lexer.step? Lexer.start text).tokens.reverse

end RunWatch.Json
