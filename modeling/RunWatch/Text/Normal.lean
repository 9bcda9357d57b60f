import RunWatch.Text.CombiningClass
import RunWatch.Text.Composite
set_option autoImplicit false

namespace RunWatch.Text.Normal

/-- The syllables of Hangul are made of a leading consonant, a vowel and at most one trailing
consonant. -/
def leading : Nat := 0x1100
def vowels : Nat := 0x1161
def trailing : Nat := 0x11A7
def syllables : Nat := 0xAC00

def leadingCount : Nat := 19
def vowelCount : Nat := 21
def trailingCount : Nat := 28
def syllableCount : Nat := leadingCount * vowelCount * trailingCount

def halves? (c : Char) : Option (Char × Char) :=
  let n := c.toNat
  if syllables ≤ n ∧ n < syllables + syllableCount then
    let i := n - syllables
    if i % trailingCount = 0 then
      some (Char.ofNat (leading + i / trailingCount / vowelCount),
        Char.ofNat (vowels + i / trailingCount % vowelCount))
    else some (Char.ofNat (n - i % trailingCount), Char.ofNat (trailing + i % trailingCount))
  else (Composite.byWhole.value? c).map fun h => (Char.ofNat h.1, Char.ofNat h.2)

def join? (a b : Char) : Option Char :=
  let m := a.toNat
  let n := b.toNat
  if leading ≤ m ∧ m < leading + leadingCount ∧ vowels ≤ n ∧ n < vowels + vowelCount then
    some (Char.ofNat (syllables + ((m - leading) * vowelCount + (n - vowels)) * trailingCount))
  else if syllables ≤ m ∧ m < syllables + syllableCount ∧ (m - syllables) % trailingCount = 0 ∧
      trailing < n ∧ n < trailing + trailingCount then
    some (Char.ofNat (m + (n - trailing)))
  else (Composite.byHalves.row? (Composite.key m n)).map fun r => Char.ofNat r.value

/-- The parts of a character, to a depth; no character is made in more than three steps. -/
def decompose (depth : Nat) (c : Char) : List Char :=
  match depth, halves? c with
  | depth + 1, some (a, b) => decompose depth a ++ [b]
  | _, _ => [c]

/-- Puts a character behind a text, which is given with its last character first: a mark moves in
front of the marks of higher classes. -/
def place (c : Char) : List Char → List Char
  | [] => [c]
  | d :: rest =>
    if 0 < combiningClass c ∧ combiningClass c < combiningClass d then d :: place c rest
    else c :: d :: rest

def order (cs : List Char) : List Char := (cs.foldl (fun done c => place c done) []).reverse

theorem perm_place (c : Char) (cs : List Char) : (place c cs).Perm (c :: cs) := by
  induction cs with
  | nil => exact .refl _
  | cons d rest ih =>
    unfold place
    split
    · exact (ih.cons d).trans (.swap c d rest)
    · exact .refl _

theorem perm_order (cs : List Char) : (order cs).Perm cs := by
  have h : ∀ (cs done : List Char),
      (cs.foldl (fun done c => place c done) done).Perm (cs.reverse ++ done) := by
    intro cs
    induction cs with
    | nil => intro done; exact .refl _
    | cons c cs ih =>
      intro done
      have := ((perm_place c done).append_left cs.reverse)
      simpa using (ih (place c done)).trans this
  have := h cs []
  simp only [List.append_nil] at this
  exact (List.reverse_perm _).trans (this.trans (List.reverse_perm _))

structure Composer where
  done : List Char := []
  base : Option Char := none
  /-- The marks behind the base that did not join it, the last one first. -/
  marks : List Char := []

namespace Composer

/-- Puts the next character behind the text. It joins the base unless a mark between them keeps it
off: one of the same class or of a higher one. -/
def push (s : Composer) (c : Char) : Composer :=
  let within : Bool :=
    match s.marks with
    | [] => true
    | m :: _ => combiningClass m < combiningClass c
  match if within then s.base.bind (join? · c) else none with
  | some whole => { s with base := some whole }
  | none =>
    if combiningClass c = 0 then { done := s.marks ++ s.base.toList ++ s.done, base := some c }
    else { s with marks := c :: s.marks }

def text (s : Composer) : List Char := (s.marks ++ s.base.toList ++ s.done).reverse

end Composer

def compose (cs : List Char) : List Char :=
  ((order (cs.flatMap (decompose 4))).foldl Composer.push {}).text

end RunWatch.Text.Normal
