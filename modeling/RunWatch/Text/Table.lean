import RunWatch.Text.Hex
import RunWatch.Text.Parts
/-!
Properties of characters as tables. The rows of a table are ranges of code points in ascending
order, and the row of a code point is found by bisection. Ranges are written with hexadecimal
digits, several on a line: `41-5A AA` is the Latin capitals and the feminine ordinal.
-/
set_option autoImplicit false

namespace RunWatch.Text

structure Row (α : Type) where
  first : Nat
  last : Nat
  value : α

structure Table (α : Type) where
  rows : Array (Row α)

abbrev CharSet := Table Unit

def words (lines : List String) : List (List Char) :=
  lines.flatMap fun line => splitOn (· == ' ') line.toList

def range? (word : List Char) : Option (Nat × Nat) :=
  match splitOn (· == '-') word with
  | [a] => (numberIn? 16 a).map fun n => (n, n)
  | [a, b] => do some (← numberIn? 16 a, ← numberIn? 16 b)
  | _ => none

/-- Texts that belong to successive code points: the first code point, an equals sign, and the texts
between commas. -/
def successive? (word : List Char) : Option (Nat × List (List Char)) :=
  match splitOn (· == '=') word with
  | [first, texts] => (numberIn? 16 first).map fun n => (n, splitOn (· == ',') texts)
  | _ => none

namespace Table

variable {α : Type}

/-- The number of rows, counted between two places, that begin at or before a code point. -/
def search (t : Table α) (n lo hi : Nat) : Nat :=
  if h : lo < hi then
    let mid := (lo + hi) / 2
    if (t.rows[mid]?.map (·.first)).any (· ≤ n) then t.search n (mid + 1) hi
    else t.search n lo mid
  else lo
termination_by hi - lo

def row? (t : Table α) (n : Nat) : Option (Row α) :=
  match t.search n 0 t.rows.size with
  | 0 => none
  | k + 1 => t.rows[k]?.filter fun r => r.first ≤ n ∧ n ≤ r.last

/-- Whatever the order of its rows, a table says nothing of a code point but what one of them
says. -/
theorem mem_of_row? {t : Table α} {n : Nat} {r : Row α} (h : t.row? n = some r) :
    r ∈ t.rows ∧ r.first ≤ n ∧ n ≤ r.last := by
  unfold row? at h
  split at h
  · simp at h
  · next k _ =>
    obtain ⟨hr, hb⟩ := Option.filter_eq_some_iff.1 h
    exact ⟨Array.mem_of_getElem? hr, by simpa using hb⟩

def value? (t : Table α) (c : Char) : Option α := (t.row? c.toNat).map (·.value)

def ofRows (rows : List (Row α)) : Table α :=
  ⟨(rows.mergeSort fun r s => r.first ≤ s.first).toArray⟩

def ofClasses (classes : List (α × List String)) : Table α :=
  ofRows (classes.flatMap fun (value, lines) =>
    ((words lines).filterMap range?).map fun (first, last) => ⟨first, last, value⟩)

end Table

namespace CharSet

def ofLines (lines : List String) : CharSet := .ofClasses [((), lines)]

def contains (s : CharSet) (c : Char) : Bool := (s.row? c.toNat).isSome

end CharSet

end RunWatch.Text
