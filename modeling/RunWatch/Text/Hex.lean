import RunWatch.Text.Digits
set_option autoImplicit false

namespace RunWatch.Text

def hexDigit (n : Nat) : Char :=
  if n < 10 then Char.ofNat ('0'.toNat + n) else Char.ofNat ('a'.toNat + (n - 10))

def hexDigit? (c : Char) : Option Nat :=
  if 'a' ≤ c ∧ c ≤ 'f' then some (c.toNat - 'a'.toNat + 10)
  else if 'A' ≤ c ∧ c ≤ 'F' then some (c.toNat - 'A'.toNat + 10)
  else digit? c

theorem hexDigit?_hexDigit {n : Nat} (h : n < 16) : hexDigit? (hexDigit n) = some n := by
  have all : ∀ i : Fin 16, hexDigit? (hexDigit i) = some i.val := by decide
  exact all ⟨n, h⟩

def hexText (n : Nat) : List Char :=
  if n < 16 then [hexDigit n] else hexText (n / 16) ++ [hexDigit (n % 16)]
termination_by n

/-- A number in a radix of up to 16; no digits are zero. -/
def numberIn? (radix : Nat) (cs : List Char) : Option Nat :=
  cs.foldlM (fun n c => ((hexDigit? c).filter (· < radix)).map fun d => radix * n + d) 0

theorem numberIn?_hexText (n : Nat) : numberIn? 16 (hexText n) = some n := by
  fun_induction hexText n with
  | case1 n h => simp [numberIn?, hexDigit?_hexDigit h, h]
  | case2 n h ih =>
    have hd : n % 16 < 16 := Nat.mod_lt _ (by decide)
    have hread : (hexDigit? (hexDigit (n % 16))).filter (· < 16) = some (n % 16) := by
      rw [hexDigit?_hexDigit hd]
      simp [Option.filter, hd]
    rw [numberIn?] at ih ⊢
    rw [List.foldlM_append, ih]
    simp only [Option.bind_eq_bind, Option.bind_some, List.foldlM_cons, List.foldlM_nil, hread,
      Option.map_some, Nat.div_add_mod]
    rfl

end RunWatch.Text
