set_option autoImplicit false

namespace RunWatch.Text

/-- The value of an ASCII digit; the library's numbers are written with no other digits. -/
def digit? (c : Char) : Option Nat :=
  if '0' ≤ c ∧ c ≤ '9' then some (c.toNat - '0'.toNat) else none

def isDigit (c : Char) : Bool := (digit? c).isSome

theorem digit?_lt {c : Char} {d : Nat} (h : digit? c = some d) : d < 10 := by
  unfold digit? at h
  split at h
  · next hc =>
    have h9 : c.toNat ≤ '9'.toNat := hc.2
    simp at h
    have : '9'.toNat = 57 := rfl
    have : '0'.toNat = 48 := rfl
    omega
  · simp at h

def takeDigits : List Char → List Nat × List Char
  | [] => ([], [])
  | c :: cs =>
    match digit? c with
    | some d => let (ds, rest) := takeDigits cs; (d :: ds, rest)
    | none => ([], c :: cs)

theorem digit?_of_isDigit {c : Char} (h : c.isDigit = true) :
    digit? c = some (c.toNat - '0'.toNat) := by
  simp only [Char.isDigit, Bool.and_eq_true, decide_eq_true_eq] at h
  exact if_pos h

theorem takeDigits_of_isDigit {cs : List Char} (h : ∀ c ∈ cs, c.isDigit = true) :
    takeDigits cs = (cs.map fun c => c.toNat - '0'.toNat, []) := by
  induction cs with
  | nil => rfl
  | cons c cs ih =>
    have hc := digit?_of_isDigit (h c List.mem_cons_self)
    have hcs := ih fun d hd => h d (List.mem_cons_of_mem c hd)
    simp [takeDigits, hc, hcs]

theorem toNat_digitChar {d : Nat} (h : d < 10) : (Nat.digitChar d).toNat = '0'.toNat + d := by
  revert d
  decide

theorem eq_digitChar {c : Char} {d : Nat} (h : digit? c = some d) : c = Nat.digitChar d := by
  have hlt := digit?_lt h
  unfold digit? at h
  split at h
  · next hc =>
    have h0 : '0'.toNat ≤ c.toNat := hc.1
    cases h
    rw [← Char.toNat_inj, toNat_digitChar hlt]
    omega
  · cases h

theorem append_of_takeDigits {cs rest : List Char} {ds : List Nat}
    (h : takeDigits cs = (ds, rest)) :
    cs = ds.map Nat.digitChar ++ rest ∧ ∀ d ∈ ds, d < 10 := by
  induction cs generalizing ds with
  | nil =>
    cases h
    simp
  | cons c cs ih =>
    unfold takeDigits at h
    split at h
    · next d hd =>
      cases hcs : takeDigits cs with
      | mk es rest' =>
        rw [hcs] at h
        cases h
        obtain ⟨hes, hlt⟩ := ih hcs
        simp [eq_digitChar hd, ← hes, digit?_lt hd]
        exact hlt
    · cases h
      simp

theorem eq_of_takeDigits {cs : List Char} {ds : List Nat} (h : takeDigits cs = (ds, [])) :
    cs = ds.map Nat.digitChar ∧ ∀ d ∈ ds, d < 10 := by
  simpa using append_of_takeDigits h

def ofDigits (ds : List Nat) : Nat := ds.foldl (fun n d => 10 * n + d) 0

theorem takeDigits_toDigits (n : Nat) :
    ∃ ds, takeDigits (Nat.toDigits 10 n) = (ds, []) ∧ ds ≠ [] ∧ ofDigits ds = n := by
  have hdigits : ∀ c ∈ Nat.toDigits 10 n, c.isDigit = true := fun _ hc =>
    Nat.isDigit_of_mem_toDigits (by decide) (by decide) hc
  refine ⟨_, takeDigits_of_isDigit hdigits, by simp [Nat.toDigits_ne_nil], ?_⟩
  rw [ofDigits, List.foldl_map]
  exact Nat.ofDigitChars_ten_toDigits

def natOf? (cs : List Char) : Option Nat :=
  match takeDigits cs with
  | (d :: ds, []) => some (ofDigits (d :: ds))
  | _ => none

/-- A 64-bit number, with or without a plus sign in front. -/
def word? (cs : List Char) : Option UInt64 :=
  let digits :=
    match cs with
    | '+' :: rest => rest
    | _ => cs
  (natOf? digits).bind fun n => if n < UInt64.size then some n.toUInt64 else none

def takeExactly? (n : Nat) (cs : List Char) : Option (Nat × List Char) :=
  let head := cs.take n
  if head.length = n then
    match (takeDigits head) with
    | (ds, []) => some (ofDigits ds, cs.drop n)
    | _ => none
  else none

theorem takeExactly?_eq_some {n v : Nat} {cs rest : List Char}
    (h : takeExactly? n cs = some (v, rest)) : ∃ ds : List Nat, ds.length = n ∧
      (∀ d ∈ ds, d < 10) ∧ v = ofDigits ds ∧ cs = ds.map Nat.digitChar ++ rest := by
  unfold takeExactly? at h
  dsimp only at h
  split at h
  · next hlength =>
    split at h
    · next ds hds =>
      obtain ⟨hchars, hlt⟩ := eq_of_takeDigits hds
      cases h
      refine ⟨ds, ?_, hlt, rfl, ?_⟩
      · rw [← hlength, hchars, List.length_map]
      · rw [← hchars, List.take_append_drop]
    · cases h
  · cases h

def padded (width n : Nat) : String :=
  let s := toString n
  String.ofList (List.replicate (width - s.length) '0') ++ s

end RunWatch.Text
