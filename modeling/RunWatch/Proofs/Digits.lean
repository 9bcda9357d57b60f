import Mathlib.Algebra.Group.Nat.Defs
import RunWatch.Text.Digits
set_option autoImplicit false

namespace RunWatch.Text

theorem digit?_digitChar {d : Nat} (h : d < 10) : digit? (Nat.digitChar d) = some d := by
  revert d
  decide

theorem takeDigits_append {ds : List Nat} (h : ∀ d ∈ ds, d < 10) {rest : List Char}
    (hrest : takeDigits rest = ([], rest)) :
    takeDigits (ds.map Nat.digitChar ++ rest) = (ds, rest) := by
  induction ds with
  | nil => exact hrest
  | cons d ds ih =>
    have hd := digit?_digitChar (h d List.mem_cons_self)
    have hds := ih fun e he => h e (List.mem_cons_of_mem d he)
    simp [takeDigits, hd, hds]

theorem le_foldl_digits (ds : List Nat) (n : Nat) : n ≤ ds.foldl (fun n d => 10 * n + d) n := by
  induction ds generalizing n with
  | nil => exact Nat.le_refl n
  | cons d ds ih =>
    rw [List.foldl_cons]
    have := ih (10 * n + d)
    omega

theorem ofDigits_concat (ds : List Nat) (d : Nat) :
    ofDigits (ds ++ [d]) = 10 * ofDigits ds + d := by
  simp [ofDigits]

theorem ofDigits_zeros (k : Nat) (ds : List Nat) :
    ofDigits (List.replicate k 0 ++ ds) = ofDigits ds := by
  induction k with
  | zero => rfl
  | succ k ih => simpa [ofDigits, List.replicate_succ] using ih

theorem ofDigits_lt {ds : List Nat} (h : ∀ d ∈ ds, d < 10) : ofDigits ds < 10 ^ ds.length := by
  induction hn : ds.length generalizing ds with
  | zero =>
    rw [List.eq_nil_of_length_eq_zero hn]
    decide
  | succ n ih =>
    obtain ⟨ds, d, rfl⟩ :=
      (List.eq_nil_or_concat ds).resolve_left (List.ne_nil_of_length_eq_add_one hn)
    rw [List.concat_eq_append] at *
    simp only [List.length_append, List.length_singleton, Nat.add_right_cancel_iff,
      List.forall_mem_append, List.forall_mem_singleton] at hn h
    have hlt := ih h.1 hn
    rw [ofDigits_concat, Nat.pow_succ]
    omega

theorem ofDigits_injective {ds es : List Nat} (hlength : ds.length = es.length)
    (hd : ∀ d ∈ ds, d < 10) (he : ∀ e ∈ es, e < 10) (h : ofDigits ds = ofDigits es) : ds = es := by
  induction hn : ds.length generalizing ds es with
  | zero =>
    rw [List.eq_nil_of_length_eq_zero hn, List.eq_nil_of_length_eq_zero (hlength.symm.trans hn)]
  | succ n ih =>
    obtain ⟨ds, d, rfl⟩ :=
      (List.eq_nil_or_concat ds).resolve_left (List.ne_nil_of_length_eq_add_one hn)
    obtain ⟨es, e, rfl⟩ := (List.eq_nil_or_concat es).resolve_left
      (List.ne_nil_of_length_eq_add_one (hlength.symm.trans hn))
    rw [List.concat_eq_append] at *
    rw [List.concat_eq_append] at *
    simp only [List.length_append, List.length_singleton, Nat.add_right_cancel_iff,
      ofDigits_concat, List.forall_mem_append, List.forall_mem_singleton] at hlength hn h hd he
    obtain rfl := ih hlength hd.1 he.1 (by omega) hn
    obtain rfl : d = e := by omega
    rfl

theorem length_padded {width n : Nat} (hw : 0 < width) (h : n < 10 ^ width) :
    (padded width n).toList.length = width := by
  have hle := (Nat.length_toDigits_le_iff (b := 10) (by decide) hw).2 h
  simp only [padded, Nat.toString_eq_ofList_toDigits, String.toList_append, String.toList_ofList,
    String.length_ofList, List.length_append, List.length_replicate]
  omega

theorem digits_toString (n : Nat) : ∃ ds, (toString n).toList = ds.map Nat.digitChar ∧ ds ≠ [] ∧
    (∀ d ∈ ds, d < 10) ∧ ofDigits ds = n := by
  obtain ⟨ds, htake, hne, hvalue⟩ := takeDigits_toDigits n
  obtain ⟨hchars, hlt⟩ := eq_of_takeDigits htake
  refine ⟨ds, ?_, hne, hlt, hvalue⟩
  rw [Nat.toString_eq_ofList_toDigits, String.toList_ofList, hchars]

/-- The digits of a number begin with a zero only if there is no other digit. -/
theorem length_eq_one_of_head {n : Nat} {ds : List Nat}
    (hchars : (toString n).toList = ds.map Nat.digitChar) (hlt : ∀ d ∈ ds, d < 10)
    (hvalue : ofDigits ds = n) (hhead : ds.head? = some 0) : ds.length = 1 := by
  cases ds with
  | nil => cases hhead
  | cons d es =>
    obtain rfl : d = 0 := Option.some.inj hhead
    have hbound : n < 10 ^ es.length := by
      have h := ofDigits_lt fun e he => hlt e (List.mem_cons_of_mem 0 he)
      rwa [← ofDigits_zeros 1 es, List.replicate_one, List.singleton_append, hvalue] at h
    have hlength : (Nat.toDigits 10 n).length = es.length + 1 := by
      rw [← String.toList_ofList (l := Nat.toDigits 10 n), ← Nat.toString_eq_ofList_toDigits,
        hchars, List.length_map, List.length_cons]
    rw [List.length_cons]
    rcases Nat.eq_zero_or_pos es.length with hnone | hsome
    · omega
    · have := (Nat.length_toDigits_le_iff (b := 10) (by decide) hsome).2 hbound
      omega

theorem digits_padded (width n : Nat) : ∃ ds, (padded width n).toList = ds.map Nat.digitChar ∧
    (∀ d ∈ ds, d < 10) ∧ ofDigits ds = n := by
  obtain ⟨ds, hchars, -, hlt, hvalue⟩ := digits_toString n
  refine ⟨List.replicate (width - (toString n).length) 0 ++ ds, ?_, ?_, ?_⟩
  · rw [padded, String.toList_append, String.toList_ofList, hchars, List.map_append,
      List.map_replicate]
    rfl
  · intro d hd
    rcases List.mem_append.1 hd with hd | hd
    · rw [(List.mem_replicate.1 hd).2]
      decide
    · exact hlt d hd
  · rw [ofDigits_zeros, hvalue]

theorem padded_injective {width m n : Nat} (h : padded width m = padded width n) : m = n := by
  have hread (k : Nat) : ofDigits (takeDigits (padded width k).toList).1 = k := by
    obtain ⟨ds, hds, hlt, hk⟩ := digits_padded width k
    have htake := takeDigits_append hlt (rfl : takeDigits [] = ([], []))
    rw [List.append_nil] at htake
    rw [hds, htake, hk]
  rw [← hread m, h, hread n]

/-- A number of fixed width is read exactly where it is written. -/
theorem takeExactly?_eq_some_iff {width n : Nat} {cs rest : List Char} (hw : 0 < width) :
    takeExactly? width cs = some (n, rest) ↔
      n < 10 ^ width ∧ (padded width n).toList ++ rest = cs := by
  obtain ⟨es, hes, hlt, hn⟩ := digits_padded width n
  constructor
  · intro h
    obtain ⟨ds, hlength, hd, rfl, rfl⟩ := takeExactly?_eq_some h
    have hbound := ofDigits_lt hd
    rw [hlength] at hbound
    have hwidth := length_padded hw hbound
    rw [hes, List.length_map] at hwidth
    have heq := ofDigits_injective (hwidth.trans hlength.symm) hlt hd hn
    exact ⟨hbound, by rw [hes, heq]⟩
  · rintro ⟨hbound, rfl⟩
    have hwidth := length_padded hw hbound
    have htake := takeDigits_append hlt (rfl : takeDigits [] = ([], []))
    rw [List.append_nil, ← hes] at htake
    simp [takeExactly?, List.take_left' hwidth, List.drop_left' hwidth, hwidth, htake, hn]

theorem takeExactly?_padded {width n : Nat} (hw : 0 < width) (h : n < 10 ^ width)
    (rest : List Char) : takeExactly? width ((padded width n).toList ++ rest) = some (n, rest) :=
  (takeExactly?_eq_some_iff hw).2 ⟨h, rfl⟩

end RunWatch.Text
