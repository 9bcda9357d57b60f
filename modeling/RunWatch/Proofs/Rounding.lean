import Mathlib.Algebra.Group.Nat.Defs
import RunWatch.Json.Number
set_option autoImplicit false

namespace RunWatch.Binary64

theorem spacing_eq (u : Nat) : spacing u = 2 ^ (u.log2 - 52) := by
  simp [spacing, Nat.one_shiftLeft]

def Exact : Binary64 → Prop
  | .finite _ u => spacing u ∣ u ∧ u < unitsLimit
  | _ => True

instance (x : Binary64) : Decidable x.Exact := by
  cases x <;> unfold Exact <;> infer_instance

theorem spacing_dvd_pow {u e : Nat} (h : u.log2 ≤ 52 + e) : spacing u ∣ 2 ^ e := by
  rw [spacing_eq]
  exact Nat.pow_dvd_pow 2 (by omega)

theorem pow_dvd_spacing {u e : Nat} (h : 52 + e ≤ u.log2) : 2 ^ e ∣ spacing u := by
  rw [spacing_eq]
  exact Nat.pow_dvd_pow 2 (by omega)

/-- A count that is a multiple of a power of two and has at most 53 digits in front of it. -/
theorem spacing_dvd_mul {q e : Nat} (h : q ≤ 2 ^ 53) : spacing (q * 2 ^ e) ∣ q * 2 ^ e := by
  have mul_pow : 2 ^ 53 * 2 ^ e = 2 ^ (53 + e) := (Nat.pow_add 2 53 e).symm
  rcases Nat.lt_or_ge q (2 ^ 53) with hq | hq
  · have hlt : q * 2 ^ e < 2 ^ (53 + e) := by
      rw [← mul_pow]
      exact Nat.mul_lt_mul_of_pos_right hq (Nat.two_pow_pos e)
    have hlog : (q * 2 ^ e).log2 ≤ 52 + e := by
      by_cases h0 : q * 2 ^ e = 0
      · simp [h0]
      · have := (Nat.log2_lt h0).2 hlt
        omega
    exact Nat.dvd_trans (spacing_dvd_pow hlog) (Nat.dvd_mul_left _ _)
  · have hq : q = 2 ^ 53 := Nat.le_antisymm h hq
    rw [hq, mul_pow]
    exact spacing_dvd_pow (by simp)

theorem roundEven_le (num den : Nat) : roundEven num den ≤ num / den + 1 := by
  unfold roundEven
  dsimp only
  split <;> omega

theorem div_spacing_lt (u : Nat) : u / spacing u < 2 ^ 53 := by
  rw [spacing_eq, Nat.div_lt_iff_lt_mul (Nat.two_pow_pos _), ← Nat.pow_add]
  have hu : u < 2 ^ (u.log2 + 1) := Nat.lt_log2_self
  have hle : 2 ^ (u.log2 + 1) ≤ 2 ^ (53 + (u.log2 - 52)) :=
    Nat.pow_le_pow_right (by omega) (by omega)
  omega

theorem spacing_dvd_roundUnits (num den : Nat) :
    spacing (roundUnits num den) ∣ roundUnits num den := by
  have hle := roundEven_le num (den * spacing (num / den))
  have hlt := div_spacing_lt (num / den)
  rw [Nat.div_div_eq_div_mul] at hlt
  unfold roundUnits
  dsimp only
  generalize roundEven num (den * spacing (num / den)) = q at hle
  rw [spacing_eq (num / den)]
  exact spacing_dvd_mul (by omega)

theorem roundUnits_of_dvd {u : Nat} (h : spacing u ∣ u) : roundUnits u 1 = u := by
  obtain ⟨k, hk⟩ := h
  have hround : roundEven (k * spacing u) (spacing u) = k := roundEven_mul (spacing_pos u) k
  rw [Nat.mul_comm k, ← hk] at hround
  simp [roundUnits, hround, Nat.mul_comm k, ← hk]

theorem exact_ofUnits (negative : Bool) (num den : Nat) : (ofUnits negative num den).Exact := by
  unfold ofUnits
  dsimp only
  split
  · next h => exact ⟨spacing_dvd_roundUnits num den, h⟩
  · trivial

theorem ofUnits_of_dvd {negative : Bool} {u : Nat} (h : spacing u ∣ u) (hlt : u < unitsLimit) :
    ofUnits negative u 1 = .finite negative u := by
  simp [ofUnits, roundUnits_of_dvd h, hlt]

theorem exact_finite_zero (negative : Bool) : (Binary64.finite negative 0).Exact := by
  cases negative <;> decide +kernel

theorem Exact.neg {x : Binary64} (h : x.Exact) : x.neg.Exact := by
  cases x with
  | finite s u => exact h
  | _ => trivial

theorem exact_ofDecimal (negative : Bool) (n : Nat) (e : Int) : (ofDecimal negative n e).Exact := by
  unfold ofDecimal
  split
  · exact exact_finite_zero negative
  · split
    · trivial
    · split
      · exact exact_finite_zero negative
      · split <;> exact exact_ofUnits ..

theorem exact_mul (x y : Binary64) : (x.mul y).Exact := by
  unfold mul
  split
  · exact exact_ofUnits ..
  · trivial
  all_goals first | trivial | (split <;> trivial)

theorem exact_div (x y : Binary64) : (x.div y).Exact := by
  unfold div
  split
  · split
    · split <;> trivial
    · exact exact_ofUnits ..
  all_goals trivial

theorem exact_readNumeral? {negative : Bool} {cs : List Char} {x : Binary64}
    (h : readNumeral? negative cs = some x) : x.Exact := by
  unfold readNumeral? at h
  dsimp only at h
  split at h <;>
    · obtain ⟨-, e, -, rfl⟩ : _ ∧ ∃ e, _ ∧ _ := by simpa using h
      exact exact_ofDecimal ..

theorem exact_read? {s : String} {x : Binary64} (h : read? s = some x) : x.Exact := by
  unfold read? at h
  simp only [] at h
  split at h
  · cases h; trivial
  · split at h
    · cases h; trivial
    · exact exact_readNumeral? h

theorem pow_dvd_of_le_div {u e : Nat} (h : spacing u ∣ u) (hu : 2 ^ 53 ≤ u / 2 ^ e) :
    2 ^ e ∣ u := by
  have hpos := Nat.two_pow_pos (53 + e)
  rw [Nat.le_div_iff_mul_le (Nat.two_pow_pos e), ← Nat.pow_add] at hu
  have hlog : 53 + e ≤ u.log2 := (Nat.le_log2 (by omega)).2 hu
  exact Nat.dvd_trans (pow_dvd_spacing (by omega)) h

theorem spacing_dvd_whole {u e : Nat} (h : spacing u ∣ u) :
    spacing (u / 2 ^ e * 2 ^ e) ∣ u / 2 ^ e * 2 ^ e := by
  rcases Nat.le_total (u / 2 ^ e) (2 ^ 53) with hle | hge
  · exact spacing_dvd_mul hle
  · rwa [Nat.div_mul_cancel (pow_dvd_of_le_div h hge)]

theorem unitsPerOne_eq : unitsPerOne = 2 ^ 1074 := by
  decide +kernel

theorem unitsPerOne_pos : 0 < unitsPerOne := by
  decide +kernel

theorem toNatBelow_finite (limit u : Nat) :
    toNatBelow limit (.finite false u) = min (u / unitsPerOne) (limit - 1) := rfl

/-- A number of 64 bits that is the same after it has been a binary64 number. -/
def Survives (n : Nat) : Prop := (ofNat n).isFinite ∧ (ofNat n).toNatBelow UInt64.size = n

theorem survives_of_dvd {n : Nat} (hd : spacing (n * unitsPerOne) ∣ n * unitsPerOne)
    (hn : n < UInt64.size) : Survives n := by
  have hlt : n * unitsPerOne < unitsLimit :=
    Nat.lt_of_lt_of_le (Nat.mul_lt_mul_of_pos_right hn unitsPerOne_pos) (by decide +kernel)
  have hof : ofNat n = .finite false (n * unitsPerOne) := ofUnits_of_dvd hd hlt
  have hdiv : n * unitsPerOne / unitsPerOne = n := Nat.mul_div_cancel n unitsPerOne_pos
  refine ⟨by rw [hof]; rfl, ?_⟩
  rw [hof, toNatBelow_finite, hdiv]
  omega

theorem survives_zero : Survives 0 := survives_of_dvd (by decide +kernel) (by decide)

theorem survives_greatest : Survives (UInt64.size - 1) := by
  have hof : ofNat (UInt64.size - 1) = .finite false (UInt64.size * unitsPerOne) := by
    decide +kernel
  have hdiv : UInt64.size * unitsPerOne / unitsPerOne = UInt64.size :=
    Nat.mul_div_cancel _ unitsPerOne_pos
  refine ⟨by rw [hof]; rfl, ?_⟩
  rw [hof, toNatBelow_finite, hdiv]
  omega

theorem survives_toNatBelow {x : Binary64} (h : x.Exact) :
    Survives (x.toNatBelow UInt64.size) := by
  cases x with
  | nan => exact survives_zero
  | infinite s =>
    cases s with
    | true => exact survives_zero
    | false => exact survives_greatest
  | finite s u =>
    cases s with
    | true => exact survives_zero
    | false =>
      obtain ⟨hd, -⟩ := h
      rw [toNatBelow_finite]
      rcases Nat.lt_or_ge (u / unitsPerOne) UInt64.size with hlt | hge
      · rw [Nat.min_eq_left (by omega)]
        have hwhole := spacing_dvd_whole (e := 1074) hd
        rw [← unitsPerOne_eq] at hwhole
        exact survives_of_dvd hwhole hlt
      · rw [Nat.min_eq_right (by omega)]
        exact survives_greatest

theorem roundEven_near (num : Nat) {den : Nat} (h : 0 < den) :
    2 * (roundEven num den * den) ≤ 2 * num + den ∧
      2 * num ≤ 2 * (roundEven num den * den) + den := by
  have hdiv := Nat.div_add_mod num den
  have hmod := Nat.mod_lt num h
  rw [Nat.mul_comm] at hdiv
  unfold roundEven
  dsimp only
  split
  · next hdown =>
    simp only [Bool.or_eq_true, decide_eq_true_eq, Bool.and_eq_true, beq_iff_eq] at hdown
    omega
  · next hup =>
    simp only [Bool.or_eq_true, decide_eq_true_eq, Bool.and_eq_true, beq_iff_eq] at hup
    rw [Nat.add_mul]
    omega

theorem roundUnits_near (n : Nat) :
    2 * roundUnits n 1 ≤ 2 * n + spacing n ∧ 2 * n ≤ 2 * roundUnits n 1 + spacing n := by
  have h := roundEven_near n (spacing_pos n)
  simpa [roundUnits] using h

theorem roundEven_mul_mul (num den : Nat) {k : Nat} (hk : 0 < k) :
    roundEven (num * k) (den * k) = roundEven num den := by
  have hlt : 2 * (num % den * k) < den * k ↔ 2 * (num % den) < den := by
    rw [← Nat.mul_assoc]
    exact Nat.mul_lt_mul_right hk
  have heq : 2 * (num % den * k) = den * k ↔ 2 * (num % den) = den := by
    rw [← Nat.mul_assoc]
    exact Nat.mul_left_inj (Nat.ne_of_gt hk)
  simp only [roundEven, Nat.mul_div_mul_right _ _ hk, Nat.mul_mod_mul_right, hlt, heq, beq_iff_eq,
    Bool.or_eq_true, decide_eq_true_eq, Bool.and_eq_true]

theorem log2_mul_pow {n : Nat} (h : n ≠ 0) (e : Nat) : (n * 2 ^ e).log2 = n.log2 + e := by
  have hpos := Nat.two_pow_pos e
  rw [Nat.log2_eq_iff (Nat.mul_ne_zero h (Nat.ne_of_gt hpos))]
  constructor
  · rw [Nat.pow_add]
    exact Nat.mul_le_mul_right _ (Nat.log2_self_le h)
  · rw [Nat.add_right_comm, Nat.pow_add]
    exact Nat.mul_lt_mul_of_pos_right Nat.lt_log2_self hpos

/-- A number is rounded in the same way whatever small unit it is counted in. -/
theorem roundUnits_mul_pow (n e : Nat) : roundUnits (n * 2 ^ e) 1 = roundUnits n 1 * 2 ^ e := by
  rcases Nat.lt_or_ge n (2 ^ 53) with hn | hn
  · have hexact := roundUnits_of_dvd (spacing_dvd_mul (q := n) (e := e) (Nat.le_of_lt hn))
    rw [hexact, roundUnits_one_of_lt (by simpa [Nat.one_shiftLeft] using hn)]
  · have h0 : n ≠ 0 := by omega
    have hlog : 53 ≤ n.log2 := (Nat.le_log2 h0).2 hn
    have hspacing : spacing (n * 2 ^ e) = spacing n * 2 ^ e := by
      rw [spacing_eq, spacing_eq, log2_mul_pow h0, ← Nat.pow_add]
      congr 1
      omega
    simp only [roundUnits, Nat.div_one, Nat.one_mul, hspacing,
      roundEven_mul_mul _ _ (Nat.two_pow_pos e), Nat.mul_assoc]

theorem spacing_le {n : Nat} (h : n ≠ 0) : spacing n ≤ n := by
  rw [spacing_eq]
  exact Nat.le_trans (Nat.pow_le_pow_right (by omega) (Nat.sub_le ..)) (Nat.log2_self_le h)

theorem roundUnits_le_double (n : Nat) : roundUnits n 1 ≤ 2 * n := by
  by_cases h : n = 0
  · subst h
    decide
  · have hnear := (roundUnits_near n).1
    have hspacing := spacing_le h
    omega

theorem ofNat_of_lt_size {n : Nat} (h : n < UInt64.size) :
    ofNat n = .finite false (roundUnits n 1 * unitsPerOne) := by
  have hlimit : 2 * UInt64.size * unitsPerOne ≤ unitsLimit := by decide +kernel
  have hround : roundUnits (n * unitsPerOne) 1 = roundUnits n 1 * unitsPerOne := by
    rw [unitsPerOne_eq, roundUnits_mul_pow]
  have hlt : roundUnits n 1 * unitsPerOne < unitsLimit := by
    have hdouble := roundUnits_le_double n
    refine Nat.lt_of_lt_of_le (Nat.mul_lt_mul_of_pos_right ?_ unitsPerOne_pos) hlimit
    omega
  simp only [ofNat, ofUnits, hround, hlt, if_true]

theorem toNatBelow_ofNat {n : Nat} (h : n < UInt64.size) :
    (ofNat n).toNatBelow UInt64.size = min (roundUnits n 1) (UInt64.size - 1) := by
  rw [ofNat_of_lt_size h, toNatBelow_finite, Nat.mul_div_cancel _ unitsPerOne_pos]

/-- The numbers of 64 bits that come through are those of 53 digits and the greatest one, which is
rounded up and cut down. -/
theorem min_roundUnits_eq_iff {n : Nat} (h : n < UInt64.size) :
    min (roundUnits n 1) (UInt64.size - 1) = n ↔ spacing n ∣ n ∨ n = UInt64.size - 1 := by
  constructor
  · intro heq
    by_cases hgreatest : n = UInt64.size - 1
    · exact .inr hgreatest
    · have hround : roundUnits n 1 = n := by omega
      have hdvd := spacing_dvd_roundUnits n 1
      rw [hround] at hdvd
      exact .inl hdvd
  · rintro (hdvd | rfl)
    · rw [roundUnits_of_dvd hdvd]
      omega
    · decide +kernel

end RunWatch.Binary64
