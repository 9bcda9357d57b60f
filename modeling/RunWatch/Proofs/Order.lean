import RunWatch.Proofs.Rounding
set_option autoImplicit false

namespace RunWatch.Binary64

/-- A NaN has no place in the order, and the two zeros are equal in it. -/
def le : Binary64 → Binary64 → Bool
  | .nan, _ | _, .nan => false
  | .infinite s, .infinite t => s || !t
  | .infinite s, .finite _ _ => s
  | .finite _ _, .infinite t => !t
  | .finite s u, .finite t v => signedUnits s u ≤ signedUnits t v

instance : LE Binary64 := ⟨fun x y => x.le y = true⟩

instance (x y : Binary64) : Decidable (x ≤ y) := inferInstanceAs (Decidable (x.le y = true))

theorem finite_le_finite {s t : Bool} {u v : Nat} :
    Binary64.finite s u ≤ .finite t v ↔ signedUnits s u ≤ signedUnits t v :=
  decide_eq_true_iff

theorem roundEven_mono {a b den : Nat} (hden : 0 < den) (h : a ≤ b) :
    roundEven a den ≤ roundEven b den := by
  obtain ⟨ha, -⟩ := roundEven_near a hden
  obtain ⟨-, hb⟩ := roundEven_near b hden
  -- numbers that are rounded apart are half the way to each other, so out of order only if equal
  refine Nat.le_of_not_lt fun hlt => ?_
  have hstep := Nat.mul_le_mul_right den (Nat.succ_le_of_lt hlt)
  rw [Nat.succ_mul] at hstep
  obtain rfl : a = b := by omega
  exact Nat.lt_irrefl _ hlt

theorem roundEven_two_pow {den k e : Nat} (hden : 0 < den) (h : k ≤ e) :
    roundEven (2 ^ e * den) (den * 2 ^ k) * 2 ^ k = 2 ^ e := by
  have hpow : 2 ^ e = 2 ^ (e - k) * 2 ^ k := by rw [← Nat.pow_add, Nat.sub_add_cancel h]
  have hnum : 2 ^ e * den = 2 ^ (e - k) * (den * 2 ^ k) := by
    rw [hpow, Nat.mul_assoc, Nat.mul_comm den]
  rw [hnum, roundEven_mul (Nat.mul_pos hden (Nat.two_pow_pos k)), hpow]

/-- Counts that are not spaced alike have a power of two between them. -/
theorem two_pow_between {a b : Nat} (h : a ≤ b) (hne : spacing a ≠ spacing b) :
    a < 2 ^ b.log2 ∧ 2 ^ b.log2 ≤ b := by
  have hb : b ≠ 0 := by
    rintro rfl
    obtain rfl := Nat.le_zero.1 h
    exact hne rfl
  refine ⟨Nat.lt_of_not_le fun hle => hne ?_, Nat.log2_self_le hb⟩
  have ha : a ≠ 0 := Nat.ne_of_gt (Nat.lt_of_lt_of_le (Nat.two_pow_pos _) hle)
  have hlog : a.log2 = b.log2 :=
    (Nat.log2_eq_iff ha).2 ⟨hle, Nat.lt_of_le_of_lt h Nat.lt_log2_self⟩
  rw [spacing_eq, spacing_eq, hlog]

theorem roundUnits_mono {a b den : Nat} (hden : 0 < den) (h : a ≤ b) :
    roundUnits a den ≤ roundUnits b den := by
  have hquot : a / den ≤ b / den := Nat.div_le_div_right h
  unfold roundUnits
  dsimp only
  by_cases hspacing : spacing (a / den) = spacing (b / den)
  · rw [hspacing]
    exact Nat.mul_le_mul_right _ (roundEven_mono (Nat.mul_pos hden (spacing_pos _)) h)
  · obtain ⟨hlt, hle⟩ := two_pow_between hquot hspacing
    have hbelow : a ≤ 2 ^ (b / den).log2 * den := Nat.le_of_lt ((Nat.div_lt_iff_lt_mul hden).1 hlt)
    have habove : 2 ^ (b / den).log2 * den ≤ b := (Nat.le_div_iff_mul_le hden).1 hle
    have hlog : (a / den).log2 - 52 ≤ (b / den).log2 := by
      by_cases h0 : a / den = 0
      · simp [h0]
      · have := (Nat.log2_lt h0).2 hlt
        omega
    rw [spacing_eq, spacing_eq]
    calc roundEven a (den * 2 ^ ((a / den).log2 - 52)) * 2 ^ ((a / den).log2 - 52)
        ≤ 2 ^ (b / den).log2 := by
          rw [← roundEven_two_pow hden hlog]
          exact Nat.mul_le_mul_right _
            (roundEven_mono (Nat.mul_pos hden (Nat.two_pow_pos _)) hbelow)
      _ ≤ roundEven b (den * 2 ^ ((b / den).log2 - 52)) * 2 ^ ((b / den).log2 - 52) := by
          rw [← roundEven_two_pow hden (Nat.sub_le _ 52)]
          exact Nat.mul_le_mul_right _
            (roundEven_mono (Nat.mul_pos hden (Nat.two_pow_pos _)) habove)

theorem roundUnits_mul_of_dvd {u den : Nat} (hden : 0 < den) (h : spacing u ∣ u) :
    roundUnits (u * den) den = u := by
  obtain ⟨k, hk⟩ := h
  have hround := roundEven_mul (Nat.mul_pos hden (spacing_pos u)) k
  rw [Nat.mul_left_comm, Nat.mul_comm k, ← hk, Nat.mul_comm den] at hround
  rw [roundUnits, Nat.mul_div_cancel _ hden, hround, Nat.mul_comm, ← hk]

theorem roundUnits_le_of_le {a u den : Nat} (hden : 0 < den) (hu : spacing u ∣ u)
    (h : a ≤ u * den) : roundUnits a den ≤ u := by
  rw [← roundUnits_mul_of_dvd hden hu]
  exact roundUnits_mono hden h

theorem roundEven_zero (den : Nat) : roundEven 0 den = 0 := by
  rcases Nat.eq_zero_or_pos den with rfl | h
  · decide
  · simp [roundEven, h]

theorem roundUnits_zero (den : Nat) : roundUnits 0 den = 0 := by
  rw [roundUnits, roundEven_zero, Nat.zero_mul]

theorem ofUnits_finite {n den : Nat} (s : Bool) (h : roundUnits n den < unitsLimit) :
    ofUnits s n den = .finite s (roundUnits n den) := if_pos h

theorem add_finite_false (u v : Nat) :
    (Binary64.finite false u).add (.finite false v) = ofUnits false (u + v) 1 := by
  have hsum : signedUnits false u + signedUnits false v = ((u + v : Nat) : Int) := by
    simp [signedUnits]
  simp only [add, hsum]
  split
  · next h =>
    have hzero : u + v = 0 := by omega
    rw [hzero, ofUnits_finite false (by rw [roundUnits_zero]; decide +kernel), roundUnits_zero]
    rfl
  · have hsign : decide (((u + v : Nat) : Int) < 0) = false := decide_eq_false (by omega)
    rw [hsign, Int.natAbs_natCast]

theorem ofInt_natCast {n : Nat} (h : n ≤ 2 ^ 53) : ofInt n = .finite false (n * unitsPerOne) := by
  have hlt : n * unitsPerOne < unitsLimit :=
    Nat.lt_of_le_of_lt (Nat.mul_le_mul_right _ h) (by decide +kernel)
  have hdvd : spacing (n * unitsPerOne) ∣ n * unitsPerOne := by
    rw [unitsPerOne_eq]
    exact spacing_dvd_mul h
  have hsign : decide ((n : Int) < 0) = false := decide_eq_false (by omega)
  rw [ofInt, hsign, Int.natAbs_natCast, ofUnits_of_dvd hdvd hlt]

theorem ofUnits_true_le_zero (n den : Nat) : ofUnits true n den ≤ zero := by
  unfold ofUnits
  dsimp only
  split
  · exact finite_le_finite.2 (by simp [signedUnits])
  · rfl

theorem ofInt_le_zero {n : Int} (h : n ≤ 0) : ofInt n ≤ zero := by
  rcases Int.lt_or_eq_of_le h with hlt | rfl
  · rw [ofInt, decide_eq_true hlt]
    exact ofUnits_true_le_zero _ _
  · decide +kernel

theorem finite_le_zero_iff {s : Bool} {u : Nat} :
    Binary64.finite s u ≤ zero ↔ s = true ∨ u = 0 := by
  rw [zero, finite_le_finite]
  cases s <;> simp [signedUnits]

theorem div_le_zero {x : Binary64} {v : Nat} (hx : x ≤ zero) (hv : 0 < v) :
    x.div (.finite false v) ≤ zero := by
  cases x with
  | nan => cases hx
  | infinite s =>
    cases s with
    | true => rfl
    | false => cases hx
  | finite s u =>
    have hv' : v ≠ 0 := Nat.ne_of_gt hv
    rw [div, if_neg hv']
    rcases finite_le_zero_iff.1 hx with rfl | rfl
    · exact ofUnits_true_le_zero _ _
    · have hzero : ofUnits (s != false) (0 * unitsPerOne) v = .finite (s != false) 0 := by
        rw [Nat.zero_mul, ofUnits_finite _ (by rw [roundUnits_zero]; decide +kernel),
          roundUnits_zero]
      rw [hzero]
      exact finite_le_zero_iff.2 (.inr rfl)

theorem add_le_zero {x y : Binary64} (hx : x ≤ zero) (hy : y ≤ zero) : x.add y ≤ zero := by
  cases x with
  | nan => cases hx
  | infinite s =>
    obtain rfl : s = true := hx
    cases y with
    | nan => cases hy
    | infinite t =>
      obtain rfl : t = true := hy
      rfl
    | finite t v => rfl
  | finite s u =>
    cases y with
    | nan => cases hy
    | infinite t => exact hy
    | finite t v =>
      have hzero : signedUnits false 0 = 0 := rfl
      rw [zero, finite_le_finite, hzero] at hx hy
      simp only [add]
      split
      · exact finite_le_zero_iff.2 (.inr rfl)
      · have hneg : signedUnits s u + signedUnits t v < 0 := by omega
        rw [decide_eq_true hneg]
        exact ofUnits_true_le_zero _ _

theorem atLeastZero_of_le_zero {x : Binary64} (h : x ≤ zero) : x.atLeastZero = zero := by
  cases x with
  | nan => rfl
  | infinite s =>
    obtain rfl : s = true := h
    rfl
  | finite s u =>
    rcases finite_le_zero_iff.1 h with rfl | rfl
    · rfl
    · cases s <;> rfl

end RunWatch.Binary64
