/-!
The Gregorian calendar over all years. Days are counted from 1 March of year 0, so that the leap
day is the last of its year, and a year is found by taking off eras of 400 years, centuries, blocks
of four years and single years. Nothing is lost on the way: every day has a valid date, and every
valid date is the date of its day.
-/
set_option autoImplicit false

namespace RunWatch

structure Date where
  year : Int
  month : Nat
  day : Nat
  deriving DecidableEq, Repr

namespace Date

def isLeapYear (y : Int) : Bool := (y % 4 == 0 && y % 100 != 0) || y % 400 == 0

def monthLength (y : Int) (m : Nat) : Nat :=
  if m = 2 then (if isLeapYear y then 29 else 28)
  else if m = 4 ∨ m = 6 ∨ m = 9 ∨ m = 11 then 30
  else 31

def isValid (d : Date) : Bool :=
  1 ≤ d.month && d.month ≤ 12 && 1 ≤ d.day && d.day ≤ monthLength d.year d.month

/-- The number of days of the months before the `i`-th month from March. -/
def daysBeforeMonth (i : Nat) : Nat := (153 * i + 2) / 5

def dayNumber (d : Date) : Int :=
  let y := if d.month ≤ 2 then d.year - 1 else d.year
  let i := (d.month + 9) % 12
  y * 365 + y / 4 - y / 100 + y / 400 + daysBeforeMonth i + d.day - 1

/-- The year from March that holds a day, and the number of the day in it. -/
def splitYear (n : Int) : Int × Int :=
  let era := n / 146097
  let r := n % 146097
  let century := min (r / 36524) 3
  let r := r - century * 36524
  let block := r / 1461
  let r := r % 1461
  let year := min (r / 365) 3
  (era * 400 + century * 100 + block * 4 + year, r - year * 365)

theorem splitYear_bounds (n : Int) : 0 ≤ (splitYear n).2 ∧ (splitYear n).2 ≤ 365 := by
  simp only [splitYear]
  omega

/-- A year written in centuries, blocks and single years is divided by 4, 100 and 400 at sight. -/
theorem leapDays_parts {e c b y : Int} (hc : 0 ≤ c ∧ c ≤ 3) (hb : 0 ≤ b ∧ b ≤ 24)
    (hy : 0 ≤ y ∧ y ≤ 3) :
    let n := e * 400 + c * 100 + b * 4 + y
    n / 4 = e * 100 + c * 25 + b ∧ n / 100 = e * 4 + c ∧ n / 400 = e := by
  refine ⟨?_, ?_, ?_⟩ <;> omega

theorem splitYear_sum (n : Int) :
    (splitYear n).1 * 365 + (splitYear n).1 / 4 - (splitYear n).1 / 100 + (splitYear n).1 / 400 +
      (splitYear n).2 = n := by
  have hc : 0 ≤ min (n % 146097 / 36524) 3 ∧ min (n % 146097 / 36524) 3 ≤ 3 := by omega
  have hb : 0 ≤ (n % 146097 - min (n % 146097 / 36524) 3 * 36524) / 1461 ∧
      (n % 146097 - min (n % 146097 / 36524) 3 * 36524) / 1461 ≤ 24 := by omega
  have hy : 0 ≤ min ((n % 146097 - min (n % 146097 / 36524) 3 * 36524) % 1461 / 365) 3 ∧
      min ((n % 146097 - min (n % 146097 / 36524) 3 * 36524) % 1461 / 365) 3 ≤ 3 := by omega
  obtain ⟨h4, h100, h400⟩ := leapDays_parts (e := n / 146097) hc hb hy
  simp only [splitYear]
  rw [h4, h100, h400]
  omega

def ofDayNumber (n : Int) : Date :=
  let (y, r) := splitYear n
  let r := r.toNat
  let i := (5 * r + 2) / 153
  let month := if i < 10 then i + 3 else i - 9
  ⟨if month ≤ 2 then y + 1 else y, month, r - daysBeforeMonth i + 1⟩

theorem dayNumber_ofDayNumber (n : Int) : (ofDayNumber n).dayNumber = n := by
  have hb := splitYear_bounds n
  have hs := splitYear_sum n
  generalize hq : splitYear n = q at hb hs
  obtain ⟨y, r⟩ := q
  simp only at hb hs
  simp only [ofDayNumber, hq, dayNumber, daysBeforeMonth]
  have hi : (5 * r.toNat + 2) / 153 ≤ 11 := by omega
  split
  · next h =>
    have h1 : (5 * r.toNat + 2) / 153 + 3 ≤ 12 := by omega
    have h2 : ¬ ((5 * r.toNat + 2) / 153 + 3 ≤ 2) := by omega
    simp only [h2, if_false]
    have h3 : ((5 * r.toNat + 2) / 153 + 3 + 9) % 12 = (5 * r.toNat + 2) / 153 := by omega
    rw [h3]
    omega
  · next h =>
    have h2 : (5 * r.toNat + 2) / 153 - 9 ≤ 2 := by omega
    simp only [h2, if_true]
    have h3 : ((5 * r.toNat + 2) / 153 - 9 + 9) % 12 = (5 * r.toNat + 2) / 153 := by omega
    rw [h3]
    have : y + 1 - 1 = y := by omega
    rw [this]
    omega

theorem daysBeforeMonth_succ (y : Int) {i : Nat} (h : i < 11) : daysBeforeMonth (i + 1) =
    daysBeforeMonth i + monthLength y (if i < 10 then i + 3 else i - 9) := by
  have hfeb : (if i < 10 then i + 3 else i - 9) ≠ 2 := by split <;> omega
  simp only [monthLength, hfeb, if_false]
  revert i
  decide

theorem isLeapYear_iff (y : Int) :
    isLeapYear y = true ↔ (y % 4 = 0 ∧ y % 100 ≠ 0) ∨ y % 400 = 0 := by
  simp [isLeapYear]

/-- The last year of a block is followed by a leap year, unless the last block is cut short. -/
theorem isLeapYear_parts {e c b : Int} (hb : 0 ≤ b ∧ b ≤ 24) (hc : b = 24 → c = 3) :
    isLeapYear (e * 400 + c * 100 + b * 4 + 3 + 1) = true := by
  rw [isLeapYear_iff]
  by_cases h : b = 24
  · have := hc h
    omega
  · omega

/-- A year from March has a day 365 only if it ends with a leap day. -/
theorem isLeapYear_of_splitYear {n : Int} (h : (splitYear n).2 = 365) :
    isLeapYear ((splitYear n).1 + 1) = true := by
  simp only [splitYear] at h ⊢
  have hyear : min ((n % 146097 - min (n % 146097 / 36524) 3 * 36524) % 1461 / 365) 3 = 3 := by
    omega
  rw [hyear] at h ⊢
  exact isLeapYear_parts (by omega) (by omega)

theorem isValid_ofDayNumber (n : Int) : (ofDayNumber n).isValid = true := by
  have hb := splitYear_bounds n
  have hleap := @isLeapYear_of_splitYear n
  generalize hq : splitYear n = q at hb hleap
  obtain ⟨y, r⟩ := q
  simp only at hb hleap
  simp only [ofDayNumber, hq, isValid, Bool.and_eq_true, decide_eq_true_eq]
  obtain ⟨d, rfl⟩ := Int.eq_ofNat_of_zero_le hb.1
  simp only [Int.toNat_natCast]
  generalize hi : (5 * d + 2) / 153 = i
  refine ⟨⟨⟨?_, ?_⟩, by omega⟩, ?_⟩
  · split <;> omega
  · split <;> omega
  · rcases Nat.lt_or_ge i 11 with h11 | h11
    · have hlength := daysBeforeMonth_succ
        (if (if i < 10 then i + 3 else i - 9) ≤ 2 then y + 1 else y) h11
      have hd : daysBeforeMonth i ≤ d ∧ d < daysBeforeMonth (i + 1) := by
        simp only [daysBeforeMonth]
        omega
      omega
    · obtain rfl : i = 11 := by omega
      change d - 337 + 1 ≤ monthLength (y + 1) 2
      by_cases hr : d = 365
      · subst hr
        simp [monthLength, hleap rfl]
      · have hlength : 28 ≤ monthLength (y + 1) 2 := by
          simp only [monthLength, if_true]
          split <;> omega
        omega

def daysBeforeYear (y : Int) : Int := y * 365 + y / 4 - y / 100 + y / 400

theorem daysBeforeYear_succ (y : Int) : daysBeforeYear (y + 1) =
    daysBeforeYear y + 365 + if isLeapYear (y + 1) then 1 else 0 := by
  simp only [daysBeforeYear]
  split
  · next h =>
    rw [isLeapYear_iff] at h
    omega
  · next h =>
    rw [isLeapYear_iff] at h
    omega

theorem daysBeforeYear_le {z y : Int} (h : z ≤ y) :
    daysBeforeYear z + 365 * (y - z) ≤ daysBeforeYear y := by
  obtain ⟨k, rfl⟩ := Int.le.dest h
  induction k with
  | zero => simp
  | succ k ih =>
    have hk := ih (by omega)
    have hsucc := daysBeforeYear_succ (z + k)
    rw [Int.add_assoc] at hsucc
    push_cast
    omega

theorem splitYear_daysBeforeYear {y r : Int} (h0 : 0 ≤ r)
    (h : daysBeforeYear y + r < daysBeforeYear (y + 1)) :
    splitYear (daysBeforeYear y + r) = (y, r) := by
  have hb := splitYear_bounds (daysBeforeYear y + r)
  have hs := splitYear_sum (daysBeforeYear y + r)
  have hleap := @isLeapYear_of_splitYear (daysBeforeYear y + r)
  generalize hq : splitYear (daysBeforeYear y + r) = q at hb hs hleap
  obtain ⟨z, p⟩ := q
  simp only at hb hs hleap
  change daysBeforeYear z + p = daysBeforeYear y + r at hs
  have hp : daysBeforeYear z + p < daysBeforeYear (z + 1) := by
    rw [daysBeforeYear_succ]
    split
    · omega
    · next hnot =>
      have : p ≠ 365 := fun h => hnot (hleap h)
      omega
  have hzy : z = y := by
    rcases Int.lt_trichotomy z y with hlt | heq | hgt
    · have := daysBeforeYear_le (Int.add_one_le_of_lt hlt)
      omega
    · exact heq
    · have := daysBeforeYear_le (Int.add_one_le_of_lt hgt)
      omega
  subst hzy
  simp
  omega

theorem lt_daysBeforeMonth_succ {y : Int} {i day : Nat} (hi : i < 11) (hpos : 1 ≤ day)
    (hday : day ≤ monthLength y (if i < 10 then i + 3 else i - 9)) :
    daysBeforeMonth i + day - 1 < daysBeforeMonth (i + 1) := by
  rw [daysBeforeMonth_succ y hi]
  omega

theorem ofDayNumber_dayNumber {d : Date} (h : d.isValid = true) : ofDayNumber d.dayNumber = d := by
  obtain ⟨year, month, day⟩ := d
  simp only [isValid, Bool.and_eq_true, decide_eq_true_eq] at h
  obtain ⟨⟨⟨hm, hm'⟩, hpos⟩, hday⟩ := h
  generalize hi : (month + 9) % 12 = i
  have hmonth : (if i < 10 then i + 3 else i - 9) = month := by split <;> omega
  generalize hz : (if month ≤ 2 then year - 1 else year) = z
  generalize hr : daysBeforeMonth i + day - 1 = r
  have hnumber : dayNumber ⟨year, month, day⟩ = daysBeforeYear z + r := by
    simp only [dayNumber, hi, hz, daysBeforeYear]
    omega
  -- only in February, the last month, does the length depend on the year
  have hfits : (5 * r + 2) / 153 = i ∧
      (r : Int) < 365 + if isLeapYear (z + 1) then 1 else 0 := by
    rcases Nat.lt_or_ge i 11 with h11 | h11
    · have hlt := lt_daysBeforeMonth_succ h11 hpos (hmonth ▸ hday)
      simp only [daysBeforeMonth] at hlt hr
      constructor
      · omega
      · split <;> omega
    · obtain rfl : i = 11 := by omega
      obtain rfl : month = 2 := hmonth.symm
      obtain rfl : year = z + 1 := by rw [if_pos (Nat.le_refl 2)] at hz; omega
      simp only [monthLength, if_true] at hday
      simp only [daysBeforeMonth] at hr
      by_cases hleap : isLeapYear (z + 1) = true
      · simp only [hleap, if_true] at hday ⊢
        omega
      · simp only [hleap, Bool.false_eq_true, if_false] at hday ⊢
        omega
  have hsplit : splitYear (daysBeforeYear z + r) = (z, (r : Int)) := by
    apply splitYear_daysBeforeYear (by omega)
    rw [daysBeforeYear_succ]
    omega
  have hyear : (if month ≤ 2 then z + 1 else z) = year := by
    by_cases h2 : month ≤ 2
    · simp only [h2, if_true] at hz ⊢
      omega
    · simpa only [h2, if_false] using hz.symm
  have hdayNumber : r - daysBeforeMonth i + 1 = day := by omega
  simp only [hnumber, ofDayNumber, hsplit, Int.toNat_natCast, hfits.1, hmonth, hyear, hdayNumber]

theorem year_ofDayNumber_lt_iff (n y : Int) :
    (ofDayNumber n).year < y ↔ n < dayNumber ⟨y, 1, 1⟩ := by
  have hb := splitYear_bounds n
  have hs : daysBeforeYear (splitYear n).1 + (splitYear n).2 = n := splitYear_sum n
  have hfirst : dayNumber ⟨y, 1, 1⟩ = daysBeforeYear (y - 1) + 306 := by
    simp [dayNumber, daysBeforeMonth, daysBeforeYear]
  rw [hfirst]
  generalize hq : splitYear n = q at hb hs
  obtain ⟨z, r⟩ := q
  simp only at hb hs
  have hbefore : z ≤ y - 1 → _ := daysBeforeYear_le
  have hafter : y - 1 ≤ z → _ := daysBeforeYear_le
  simp only [ofDayNumber, hq]
  generalize hi : (5 * r.toNat + 2) / 153 = i
  rcases Nat.lt_or_ge i 10 with h10 | h10
  · have hmonth : ¬ i + 3 ≤ 2 := by omega
    simp only [h10, if_true, hmonth, if_false]
    omega
  · have hmonth : i - 9 ≤ 2 := by omega
    simp only [Nat.not_lt.2 h10, if_false, hmonth, if_true]
    omega

end Date

end RunWatch
