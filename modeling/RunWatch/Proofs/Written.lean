import RunWatch.Proofs.Digits
import RunWatch.Timestamp
set_option autoImplicit false

namespace RunWatch

theorem Date.monthLength_le (y : Int) (m : Nat) : monthLength y m ≤ 31 := by
  unfold monthLength
  repeat' split
  all_goals decide

namespace Timestamp

inductive Zone where
  | utc (letter : Char)
  | ahead (hours minutes : Nat)
  | behind (hours minutes : Nat)
  deriving DecidableEq, Repr

namespace Zone

def clock (hours minutes : Nat) : List Char :=
  (Text.padded 2 hours).toList ++ ':' :: (Text.padded 2 minutes).toList

def chars : Zone → List Char
  | utc letter => [letter]
  | ahead hours minutes => '+' :: clock hours minutes
  | behind hours minutes => '-' :: clock hours minutes

def seconds : Zone → Int
  | utc _ => 0
  | ahead hours minutes => hours * 3600 + minutes * 60
  | behind hours minutes => -(hours * 3600 + minutes * 60)

def Fits : Zone → Prop
  | utc letter => letter = 'Z' ∨ letter = 'z'
  | ahead hours minutes | behind hours minutes => hours ≤ 23 ∧ minutes ≤ 59

end Zone

theorem expect?_eq_some {c : Char} {cs rest : List Char} (h : expect? c cs = some rest) :
    cs = c :: rest := by
  cases cs with
  | nil => cases h
  | cons d cs =>
    simp only [expect?] at h
    split at h
    · next hd =>
      cases h
      rw [hd]
    · cases h

theorem expect?_cons (c : Char) (cs : List Char) : expect? c (c :: cs) = some cs := if_pos rfl

/-- Hours and minutes up to the end of a text, counted in seconds with a sign. -/
def readSigned? (sign : Int) (cs : List Char) : Option Int :=
  (Text.takeExactly? 2 cs).bind fun x => (expect? ':' x.2).bind fun cs =>
    (Text.takeExactly? 2 cs).bind fun y =>
      if x.1 ≤ 23 ∧ y.1 ≤ 59 ∧ y.2 = [] then some (sign * (x.1 * 3600 + y.1 * 60)) else none

theorem readOffset?_plus (cs : List Char) : readOffset? ('+' :: cs) = readSigned? 1 cs := by
  simp only [readOffset?]
  rfl

theorem readOffset?_minus (cs : List Char) : readOffset? ('-' :: cs) = readSigned? (-1) cs := by
  simp only [readOffset?]
  rfl

theorem readSigned?_eq_some_iff {cs : List Char} {sign offset : Int} :
    readSigned? sign cs = some offset ↔ ∃ hours minutes : Nat, (hours ≤ 23 ∧ minutes ≤ 59) ∧
      Zone.clock hours minutes = cs ∧ sign * (hours * 3600 + minutes * 60) = offset := by
  constructor
  · intro h
    simp only [readSigned?, Option.bind_eq_some_iff] at h
    obtain ⟨⟨hours, cs₁⟩, hh, cs₂, hcolon, ⟨minutes, cs₃⟩, hm, h⟩ := h
    obtain ⟨⟨hh23, hm59, hnil⟩, h⟩ := Option.ite_none_right_eq_some.1 h
    obtain ⟨-, rfl⟩ := (Text.takeExactly?_eq_some_iff (by decide)).1 hh
    obtain ⟨-, rfl⟩ := (Text.takeExactly?_eq_some_iff (by decide)).1 hm
    obtain rfl : cs₁ = _ := expect?_eq_some hcolon
    obtain rfl : cs₃ = [] := hnil
    exact ⟨hours, minutes, ⟨hh23, hm59⟩, by rw [Zone.clock, List.append_nil], Option.some.inj h⟩
  · rintro ⟨hours, minutes, ⟨hh23, hm59⟩, rfl, rfl⟩
    have hm := Text.takeExactly?_padded (n := minutes) (by decide : 0 < 2) (by omega) []
    rw [List.append_nil] at hm
    rw [readSigned?, Zone.clock, Text.takeExactly?_padded (by decide) (by omega),
      Option.bind_some, expect?_cons, Option.bind_some, hm, Option.bind_some,
      if_pos ⟨hh23, hm59, rfl⟩]

theorem readOffset?_eq_some_iff {cs : List Char} {offset : Int} :
    readOffset? cs = some offset ↔ ∃ z : Zone, z.Fits ∧ z.chars = cs ∧ z.seconds = offset := by
  constructor
  · intro h
    match cs with
    | [] => cases h
    | c :: cs =>
      by_cases hplus : c = '+'
      · subst hplus
        rw [readOffset?_plus] at h
        obtain ⟨hours, minutes, hfits, rfl, rfl⟩ := readSigned?_eq_some_iff.1 h
        exact ⟨.ahead hours minutes, hfits, rfl, (Int.one_mul _).symm⟩
      · by_cases hminus : c = '-'
        · subst hminus
          rw [readOffset?_minus] at h
          obtain ⟨hours, minutes, hfits, rfl, rfl⟩ := readSigned?_eq_some_iff.1 h
          exact ⟨.behind hours minutes, hfits, rfl, (Int.neg_one_mul _).symm⟩
        · unfold readOffset? at h
          split at h
          · next heq => exact ⟨.utc 'Z', .inl rfl, heq.symm, Option.some.inj h⟩
          · next heq => exact ⟨.utc 'z', .inr rfl, heq.symm, Option.some.inj h⟩
          · next heq =>
            obtain ⟨rfl, rfl⟩ := List.cons.inj heq
            rw [if_neg hplus, if_neg hminus] at h
            cases h
          · cases h
  · rintro ⟨z, hfits, rfl, rfl⟩
    cases z with
    | utc letter => rcases hfits with rfl | rfl <;> rfl
    | ahead hours minutes =>
      rw [Zone.chars, readOffset?_plus]
      exact readSigned?_eq_some_iff.2 ⟨hours, minutes, hfits, rfl, Int.one_mul _⟩
    | behind hours minutes =>
      rw [Zone.chars, readOffset?_minus]
      exact readSigned?_eq_some_iff.2 ⟨hours, minutes, hfits, rfl, Int.neg_one_mul _⟩

def fractionChars (ds : List Nat) : List Char :=
  if ds = [] then [] else '.' :: ds.map Nat.digitChar

theorem Zone.takeDigits_chars {z : Zone} (h : z.Fits) :
    Text.takeDigits z.chars = ([], z.chars) := by
  cases z with
  | utc letter => rcases h with rfl | rfl <;> rfl
  | ahead hours minutes => rfl
  | behind hours minutes => rfl

theorem readFraction?_zone {z : Zone} (h : z.Fits) :
    readFraction? z.chars = some (0, z.chars) := by
  cases z with
  | utc letter => rcases h with rfl | rfl <;> rfl
  | ahead hours minutes => rfl
  | behind hours minutes => rfl

theorem fractionNanos_nil : fractionNanos [] = 0 := by decide

theorem readFraction?_chars {ds : List Nat} (hds : ∀ d ∈ ds, d < 10) {z : Zone} (h : z.Fits) :
    readFraction? (fractionChars ds ++ z.chars) = some (fractionNanos ds, z.chars) := by
  by_cases hnil : ds = []
  · subst hnil
    rw [fractionNanos_nil]
    exact readFraction?_zone h
  · rw [fractionChars, if_neg hnil, List.cons_append]
    simp only [readFraction?, Text.takeDigits_append hds (z.takeDigits_chars h)]

theorem readFraction?_eq_some {cs rest : List Char} {nanos : Nat}
    (h : readFraction? cs = some (nanos, rest)) : ∃ ds : List Nat, (∀ d ∈ ds, d < 10) ∧
      fractionChars ds ++ rest = cs ∧ fractionNanos ds = nanos := by
  unfold readFraction? at h
  split at h
  · next cs =>
    split at h
    · cases h
    · next ds rest' hnil htake =>
      obtain ⟨rfl, hlt⟩ := Text.append_of_takeDigits htake
      obtain ⟨rfl, rfl⟩ := Prod.mk.inj (Option.some.inj h)
      exact ⟨ds, hlt, by rw [fractionChars, if_neg hnil, List.cons_append], rfl⟩
  · obtain ⟨rfl, rfl⟩ := Prod.mk.inj (Option.some.inj h)
    exact ⟨[], by simp, rfl, fractionNanos_nil⟩

structure Written where
  date : Date
  separator : Char
  hour : Nat
  minute : Nat
  second : Nat
  /-- The digits behind the point; without any there is no point. -/
  fraction : List Nat
  zone : Zone

namespace Written

def chars (w : Written) : List Char :=
  (Text.padded 4 w.date.year.toNat).toList ++ '-' ::
    ((Text.padded 2 w.date.month).toList ++ '-' ::
      ((Text.padded 2 w.date.day).toList ++ w.separator ::
        ((Text.padded 2 w.hour).toList ++ ':' ::
          ((Text.padded 2 w.minute).toList ++ ':' ::
            ((Text.padded 2 w.second).toList ++ (fractionChars w.fraction ++ w.zone.chars))))))

def minuteStart (w : Written) : Int :=
  w.date.dayNumber * secondsPerDay + w.hour * 3600 + w.minute * 60 - w.zone.seconds

/-- The instant that is meant. A leap second is the end of the second before it. -/
def instant (w : Written) : Timestamp :=
  if w.second = 60 then ⟨w.minuteStart + 59, 999999999⟩
  else ⟨w.minuteStart + w.second, fractionNanos w.fraction⟩

structure Valid (w : Written) : Prop where
  year : 0 ≤ w.date.year ∧ w.date.year ≤ lastYear
  date : w.date.isValid = true
  separator : w.separator.toNat < 128
  clock : w.hour ≤ 23 ∧ w.minute ≤ 59 ∧ w.second ≤ 60
  fraction : ∀ d ∈ w.fraction, d < 10
  zone : w.zone.Fits
  leap : w.second = 60 → w.instant.endsMonth = true

/-- The text is written so, by the rules. -/
structure Spells (w : Written) (text : String) : Prop where
  valid : w.Valid
  chars : w.chars = text.toList

end Written

theorem skipSeparator?_eq_some_iff {cs rest : List Char} :
    skipSeparator? cs = some rest ↔ ∃ c, c.toNat < 128 ∧ c :: rest = cs := by
  cases cs with
  | nil => simp [skipSeparator?]
  | cons c cs =>
    rw [skipSeparator?, Option.ite_none_right_eq_some]
    constructor
    · rintro ⟨hc, h⟩
      obtain rfl := Option.some.inj h
      exact ⟨c, hc, rfl⟩
    · rintro ⟨d, hd, h⟩
      obtain ⟨rfl, rfl⟩ := List.cons.inj h
      exact ⟨hd, rfl⟩

theorem exists_written_of_read? {text : String} {t : Timestamp} (h : read? text = some t) :
    ∃ w : Written, w.Spells text ∧ w.instant = t := by
  unfold read? at h
  obtain ⟨⟨year, cs₁⟩, hyear, h⟩ := Option.bind_eq_some_iff.1 h
  obtain ⟨cs₂, hcs₁, h⟩ := Option.bind_eq_some_iff.1 h
  obtain ⟨⟨month, cs₃⟩, hmonth, h⟩ := Option.bind_eq_some_iff.1 h
  obtain ⟨cs₄, hcs₃, h⟩ := Option.bind_eq_some_iff.1 h
  obtain ⟨⟨day, cs₅⟩, hday, h⟩ := Option.bind_eq_some_iff.1 h
  obtain ⟨cs₆, hcs₅, h⟩ := Option.bind_eq_some_iff.1 h
  obtain ⟨⟨hour, cs₇⟩, hhour, h⟩ := Option.bind_eq_some_iff.1 h
  obtain ⟨cs₈, hcs₇, h⟩ := Option.bind_eq_some_iff.1 h
  obtain ⟨⟨minute, cs₉⟩, hminute, h⟩ := Option.bind_eq_some_iff.1 h
  obtain ⟨cs₁₀, hcs₉, h⟩ := Option.bind_eq_some_iff.1 h
  obtain ⟨⟨second, cs₁₁⟩, hsecond, h⟩ := Option.bind_eq_some_iff.1 h
  obtain ⟨⟨nanos, cs₁₂⟩, hnanos, h⟩ := Option.bind_eq_some_iff.1 h
  obtain ⟨offset, hoffset, h⟩ := Option.bind_eq_some_iff.1 h
  obtain ⟨⟨hdate, hclock⟩, hread⟩ := Option.ite_none_right_eq_some.1 h
  obtain ⟨hlt, htext⟩ := (Text.takeExactly?_eq_some_iff (by decide)).1 hyear
  obtain ⟨-, rfl⟩ := (Text.takeExactly?_eq_some_iff (by decide)).1 hmonth
  obtain ⟨-, rfl⟩ := (Text.takeExactly?_eq_some_iff (by decide)).1 hday
  obtain ⟨-, rfl⟩ := (Text.takeExactly?_eq_some_iff (by decide)).1 hhour
  obtain ⟨-, rfl⟩ := (Text.takeExactly?_eq_some_iff (by decide)).1 hminute
  obtain ⟨-, rfl⟩ := (Text.takeExactly?_eq_some_iff (by decide)).1 hsecond
  obtain ⟨ds, hds, rfl, rfl⟩ := readFraction?_eq_some hnanos
  obtain ⟨z, hz, rfl, rfl⟩ := readOffset?_eq_some_iff.1 hoffset
  obtain rfl : cs₁ = _ := expect?_eq_some hcs₁
  obtain rfl : cs₃ = _ := expect?_eq_some hcs₃
  obtain ⟨c, hc, rfl⟩ := skipSeparator?_eq_some_iff.1 hcs₅
  obtain rfl : cs₇ = _ := expect?_eq_some hcs₇
  obtain rfl : cs₉ = _ := expect?_eq_some hcs₉
  let w : Written := ⟨⟨year, month, day⟩, c, hour, minute, second, ds, z⟩
  have hyear : 0 ≤ w.date.year ∧ w.date.year ≤ lastYear := by
    simp only [w, lastYear]
    omega
  by_cases hleap : second = 60
  · rw [if_pos hleap] at hread
    obtain ⟨hends, heq⟩ := Option.ite_none_right_eq_some.1 hread
    have hinstant : w.instant = t := (if_pos hleap).trans (Option.some.inj heq)
    rw [Option.some.inj heq] at hends
    exact ⟨w, ⟨⟨hyear, hdate, hc, hclock, hds, hz, fun _ => hinstant ▸ hends⟩, htext⟩, hinstant⟩
  · rw [if_neg hleap] at hread
    have hinstant : w.instant = t := (if_neg hleap).trans (Option.some.inj hread)
    exact ⟨w, ⟨⟨hyear, hdate, hc, hclock, hds, hz, fun h60 => absurd h60 hleap⟩, htext⟩, hinstant⟩

theorem Written.Spells.read?_eq {w : Written} {text : String} (h : w.Spells text) :
    read? text = some w.instant := by
  obtain ⟨hvalid, hchars⟩ := h
  obtain ⟨⟨year, month, day⟩, c, hour, minute, second, ds, z⟩ := w
  obtain ⟨⟨hy0, hy⟩, hdate, hc, hclock, hds, hz, hleap⟩ := hvalid
  obtain ⟨year, rfl⟩ := Int.eq_ofNat_of_zero_le hy0
  have hwidths : year < 10 ^ 4 ∧ month < 10 ^ 2 ∧ day < 10 ^ 2 := by
    have hday := Date.monthLength_le year month
    simp only [Date.isValid, Bool.and_eq_true, decide_eq_true_eq] at hdate
    simp only [lastYear] at hy
    omega
  have hskip (cs : List Char) : skipSeparator? (c :: cs) = some cs :=
    skipSeparator?_eq_some_iff.2 ⟨c, hc, rfl⟩
  unfold read?
  rw [← hchars]
  refine Option.bind_eq_some_iff.2 ⟨_, Text.takeExactly?_padded (by decide) hwidths.1 _, ?_⟩
  refine Option.bind_eq_some_iff.2 ⟨_, expect?_cons _ _, ?_⟩
  refine Option.bind_eq_some_iff.2 ⟨_, Text.takeExactly?_padded (by decide) hwidths.2.1 _, ?_⟩
  refine Option.bind_eq_some_iff.2 ⟨_, expect?_cons _ _, ?_⟩
  refine Option.bind_eq_some_iff.2 ⟨_, Text.takeExactly?_padded (by decide) hwidths.2.2 _, ?_⟩
  refine Option.bind_eq_some_iff.2 ⟨_, hskip _, ?_⟩
  refine Option.bind_eq_some_iff.2 ⟨_, Text.takeExactly?_padded (by decide) (by omega) _, ?_⟩
  refine Option.bind_eq_some_iff.2 ⟨_, expect?_cons _ _, ?_⟩
  refine Option.bind_eq_some_iff.2 ⟨_, Text.takeExactly?_padded (by decide) (by omega) _, ?_⟩
  refine Option.bind_eq_some_iff.2 ⟨_, expect?_cons _ _, ?_⟩
  refine Option.bind_eq_some_iff.2 ⟨_, Text.takeExactly?_padded (by decide) (by omega) _, ?_⟩
  refine Option.bind_eq_some_iff.2 ⟨_, readFraction?_chars hds hz, ?_⟩
  refine Option.bind_eq_some_iff.2 ⟨_, readOffset?_eq_some_iff.2 ⟨z, hz, rfl, rfl⟩, ?_⟩
  refine (if_pos ⟨hdate, hclock⟩).trans ?_
  by_cases h60 : second = 60
  · have hends := hleap h60
    rw [Written.instant, if_pos h60] at hends
    rw [Written.instant, if_pos h60, if_pos h60]
    exact if_pos hends
  · rw [Written.instant, if_neg h60, if_neg h60]
    rfl

/-- A text is read if it is written by the rules, and as the instant that is meant. -/
theorem read?_eq_some_iff {text : String} {t : Timestamp} :
    read? text = some t ↔ ∃ w : Written, w.Spells text ∧ w.instant = t := by
  constructor
  · exact exists_written_of_read?
  · rintro ⟨w, hw, rfl⟩
    exact hw.read?_eq

theorem dayNumber_lt_of_year_le {d : Date} (hvalid : d.isValid = true) (hyear : d.year ≤ lastYear) :
    d.dayNumber < 3652365 := by
  have hlimit : Date.dayNumber ⟨lastYear + 1, 1, 1⟩ = 3652365 := by decide
  rw [← hlimit, ← Date.year_ofDayNumber_lt_iff, Date.ofDayNumber_dayNumber hvalid]
  exact Int.lt_add_one_of_le hyear

theorem Zone.Fits.bounds {z : Zone} (h : z.Fits) : -86400 < z.seconds ∧ z.seconds < 86400 := by
  cases z with
  | utc letter =>
    simp only [Zone.seconds]
    omega
  | ahead hours minutes =>
    obtain ⟨hh, hm⟩ := h
    simp only [Zone.seconds]
    omega
  | behind hours minutes =>
    obtain ⟨hh, hm⟩ := h
    simp only [Zone.seconds]
    omega

theorem Written.Valid.instant_lt {w : Written} (h : w.Valid) :
    w.instant.seconds < (w.date.dayNumber + 2) * secondsPerDay := by
  have hzone := h.zone.bounds
  have hclock := h.clock
  have hstart : w.minuteStart + 60 ≤ (w.date.dayNumber + 2) * secondsPerDay := by
    simp only [minuteStart, secondsPerDay]
    omega
  unfold instant
  split
  · dsimp only
    omega
  · dsimp only
    omega

end Timestamp

end RunWatch
