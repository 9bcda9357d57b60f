import Mathlib.Algebra.Group.Int.Defs
import RunWatch.Countdown
import RunWatch.Proofs.Order
import RunWatch.Proofs.Written
import RunWatch.Safety
import RunWatch.Span
/-!
The countdown of a cooldown from one instant to a later one. The seconds left are never negative and
never grow, although they are put together from two numbers that are rounded. Main statement: so it
is, and the text that is shown is one of a span that does not grow either; it is the number of whole
seconds, and from an hour on the number of whole minutes.
-/
set_option autoImplicit false

namespace RunWatch

namespace Span

theorem word?_of_lt {n : Nat} (h : n < UInt64.size) : word? n = some n := if_pos h

def letters : List Char := ['h', 'm', 's']

variable {c : Char} {rest : List Char}

theorem letter_cases (hc : c ∈ letters) : c = 'h' ∨ c = 'm' ∨ c = 's' := by
  simpa [letters] using hc

theorem isUnitChar_of_mem (hc : c ∈ letters) : isUnitChar c = true := by
  rcases letter_cases hc with rfl | rfl | rfl <;> decide

theorem takeNumber?_append (hc : c ∈ letters) {ds : List Nat} (hds : ∀ d ∈ ds, d < 10) {n : Nat}
    (hfit : ds.foldl (fun n d => 10 * n + d) n < UInt64.size) :
    takeNumber? n (ds.map Nat.digitChar ++ c :: rest) =
      some (ds.foldl (fun n d => 10 * n + d) n, c :: rest) := by
  induction ds generalizing n with
  | nil =>
    have hletter : Text.digit? c = none ∧ Text.isBlank c = false := by
      rcases letter_cases hc with rfl | rfl | rfl <;> decide
    simp [takeNumber?, hletter, isUnitChar_of_mem hc]
  | cons d ds ih =>
    rw [List.foldl_cons] at hfit ⊢
    have hword := word?_of_lt (Nat.lt_of_le_of_lt (Text.le_foldl_digits ds (10 * n + d)) hfit)
    have hdigit := Text.digit?_digitChar (hds d List.mem_cons_self)
    simp only [List.map_cons, List.cons_append, takeNumber?, hdigit, hword, Option.bind_some]
    exact ih (fun e he => hds e (List.mem_cons_of_mem d he)) hfit

theorem step_some {α : Type} (a : α) : step (some a) = .ok a := rfl

theorem ok_bind {α β : Type} (a : α) (f : α → Reading β) : (Except.ok a >>= f) = f a := rfl

theorem nanosPerSecond_pos : 0 < nanosPerSecond := by decide

theorem wholeSeconds_ofSeconds (a : Nat) : (ofSeconds a).wholeSeconds = a := by
  simp only [wholeSeconds, ofSeconds, Nat.mul_div_cancel a nanosPerSecond_pos]

theorem subsecondNanos_ofSeconds (a : Nat) : (ofSeconds a).subsecondNanos = 0 := by
  simp only [subsecondNanos, ofSeconds, Nat.mul_mod_left]

theorem add_ofSeconds {a b : Nat} (h : a + b < UInt64.size) :
    (ofSeconds a).add b 0 = .ok (ofSeconds (a + b)) := by
  have hzero : word? 0 = some 0 := word?_of_lt (by decide)
  have hne : 0 ≠ nanosPerSecond := Nat.ne_of_lt nanosPerSecond_pos
  unfold add
  rw [wholeSeconds_ofSeconds, subsecondNanos_ofSeconds, Nat.add_zero, hzero, word?_of_lt h,
    step_some, step_some, ok_bind, ok_bind, if_neg hne, Nat.zero_div, Nat.add_zero, word?_of_lt h,
    step_some, ok_bind, Nat.zero_mod, Nat.add_zero, ofSeconds]

/-- A unit with a letter, and the seconds in it. -/
def Lasts (c : Char) (k : Nat) : Prop :=
  0 < k ∧ ∃ u, unit? (String.ofList [c]) = some u ∧ u.whole = .seconds k

theorem readPart_whole {a n k : Nat} (hc : c ∈ letters) (hk : Lasts c k)
    (hrest : rest = [] ∨ ∃ cs, rest = ' ' :: cs) (hfit : a + n * k < UInt64.size) :
    readPart (ofSeconds a) ((toString n).toList ++ c :: rest) =
      .ok (ofSeconds (a + n * k), rest) := by
  obtain ⟨hpos, u, hunit, hwhole⟩ := hk
  obtain ⟨ds, hds, -, hlt, hvalue⟩ := Text.digits_toString n
  have hn : n < UInt64.size := by
    have := Nat.le_mul_of_pos_right n hpos
    omega
  have hnumber : takeNumber? 0 ((toString n).toList ++ c :: rest) = some (n, c :: rest) := by
    rw [← hvalue] at hn
    rw [hds, takeNumber?_append hc hlt hn]
    exact congrArg (fun n => some (n, c :: rest)) hvalue
  have hends : takeUnit? rest = some ([], rest) := by
    rcases hrest with rfl | ⟨cs, rfl⟩ <;> rfl
  have hname : takeUnit? (c :: rest) = some ([c], rest) := by
    have hletter := isUnitChar_of_mem hc
    simp [takeUnit?, hletter, hends]
  have hpoint : c ≠ '.' := by
    rintro rfl
    exact absurd hc (by decide)
  have hmeasure : (ofSeconds a).addMeasure n 1 u.whole = .ok (ofSeconds (a + n * k)) := by
    have hword : word? (n * k) = some (n * k) := word?_of_lt (by omega)
    rw [hwhole, addMeasure, hword, step_some, ok_bind, if_pos (Nat.mod_one _), Nat.div_one,
      add_ofSeconds hfit]
  unfold readPart
  rw [hnumber, step_some, ok_bind]
  dsimp only
  split
  · next heq => exact absurd (List.cons.inj heq).1 hpoint
  · rw [step_some, ok_bind, hname, step_some, ok_bind, hunit, step_some, ok_bind, hmeasure,
      ok_bind, if_pos rfl]

theorem readParts_step {a n k : Nat} (hc : c ∈ letters) (hk : Lasts c k) {cs : List Char}
    (hcs : Text.dropBlanks cs = (toString n).toList ++ c :: rest)
    (hrest : rest = [] ∨ ∃ cs, rest = ' ' :: cs) (hfit : a + n * k < UInt64.size) :
    readParts (ofSeconds a) cs = readParts (ofSeconds (a + n * k)) rest := by
  have hpart := readPart_whole hc hk hrest hfit
  obtain ⟨ds, hds, hne, hlt, -⟩ := Text.digits_toString n
  have hlength : rest.length < cs.length := by
    have hle := Text.dropBlanks_length_le cs
    simp only [hcs, List.length_append, List.length_cons] at hle
    omega
  match ds, hne with
  | d :: ds, _ =>
    have hdigit : Text.isDigit (Nat.digitChar d) = true := by
      rw [Text.isDigit, Text.digit?_digitChar (hlt d List.mem_cons_self)]
      rfl
    rw [hds, List.map_cons, List.cons_append] at hpart hcs
    rw [readParts, hcs]
    simp only [hdigit, if_true, hpart, hlength]

theorem readParts_nil (s : Span) : readParts s [] = .ok s := by
  rw [readParts]
  rfl

theorem isBlank_digitChar {d : Nat} (h : d < 10) : Text.isBlank (Nat.digitChar d) = false := by
  revert d
  decide

theorem dropBlanks_toString (n : Nat) (cs : List Char) :
    Text.dropBlanks ((toString n).toList ++ cs) = (toString n).toList ++ cs := by
  obtain ⟨ds, hds, hne, hlt, -⟩ := Text.digits_toString n
  match ds, hne with
  | d :: ds, _ =>
    have hblank := isBlank_digitChar (hlt d List.mem_cons_self)
    rw [hds, List.map_cons, List.cons_append, Text.dropBlanks,
      List.dropWhile_cons_of_neg (by simp [hblank])]

theorem read_step {text : String} {n k : Nat} (hc : c ∈ letters) (hk : Lasts c k)
    (htext : text.toList = (toString n).toList ++ c :: rest)
    (hrest : rest = [] ∨ ∃ cs, rest = ' ' :: cs) (hfit : n * k < UInt64.size) :
    read text = readParts (ofSeconds (n * k)) rest := by
  have hdrop := dropBlanks_toString n (c :: rest)
  have hzero : text ≠ "0" := by
    rintro rfl
    have hmem : c ∈ "0".toList := htext ▸ List.mem_append_right _ List.mem_cons_self
    obtain rfl : c = '0' := by simpa using hmem
    exact absurd hc (by decide)
  have hsome : Text.dropBlanks text.toList ≠ [] := by
    rw [htext, hdrop]
    simp
  have hstep := readParts_step (a := 0) hc hk hdrop hrest (by omega)
  rw [Nat.zero_add] at hstep
  rw [read, if_neg hzero, if_neg hsome, htext]
  exact hstep

theorem lasts_hour : Lasts 'h' 3600 := ⟨by decide, _, rfl, rfl⟩

theorem lasts_minute : Lasts 'm' 60 := ⟨by decide, _, rfl, rfl⟩

theorem lasts_second : Lasts 's' 1 := ⟨by decide, _, rfl, rfl⟩

end Span

namespace Countdown

/-- The seconds that a text shows: from an hour on whole minutes. -/
def shown (n : Nat) : Nat := if 3600 ≤ n then n / 60 * 60 else n

theorem shown_mono {m n : Nat} (h : m ≤ n) : shown m ≤ shown n := by
  unfold shown
  split <;> split <;> omega

theorem read_two {m n j k : Nat} {c d : Char} {between last : String} (hc : c ∈ Span.letters)
    (hj : Span.Lasts c j) (hd : d ∈ Span.letters) (hk : Span.Lasts d k)
    (hbetween : between.toList = [c, ' ']) (hlast : last.toList = [d])
    (hfit : m * j + n * k < UInt64.size) :
    Span.read (toString m ++ between ++ toString n ++ last) =
      .ok (Span.ofSeconds (m * j + n * k)) := by
  have htext : (toString m ++ between ++ toString n ++ last).toList =
      (toString m).toList ++ c :: ' ' :: ((toString n).toList ++ [d]) := by
    simp only [String.toList_append, hbetween, hlast, List.append_assoc, List.cons_append,
      List.nil_append]
  have hblank : Text.dropBlanks (' ' :: ((toString n).toList ++ [d])) =
      (toString n).toList ++ [d] :=
    (List.dropWhile_cons_of_pos (by decide)).trans (Span.dropBlanks_toString n [d])
  rw [Span.read_step hc hj htext (.inr ⟨_, rfl⟩) (by omega),
    Span.readParts_step hd hk hblank (.inl rfl) hfit, Span.readParts_nil]

/-- The text of a number of seconds is read back as what it shows. -/
theorem read_textOfSeconds {n : Nat} (h : n < UInt64.size) :
    Span.read (textOfSeconds n) = .ok (Span.ofSeconds (shown n)) := by
  unfold textOfSeconds shown
  split
  · have hsum : n / 3600 * 3600 + n % 3600 / 60 * 60 = n / 60 * 60 := by omega
    rw [← hsum]
    exact read_two (by decide) Span.lasts_hour (by decide) Span.lasts_minute rfl rfl (by omega)
  · split
    · have hsum : n / 60 * 60 + n % 60 * 1 = n := by omega
      have hread : Span.read (toString (n / 60) ++ "m " ++ toString (n % 60) ++ "s") =
          .ok (Span.ofSeconds (n / 60 * 60 + n % 60 * 1)) :=
        read_two (by decide) Span.lasts_minute (by decide) Span.lasts_second rfl rfl (by omega)
      rwa [hsum] at hread
    · have htext : (toString n ++ "s").toList = (toString n).toList ++ ['s'] :=
        String.toList_append
      rw [Span.read_step (by decide) Span.lasts_second htext (.inl rfl) (by omega),
        Span.readParts_nil, Nat.mul_one]

/-- How a number of seconds is written. -/
inductive Form : Nat → String → Prop where
  | hours {n h m : Nat} (hn : 3600 ≤ n) (hm : m < 60) :
      Form n (toString h ++ "h " ++ toString m ++ "m")
  | minutes {n m s : Nat} (hn : 60 ≤ n ∧ n < 3600) (hm : m < 60) (hs : s < 60) :
      Form n (toString m ++ "m " ++ toString s ++ "s")
  | seconds {n s : Nat} (hn : n < 60) (hs : s < 60) : Form n (toString s ++ "s")

theorem form_textOfSeconds (n : Nat) : Form n (textOfSeconds n) := by
  unfold textOfSeconds
  split
  · exact .hours (by omega) (by omega)
  · split
    · exact .minutes (by omega) (by omega) (by omega)
    · exact .seconds (by omega) (by omega)

theorem wholeSeconds_finite {u : Nat} (h : u / Binary64.unitsPerOne < UInt64.size) :
    wholeSeconds (.finite false u) = u / Binary64.unitsPerOne := by
  rw [wholeSeconds, Binary64.toNatBelow_finite]
  exact (if_pos rfl).trans (by omega)

theorem wholeSeconds_lt (x : Binary64) : wholeSeconds x < UInt64.size := by
  unfold wholeSeconds
  split
  · exact Binary64.toNatBelow_lt (by decide) x
  · decide

theorem wholeSeconds_of_le_zero {x : Binary64} (h : x ≤ .zero) : wholeSeconds x = 0 := by
  cases x with
  | finite s u =>
    rcases Binary64.finite_le_zero_iff.1 h with rfl | rfl
    · rfl
    · cases s with
      | true => rfl
      | false =>
        rw [wholeSeconds_finite (by rw [Nat.zero_div]; decide), Nat.zero_div]
  | _ => rfl

theorem wholeSeconds_mono {u v : Nat} (h : u ≤ v) :
    wholeSeconds (.finite false u) ≤ wholeSeconds (.finite false v) := by
  have hquot : u / Binary64.unitsPerOne ≤ v / Binary64.unitsPerOne := Nat.div_le_div_right h
  change min _ _ ≤ min _ _
  omega

end Countdown

namespace Timestamp

/-- An instant that a clock can give: of the years from -9999 to 9999, by a clock that is less than
26 hours ahead of UTC or behind it. -/
structure OnClock (t : Timestamp) : Prop where
  nanos : t.nanos < 1000000000
  year : ∃ ahead : Int, ahead.natAbs < 26 * 3600 ∧
    -lastYear ≤ (⟨t.seconds + ahead, t.nanos⟩ : Timestamp).date.year ∧
    (⟨t.seconds + ahead, t.nanos⟩ : Timestamp).date.year ≤ lastYear

theorem OnClock.lt_seconds {t : Timestamp} (h : t.OnClock) : -(2 ^ 40) < t.seconds := by
  obtain ⟨ahead, hahead, hyear, -⟩ := h.year
  have hfirst : Date.dayNumber ⟨-lastYear, 1, 1⟩ = -3652119 := by decide
  rw [← Int.not_lt, date, Date.year_ofDayNumber_lt_iff, hfirst] at hyear
  simp only [secondsPerDay] at hyear
  omega

theorem fractionNanos_lt {ds : List Nat} (h : ∀ d ∈ ds, d < 10) :
    fractionNanos ds < 1000000000 := by
  have hlength : ((ds ++ List.replicate 9 0).take 9).length = 9 := by
    rw [List.length_take, List.length_append, List.length_replicate]
    omega
  have hlt : ∀ d ∈ (ds ++ List.replicate 9 0).take 9, d < 10 := by
    intro d hd
    rcases List.mem_append.1 (List.mem_of_mem_take hd) with hd | hd
    · exact h d hd
    · rw [(List.mem_replicate.1 hd).2]
      decide
  have hvalue := Text.ofDigits_lt hlt
  rwa [hlength] at hvalue

theorem read?_bounds {text : String} {t : Timestamp} (h : read? text = some t) :
    t.seconds < 2 ^ 40 ∧ t.nanos < 1000000000 := by
  obtain ⟨w, ⟨hvalid, -⟩, rfl⟩ := read?_eq_some_iff.1 h
  have hday := dayNumber_lt_of_year_le hvalid.date hvalid.year.2
  have hlt := hvalid.instant_lt
  simp only [secondsPerDay] at hlt
  refine ⟨by omega, ?_⟩
  unfold Written.instant
  split
  · exact (by decide : 999999999 < 1000000000)
  · exact fractionNanos_lt hvalid.fraction

end Timestamp

namespace SafetyState

open Binary64

def secondUnits (n : Nat) : Nat :=
  roundUnits (n / 1000000000 * unitsPerOne +
    roundUnits (n % 1000000000 * unitsPerOne * unitsPerOne) (1000000000 * unitsPerOne)) 1

theorem ofNat_billion : ofNat 1000000000 = .finite false (1000000000 * unitsPerOne) :=
  ofInt_natCast (n := 1000000000) (by decide)

theorem roundUnits_part_le {r : Nat} (h : r ≤ 1000000000) :
    roundUnits (r * unitsPerOne * unitsPerOne) (1000000000 * unitsPerOne) ≤ unitsPerOne :=
  roundUnits_le_of_le (Nat.mul_pos (by decide) unitsPerOne_pos) (by decide +kernel)
    (by
      rw [Nat.mul_comm unitsPerOne (1000000000 * unitsPerOne)]
      exact Nat.mul_le_mul_right _ (Nat.mul_le_mul_right _ h))

theorem secondUnits_mono {m n : Nat} (h : m ≤ n) : secondUnits m ≤ secondUnits n := by
  have hpart := roundUnits_part_le (Nat.le_of_lt (Nat.mod_lt m (by decide : 0 < 1000000000)))
  refine roundUnits_mono Nat.one_pos ?_
  have hquot : m / 1000000000 ≤ n / 1000000000 := Nat.div_le_div_right h
  rcases Nat.lt_or_eq_of_le hquot with hlt | heq
  · have hstep := Nat.mul_le_mul_right unitsPerOne (Nat.succ_le_of_lt hlt)
    rw [Nat.succ_mul] at hstep
    omega
  · have hrest : m % 1000000000 ≤ n % 1000000000 := by omega
    have hround := roundUnits_mono (Nat.mul_pos (by decide : 0 < 1000000000) unitsPerOne_pos)
      (Nat.mul_le_mul_right unitsPerOne (Nat.mul_le_mul_right unitsPerOne hrest))
    rw [heq]
    omega

theorem secondsOfNanos_natCast {n : Nat} (h : n < 2 ^ 53 * 1000000000) :
    secondsOfNanos n = .finite false (secondUnits n) := by
  have hwhole : ofInt ((n : Int).tdiv 1000000000) =
      .finite false (n / 1000000000 * unitsPerOne) :=
    ofInt_natCast (n := n / 1000000000) (by omega)
  have hrest : ofInt ((n : Int).tmod 1000000000) =
      .finite false (n % 1000000000 * unitsPerOne) :=
    ofInt_natCast (n := n % 1000000000) (by omega)
  have hpart := roundUnits_part_le (Nat.le_of_lt (Nat.mod_lt n (by decide : 0 < 1000000000)))
  have hdiv : (Binary64.finite false (n % 1000000000 * unitsPerOne)).div (ofNat 1000000000) =
      .finite false (roundUnits (n % 1000000000 * unitsPerOne * unitsPerOne)
        (1000000000 * unitsPerOne)) := by
    have hne : 1000000000 * unitsPerOne ≠ 0 :=
      Nat.ne_of_gt (Nat.mul_pos (by decide) unitsPerOne_pos)
    rw [ofNat_billion, div, if_neg hne]
    exact ofUnits_finite _ (Nat.lt_of_le_of_lt hpart (by decide +kernel))
  rw [secondsOfNanos, hwhole, hrest, hdiv, add_finite_false]
  refine ofUnits_finite _ (Nat.lt_of_le_of_lt (roundUnits_le_double _) ?_)
  have hlimit : 2 * ((2 ^ 53 + 1) * unitsPerOne) < unitsLimit := by decide +kernel
  have hquot : n / 1000000000 * unitsPerOne ≤ 2 ^ 53 * unitsPerOne :=
    Nat.mul_le_mul_right _ (by omega)
  rw [Nat.succ_mul] at hlimit
  omega

theorem secondsOfNanos_le_zero {n : Int} (h : n ≤ 0) : secondsOfNanos n ≤ zero := by
  have hquot := Int.tdiv_eq_ediv_of_nonneg (a := -n) (b := 1000000000) (by omega)
  have hmod := Int.tmod_eq_emod_of_nonneg (a := -n) (b := 1000000000) (by omega)
  rw [Int.neg_tdiv] at hquot
  rw [Int.neg_tmod] at hmod
  have hwhole : n.tdiv 1000000000 ≤ 0 := by omega
  have hrest : n.tmod 1000000000 ≤ 0 := by omega
  refine add_le_zero (ofInt_le_zero hwhole) ?_
  rw [ofNat_billion]
  exact div_le_zero (ofInt_le_zero hrest) (Nat.mul_pos (by decide) unitsPerOne_pos)

theorem secondUnits_zero : secondUnits 0 = 0 := by
  rw [secondUnits, Nat.zero_div, Nat.zero_mod, Nat.zero_mul, Nat.zero_mul, roundUnits_zero,
    roundUnits_zero]

theorem atLeastZero_secondsOfNanos {n : Int} (h : n < 2 ^ 53 * 1000000000) :
    (secondsOfNanos n).atLeastZero = .finite false (secondUnits n.toNat) := by
  rcases Int.le_total n 0 with hle | hge
  · rw [atLeastZero_of_le_zero (secondsOfNanos_le_zero hle), Int.toNat_of_nonpos hle,
      secondUnits_zero, zero]
  · obtain ⟨n, rfl⟩ := Int.eq_ofNat_of_zero_le hge
    rw [secondsOfNanos_natCast (by omega), Int.toNat_natCast]
    rfl

/-- As units, the seconds left are fewer at the later of two instants. -/
theorem remainingAt_units (s : SafetyState) {t₁ t₂ : Timestamp} (h₁ : t₁.OnClock)
    (h : 0 ≤ t₂.nanosSince t₁) : ∃ u v, s.remainingAt t₁ = .finite false v ∧
      s.remainingAt t₂ = .finite false u ∧ u ≤ v := by
  unfold remainingAt
  split
  · cases hstop : s.cooldownUntil.bind Timestamp.read? with
    | none =>
      have hof := ofNat_of_lt_size (UInt64.toNat_lt_size s.remainingSeconds)
      exact ⟨_, _, hof, hof, Nat.le_refl _⟩
    | some stop =>
      obtain ⟨text, -, hread⟩ := Option.bind_eq_some_iff.1 hstop
      have hbounds := Timestamp.read?_bounds hread
      have hle : stop.nanosSince t₂ ≤ stop.nanosSince t₁ := Timestamp.nanosSince_le h
      have hfits : stop.nanosSince t₁ < 2 ^ 53 * 1000000000 := by
        have hfirst := h₁.lt_seconds
        simp only [Timestamp.nanosSince]
        omega
      exact ⟨_, _, atLeastZero_secondsOfNanos hfits,
        atLeastZero_secondsOfNanos (Int.lt_of_le_of_lt hle hfits),
        secondUnits_mono (Int.toNat_le_toNat hle)⟩
  · exact ⟨0, 0, rfl, rfl, Nat.le_refl 0⟩

/-- From one instant to a later one the seconds left do not become more, and never fewer than none;
the texts that are shown are of spans in the same order. The text of a number of seconds is written
with at most two units, minutes and seconds are below 60 in it, and it is read back as the whole
seconds, from an hour on as the whole minutes. For what is not finite or not positive it is the text
of zero. -/
theorem countdown_never_runs_backwards (raw : Json) {t₁ t₂ : Timestamp} (h₁ : t₁.OnClock)
    (h : 0 ≤ t₂.nanosSince t₁) :
    (zero ≤ (normalize raw).remainingAt t₂ ∧
      (normalize raw).remainingAt t₂ ≤ (normalize raw).remainingAt t₁) ∧
    (∃ d₁ d₂ : Span, Span.read (Countdown.text ((normalize raw).remainingAt t₁)) = .ok d₁ ∧
      Span.read (Countdown.text ((normalize raw).remainingAt t₂)) = .ok d₂ ∧
      d₂.nanos ≤ d₁.nanos) ∧
    (∀ u n, u / unitsPerOne = n → n < 2 ^ 64 →
      Countdown.Form n (Countdown.text (.finite false u)) ∧
      Span.read (Countdown.text (.finite false u)) = .ok (Span.ofSeconds (Countdown.shown n))) ∧
    ∀ x, x.isFinite = false ∨ x ≤ zero → Countdown.text x = Countdown.textOfSeconds 0 := by
  obtain ⟨u, v, hv, hu, hle⟩ := remainingAt_units (normalize raw) h₁ h
  refine ⟨?order, ?texts, ?text, ?nothing⟩
  case order =>
    rw [hu, hv]
    exact ⟨finite_le_finite.2 (by simp [signedUnits]),
      finite_le_finite.2 (Int.ofNat_le.2 hle)⟩
  case texts =>
    rw [hu, hv]
    refine ⟨_, _, Countdown.read_textOfSeconds (Countdown.wholeSeconds_lt _),
      Countdown.read_textOfSeconds (Countdown.wholeSeconds_lt _), ?_⟩
    exact Nat.mul_le_mul_right _ (Countdown.shown_mono (Countdown.wholeSeconds_mono hle))
  case text =>
    rintro u n rfl hn
    rw [Countdown.text, Countdown.wholeSeconds_finite hn]
    exact ⟨Countdown.form_textOfSeconds _, Countdown.read_textOfSeconds hn⟩
  case nothing =>
    rintro x (hx | hx)
    · rw [Countdown.text, Countdown.wholeSeconds, hx]
      rfl
    · rw [Countdown.text, Countdown.wholeSeconds_of_le_zero hx]

/-- A cooldown that ends at midnight in UTC, by a clock that is an hour ahead. -/
def midnightPayload : Json := .object [
  ("cooldown_active", .bool true),
  ("cooldown_until", .string "2026-01-01T01:00:00+01:00")]

def eveningBefore : Timestamp := ⟨63929257200, 300000000⟩

def lastMinute : Timestamp := ⟨63929260739, 999999999⟩

theorem eveningBefore_onClock : eveningBefore.OnClock :=
  ⟨by decide, 0, by decide, by decide, by decide⟩

theorem countdown_before_midnight :
    (normalize midnightPayload).remainingAt lastMinute ≤
      (normalize midnightPayload).remainingAt eveningBefore ∧
    Countdown.text ((normalize midnightPayload).remainingAt eveningBefore) = "59m 59s" ∧
    Countdown.text ((normalize midnightPayload).remainingAt lastMinute) = "1m 0s" := by
  have hlater : 0 ≤ lastMinute.nanosSince eveningBefore := by decide
  obtain ⟨⟨-, horder⟩, -⟩ :=
    countdown_never_runs_backwards midnightPayload eveningBefore_onClock hlater
  refine ⟨horder, ?_, ?_⟩ <;> decide +kernel

end SafetyState

end RunWatch
