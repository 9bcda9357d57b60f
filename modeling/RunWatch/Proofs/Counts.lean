import RunWatch.Proofs.Classification
import RunWatch.Proofs.Normalization
/-!
What becomes of a whole number that a payload gives as a count, be it as a number or as text between
blanks. Each field of a safety state that holds a count is read in the same way, through a binary64
number. Main statement: the field holds the number rounded to 53 digits and cut down to 64 bits, so
that a number comes through if it has no more digits or is the greatest there is, and else does not.
-/
set_option autoImplicit false

namespace RunWatch

namespace Binary64

variable {cs : List Char}

theorem takeSign_of_isDigit (h : ∀ c ∈ cs, c.isDigit = true) : takeSign cs = (false, cs) := by
  unfold takeSign
  split
  · exact absurd (h '-' List.mem_cons_self) (by decide)
  · exact absurd (h '+' List.mem_cons_self) (by decide)
  · rfl

theorem toLower_of_isDigit {c : Char} (h : c.isDigit = true) : c.toLower = c := by
  have hrange : 48 ≤ c.val.toNat ∧ c.val.toNat ≤ 57 := by
    simpa [Char.isDigit, UInt32.le_iff_toNat_le] using h
  have hupper : ¬ (65 ≤ c.val ∧ c.val ≤ 90) := by
    simp only [UInt32.le_iff_toNat_le, UInt32.reduceToNat]
    omega
  exact dif_neg hupper

theorem ofList_toLower_ne (h : ∀ c ∈ cs, c.isDigit = true) {word : String}
    (hword : ∃ w ∈ word.toList, w.isDigit = false) :
    String.ofList (cs.map Char.toLower) ≠ word := by
  have hsame : cs.map Char.toLower = cs :=
    List.map_congr_left (fun c hc => toLower_of_isDigit (h c hc)) |>.trans (List.map_id' cs)
  rintro rfl
  obtain ⟨w, hw, hdigit⟩ := hword
  rw [hsame, String.toList_ofList] at hw
  rw [h w hw] at hdigit
  cases hdigit

theorem ofDecimal_zero (n : Nat) : ofDecimal false n 0 = ofNat n := by
  by_cases h : n = 0
  · subst h
    decide +kernel
  · have hsize : ¬ (0 + ((toString n).length : Int) < -400) := by omega
    simp only [ofDecimal, h, hsize, if_false]
    simp [ofNat]

theorem read?_toDigits (n : Nat) : read? (String.ofList (Nat.toDigits 10 n)) = some (ofNat n) := by
  have hdigits : ∀ c ∈ Nat.toDigits 10 n, c.isDigit = true := fun _ hc =>
    Nat.isDigit_of_mem_toDigits (by decide) (by decide) hc
  obtain ⟨ds, htake, hne, hvalue⟩ := Text.takeDigits_toDigits n
  have hinf : String.ofList ((Nat.toDigits 10 n).map Char.toLower) ≠ "inf" :=
    ofList_toLower_ne hdigits ⟨'i', by decide, rfl⟩
  have hinfinity : String.ofList ((Nat.toDigits 10 n).map Char.toLower) ≠ "infinity" :=
    ofList_toLower_ne hdigits ⟨'i', by decide, rfl⟩
  have hnan : String.ofList ((Nat.toDigits 10 n).map Char.toLower) ≠ "nan" :=
    ofList_toLower_ne hdigits ⟨'n', by decide, rfl⟩
  simp [read?, takeSign_of_isDigit hdigits, hinf, hinfinity, hnan, readNumeral?, htake, hne,
    readExponent?, hvalue, ofDecimal_zero]

end Binary64

namespace SafetyState

inductive CountField where
  | remainingSeconds
  | consecutiveBlockedRuns
  | consecutiveNetworkRuns
  | cooldownEntries
  | blockedStarts
  | lastBlockedFailures
  | lastNetworkFailures
  | lastEvaluatedRun
  deriving DecidableEq, Repr

namespace CountField

def place : CountField → List String
  | remainingSeconds => ["cooldown_remaining_seconds"]
  | consecutiveBlockedRuns => ["counters", "consecutive_blocked_runs"]
  | consecutiveNetworkRuns => ["counters", "consecutive_network_runs"]
  | cooldownEntries => ["counters", "cooldown_entry_count"]
  | blockedStarts => ["counters", "blocked_start_count"]
  | lastBlockedFailures => ["counters", "last_blocked_failure_count"]
  | lastNetworkFailures => ["counters", "last_network_failure_count"]
  | lastEvaluatedRun => ["counters", "last_evaluated_run_id"]

def held (s : SafetyState) : CountField → Option UInt64
  | remainingSeconds => some s.remainingSeconds
  | consecutiveBlockedRuns => some s.counters.consecutiveBlockedRuns
  | consecutiveNetworkRuns => some s.counters.consecutiveNetworkRuns
  | cooldownEntries => some s.counters.cooldownEntries
  | blockedStarts => some s.counters.blockedStarts
  | lastBlockedFailures => some s.counters.lastBlockedFailures
  | lastNetworkFailures => some s.counters.lastNetworkFailures
  | lastEvaluatedRun => s.counters.lastEvaluatedRun

end CountField

/-- The values that stand for a whole number: the number, and its digits between blanks. -/
inductive Gives (n : Nat) : Json → Prop where
  | number (w : UInt64) (h : w.toNat = n) : Gives n (.natural w)
  | text (before after : List Char) (hb : ∀ c ∈ before, Text.isBlank c = true)
      (ha : ∀ c ∈ after, Text.isBlank c = true) :
      Gives n (.string (String.ofList (before ++ (toString n).toList ++ after)))

variable {raw v : Json} {n : Nat}

theorem Gives.ne_null (h : Gives n v) : v ≠ .null := by
  cases h <;> simp

theorem Gives.number? (h : Gives n v) (hn : n < UInt64.size) :
    number? (some v) = some (Binary64.ofNat n) := by
  have hfinite : (Binary64.ofNat n).isFinite := by
    rw [Binary64.ofNat_of_lt_size hn]
    rfl
  cases h with
  | number w h =>
    subst h
    exact number?_natural hfinite
  | text before after hb ha =>
    have hdigits : ∀ c ∈ Nat.toDigits 10 n, Text.isBlank c = false := fun _ hc =>
      Text.isBlank_of_isDigit (Nat.isDigit_of_mem_toDigits (by decide) (by decide) hc)
    have htrim : Text.trim (String.ofList (before ++ (toString n).toList ++ after)) =
        String.ofList (Nat.toDigits 10 n) := by
      simp only [Text.trim, String.toList_ofList, Nat.toString_eq_ofList_toDigits,
        Text.trimChars_between hb hdigits ha]
    simp only [SafetyState.number?, htrim, Binary64.read?_toDigits, Option.filter_some, hfinite,
      if_true]

theorem runId?_of_ne_null (h : v ≠ .null) : runId? (some v) = some (count (some v)) := by
  cases v with
  | null => exact absurd rfl h
  | _ => rfl

theorem lookup_counters (key : String) (entries : Json.Entries) :
    Json.lookup key (((Json.lookup "counters" entries).bind Json.entries?).getD []) =
      (Json.object entries).at? ["counters", key] := by
  simp only [Json.at?, Json.member?]
  cases Json.lookup "counters" entries with
  | none => rfl
  | some w => cases w <;> simp [Json.entries?]

/-- All fields are read in the same way, but for a null. -/
theorem held_normalize {f : CountField} (hplace : raw.at? f.place = some v) (hv : v ≠ .null) :
    f.held (normalize raw) = some (count (some v)) := by
  cases raw with
  | object entries =>
    cases f with
    | remainingSeconds =>
      have hlookup : Json.lookup "cooldown_remaining_seconds" entries = some v := by
        simpa [CountField.place, Json.at?, Json.member?] using hplace
      simp [CountField.held, normalize, hlookup]
    | lastEvaluatedRun =>
      rw [CountField.place, ← lookup_counters] at hplace
      simp [CountField.held, normalize, readCounters, hplace, runId?_of_ne_null hv]
    | _ =>
      rw [CountField.place, ← lookup_counters] at hplace
      simp [CountField.held, normalize, readCounters, hplace]
  | _ => cases f <;> cases hplace

/-- What comes of a whole number of 64 bits in a field that holds a count: the number rounded to 53
digits, and the greatest number of 64 bits in place of what is too large. -/
theorem held_eq_rounded {f : CountField} (hn : n < UInt64.size) (hplace : raw.at? f.place = some v)
    (hgives : Gives n v) : ∃ w, f.held (normalize raw) = some w ∧
      w.toNat = min (Binary64.roundUnits n 1) (UInt64.size - 1) := by
  refine ⟨_, held_normalize hplace hgives.ne_null, ?_⟩
  rw [toNat_count, hgives.number? hn, Option.getD_some, Binary64.toNatBelow_ofNat hn]

/-- A whole number of 64 bits comes through as a count exactly if what follows its first 53 binary
digits is zero, or it is the greatest one. Any other is replaced by a number of this kind, which is
off by half a unit of the last digit that is kept at most. -/
theorem counts_keep_53_digits {f : CountField} (hn : n < 2 ^ 64) (hplace : raw.at? f.place = some v)
    (hgives : Gives n v) : ∃ w, f.held (normalize raw) = some w ∧
      (w.toNat = n ↔ 2 ^ (n.log2 - 52) ∣ n ∨ n = 2 ^ 64 - 1) ∧
      (2 ^ (w.toNat.log2 - 52) ∣ w.toNat ∨ w.toNat = 2 ^ 64 - 1) ∧
      2 * ((w.toNat : Int) - n).natAbs ≤ 2 ^ (n.log2 - 52) := by
  obtain ⟨w, hheld, hw⟩ := held_eq_rounded hn hplace hgives
  have hnear := Binary64.roundUnits_near n
  have hsize : UInt64.size = 2 ^ 64 := rfl
  refine ⟨w, hheld, ?kept, ?digits, ?near⟩
  case kept =>
    rw [hw, Binary64.min_roundUnits_eq_iff hn, Binary64.spacing_eq, hsize]
  case digits =>
    rcases Nat.le_total (Binary64.roundUnits n 1) (UInt64.size - 1) with hle | hge
    · rw [Nat.min_eq_left hle] at hw
      rw [hw, ← Binary64.spacing_eq]
      exact .inl (Binary64.spacing_dvd_roundUnits n 1)
    · rw [Nat.min_eq_right hge] at hw
      exact .inr hw
  case near =>
    rw [← Binary64.spacing_eq]
    omega

def longPayload : Json := .object [("counters", .object [
  ("blocked_start_count", .string "\t18446744073709551615 "),
  ("last_evaluated_run_id", .natural 9007199254740993)])]

theorem counts_keep_53_digits_of_longPayload :
    (∃ w, CountField.blockedStarts.held (normalize longPayload) = some w ∧
      w = 18446744073709551615) ∧
    ∃ w, CountField.lastEvaluatedRun.held (normalize longPayload) = some w ∧
      w ≠ 9007199254740993 ∧ 2 * ((w.toNat : Int) - 9007199254740993).natAbs ≤ 2 := by
  have hstarts : longPayload.at? CountField.blockedStarts.place =
      some (.string
        (String.ofList (['\t'] ++ (toString 18446744073709551615).toList ++ [' ']))) := by
    have htext : "\t18446744073709551615 " =
        String.ofList (['\t'] ++ (toString 18446744073709551615).toList ++ [' ']) := by decide
    rw [← htext]
    rfl
  have hrun : longPayload.at? CountField.lastEvaluatedRun.place =
      some (.natural 9007199254740993) := rfl
  constructor
  · obtain ⟨w, hheld, hkept, -⟩ :=
      counts_keep_53_digits (by decide) hstarts
        (.text _ _ (by simp [Text.isBlank]) (by simp [Text.isBlank]))
    exact ⟨w, hheld, UInt64.toNat_inj.1 (hkept.2 (.inr rfl))⟩
  · obtain ⟨w, hheld, hkept, -, hnear⟩ :=
      counts_keep_53_digits (n := 9007199254740993) (by decide) hrun (.number _ rfl)
    refine ⟨w, hheld, fun hw => ?_, hnear⟩
    exact absurd (hkept.1 (congrArg UInt64.toNat hw)) (by decide)

theorem last_run_of_54_digits_changes :
    longPayload.at? CountField.lastEvaluatedRun.place = some (.natural 9007199254740993) ∧
      CountField.lastEvaluatedRun.held (normalize longPayload) = some 9007199254740992 :=
  ⟨rfl, by decide +kernel⟩

end SafetyState

end RunWatch
