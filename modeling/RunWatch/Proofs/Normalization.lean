import RunWatch.Proofs.Exactness
import RunWatch.Safety
set_option autoImplicit false

namespace RunWatch.SafetyState

section Fields

variable {v : Option Json}

theorem exact_number? (h : ∀ w ∈ v, w.Exact) {x : Binary64} (hx : number? v = some x) :
    x.Exact := by
  unfold number? at hx
  split at hx
  · exact Binary64.exact_read? (Option.filter_eq_some_iff.1 hx).1
  · next w _ =>
    have hx := (Option.filter_eq_some_iff.1 hx).1
    unfold Json.toBinary64? at hx
    split at hx
    · cases hx
      exact Binary64.exact_ofUnits ..
    · cases hx
      exact Binary64.exact_ofUnits ..
    · cases hx
      exact h _ rfl
    · cases hx
  · cases hx

theorem toNat_count (v : Option Json) :
    (count v).toNat = ((number? v).getD .zero).toNatBelow UInt64.size := by
  unfold count
  exact UInt64.toNat_ofNat_of_lt' (Binary64.toNatBelow_lt (by decide) _)

theorem survives_count (h : ∀ w ∈ v, w.Exact) : Binary64.Survives (count v).toNat := by
  rw [toNat_count]
  apply Binary64.survives_toNatBelow
  cases hv : number? v with
  | none => exact Binary64.exact_finite_zero false
  | some x => exact exact_number? h hv

theorem number?_natural {n : UInt64} (h : (Binary64.ofNat n.toNat).isFinite) :
    number? (some (.natural n)) = some (Binary64.ofNat n.toNat) := by
  simp only [number?, Json.toBinary64?, Option.filter_some, h, if_true]

theorem count_of_survives {n : UInt64} (h : Binary64.Survives n.toNat) :
    count (some (.natural n)) = n := by
  obtain ⟨hfinite, hkept⟩ := h
  apply UInt64.toNat_inj.1
  rw [toNat_count, number?_natural hfinite, Option.getD_some, hkept]

theorem count_count (h : ∀ w ∈ v, w.Exact) : count (some (.natural (count v))) = count v :=
  count_of_survives (survives_count h)

theorem runId?_eq (v : Option Json) : runId? v = none ∨ runId? v = some (count v) := by
  unfold runId?
  split <;> simp

theorem runId?_runId? (h : ∀ w ∈ v, w.Exact) :
    runId? (some (.ofOption .natural (runId? v))) = runId? v := by
  rcases runId?_eq v with hv | hv
  · rw [hv]
    rfl
  · rw [hv]
    exact congrArg some (count_count h)

theorem text?_string (s : String) : text? (some (.string s)) =
    if Text.trimChars s.toList = [] then none else some (Text.trim s) := rfl

theorem text?_text? (v : Option Json) :
    text? (some (.ofOption .string (text? v))) = text? v := by
  have kept (s : String) :
      text? (some (.ofOption .string (text? (some (.string s))))) = text? (some (.string s)) := by
    rw [text?_string]
    split
    · rfl
    · next hs => simp [Json.ofOption, text?_string, hs, Text.trimChars_idem, Text.trim_idem]
  cases v with
  | none => rfl
  | some w =>
    cases w with
    | string s => exact kept s
    | _ => rfl

theorem reason_reason (v : Option Json) :
    (text? (some (.ofOption (fun r => .string r.token) ((text? v).map CooldownReason.ofToken)))).map
      CooldownReason.ofToken = (text? v).map CooldownReason.ofToken := by
  have hreason : Json.ofOption (fun r : CooldownReason => .string r.token)
      ((text? v).map CooldownReason.ofToken) = Json.ofOption .string (text? v) := by
    cases text? v <;> simp [Json.ofOption]
  rw [hreason, text?_text?]

end Fields

theorem readCounters_toJson (c : SafetyCounters) : c.toJson.entries?.map readCounters = some
    { consecutiveBlockedRuns := count (some (.natural c.consecutiveBlockedRuns))
      consecutiveNetworkRuns := count (some (.natural c.consecutiveNetworkRuns))
      cooldownEntries := count (some (.natural c.cooldownEntries))
      blockedStarts := count (some (.natural c.blockedStarts))
      lastBlockedFailures := count (some (.natural c.lastBlockedFailures))
      lastNetworkFailures := count (some (.natural c.lastNetworkFailures))
      lastEvaluatedRun := runId? (some (.ofOption .natural c.lastEvaluatedRun)) } := by
  simp [SafetyCounters.toJson, Json.entries?, readCounters, Json.lookup_cons]

theorem readCounters_readCounters {entries : Json.Entries} (h : Json.ExactEntries entries) :
    (readCounters entries).toJson.entries?.map readCounters = some (readCounters entries) := by
  have hget (key : String) : ∀ w ∈ Json.lookup key entries, w.Exact := fun _ hw => h.lookup hw
  rw [readCounters_toJson]
  simp only [readCounters, count_count (hget _), runId?_runId? (hget _)]

theorem normalize_toJson (s : SafetyState) : normalize s.toJson =
    { cooldownActive := s.cooldownActive
      reason := (text? (some (.ofOption (fun r => .string r.token) s.reason))).map
        CooldownReason.ofToken
      reasonLabel := text? (some (.ofOption .string s.reasonLabel))
      cooldownUntil := text? (some (.ofOption .string s.cooldownUntil))
      remainingSeconds := count (some (.natural s.remainingSeconds))
      recommendedAction := text? (some (.ofOption .string s.recommendedAction))
      counters := (s.counters.toJson.entries?.map readCounters).getD (readCounters []) } := by
  simp [toJson, normalize, Json.entries?, Json.lookup_cons, truth]

theorem normalize_of_entries?_eq_none {raw : Json} (h : raw.entries? = none) :
    normalize raw = normalize (.object []) := by
  have hempty : normalize (.object []) = {} := by decide +kernel
  rw [hempty, normalize, h]

theorem normalize_toJson_normalize_object {entries : Json.Entries}
    (h : Json.ExactEntries entries) :
    normalize (normalize (.object entries)).toJson = normalize (.object entries) := by
  have hget (key : String) : ∀ w ∈ Json.lookup key entries, w.Exact := fun _ hw => h.lookup hw
  have hcounters : Json.ExactEntries
      (((Json.lookup "counters" entries).bind Json.entries?).getD []) := by
    cases hv : Json.lookup "counters" entries with
    | none => trivial
    | some v =>
      cases v with
      | object counters => exact h.lookup hv
      | _ => trivial
  rw [normalize_toJson]
  simp only [normalize, Json.entries?_object, text?_text?, reason_reason, count_count (hget _),
    readCounters_readCounters hcounters, Option.getD_some]

theorem normalize_sorted_toJson (s : SafetyState) :
    normalize s.toJson.sorted = normalize s.toJson := by
  simp only [toJson, SafetyCounters.toJson, Json.sorted_object, Json.sortedEntries,
    Json.sorted_bool, Json.sorted_natural, Json.sorted_ofOption Json.sorted_natural,
    Json.sorted_ofOption Json.sorted_string,
    Json.sorted_ofOption fun r : CooldownReason => Json.sorted_string r.token,
    Json.collect, List.foldl_cons, List.foldl_nil]
  simp (disch := decide) only [Json.insertEntry_nil, Json.insertEntry_of_lt,
    Json.insertEntry_of_gt]
  simp [normalize, readCounters, Json.lookup_cons]

/-- Writing a state that was read, and reading it again, gives the same state, whether the entries
stand as they are written or in the order of their keys. -/
theorem normalize_toJson_normalize {raw : Json} (h : raw.Exact) :
    normalize (normalize raw).toJson = normalize raw ∧
      normalize (normalize raw).toJson.sorted = normalize raw := by
  obtain ⟨entries, hentries, hraw⟩ : ∃ entries, Json.ExactEntries entries ∧
      normalize raw = normalize (.object entries) := by
    cases raw with
    | object entries => exact ⟨entries, h, rfl⟩
    | _ => exact ⟨[], trivial, normalize_of_entries?_eq_none rfl⟩
  rw [normalize_sorted_toJson, and_self, hraw]
  exact normalize_toJson_normalize_object hentries

/-- Counts that are negative, fractional, textual or too large, texts between blanks, a reason that
is not known and a run that is malformed. -/
def oddPayload : Json := .object [
  ("cooldown_active", .string " Yes "),
  ("cooldown_reason", .string " new_reason\n"),
  ("cooldown_reason_label", .string "  "),
  ("cooldown_until", .string " tomorrow "),
  ("cooldown_remaining_seconds", .real (.ofDecimal false 25 (-1))),
  ("recommended_action", .null),
  ("counters", .object [
    ("consecutive_blocked_runs", .negative 4),
    ("consecutive_network_runs", .string " 7.9 "),
    ("cooldown_entry_count", .natural 9007199254740993),
    ("blocked_start_count", .real (.ofDecimal false 1 30)),
    ("last_blocked_failure_count", .natural 18446744073709551615),
    ("last_network_failure_count", .string "-inf"),
    ("last_evaluated_run_id", .array [])])]

theorem normalize_toJson_normalize_oddPayload : oddPayload.Exact ∧
    normalize (normalize oddPayload).toJson = normalize oddPayload ∧
    normalize (normalize oddPayload).toJson.sorted = normalize oddPayload ∧
    normalize oddPayload =
      { cooldownActive := true
        reason := some (.other "new_reason")
        cooldownUntil := some "tomorrow"
        remainingSeconds := 2
        counters :=
          { consecutiveNetworkRuns := 7
            cooldownEntries := 9007199254740992
            blockedStarts := 18446744073709551615
            lastBlockedFailures := 18446744073709551615
            lastEvaluatedRun := some 0 } } := by
  have hexact : oddPayload.Exact := by
    simp [oddPayload, Json.Exact, Json.ExactEntries, Json.ExactItems, Binary64.exact_ofDecimal]
  obtain ⟨hwritten, hsorted⟩ := normalize_toJson_normalize hexact
  exact ⟨hexact, hwritten, hsorted, by decide +kernel⟩

end RunWatch.SafetyState
