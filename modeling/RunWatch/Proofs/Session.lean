import RunWatch.Session
set_option autoImplicit false

namespace RunWatch.Session

@[simp] theorem polling_endSubmission (s : Session) : s.endSubmission.polling = s.polling := rfl

@[simp] theorem conflictAfter_endSubmission (s : Session) :
    s.endSubmission.conflictAfter = s.conflictAfter := rfl

@[simp] theorem runActive_endSubmission (s : Session) :
    s.endSubmission.runActive = s.runActive := rfl

@[simp] theorem polling_markConflict (s : Session) (issued : Nat) :
    (s.markConflict issued).polling = s.polling := rfl

@[simp] theorem runActive_markConflict (s : Session) (issued : Nat) :
    (s.markConflict issued).runActive = true := rfl

theorem isTerminal_of_runActive {s : Session} (h : s.runActive = false) {run : Run}
    (hr : run ∈ s.latestRun) : run.isTerminal = true := by
  simp_all [runActive]

theorem changeTo_eq_stale_iff (held : Option Run) (run : Run) :
    changeTo held run = .stale ↔ ∃ h, held = some h ∧ run.id < h.id := by
  cases held with
  | none => simp [changeTo]
  | some h =>
    by_cases hlt : run.id < h.id
    · simp [changeTo, hlt]
    · simp only [changeTo, hlt, if_false]
      split
      · simp [hlt]
      · split <;> simp [hlt]

@[simp] theorem polling_hold (s : Session) (run : Run) : (s.hold run).polling = s.polling := by
  unfold hold
  split <;> rfl

@[simp] theorem conflictAfter_hold (s : Session) (run : Run) :
    (s.hold run).conflictAfter = s.conflictAfter := by
  unfold hold
  split <;> rfl

@[simp] theorem polling_applyListing (s : Session) (l : Listing) (seq : Nat) :
    (s.applyListing l seq).1.polling = s.polling := by
  unfold applyListing
  cases l.runs with
  | nil => rfl
  | cons run rest =>
    dsimp only
    split <;> simp

@[simp] theorem polling_applyStarted (s : Session) (r : Started) :
    (s.applyStarted r).1.polling = s.polling := by
  unfold applyStarted
  dsimp only
  split <;> simp

@[simp] theorem polling_markLikelyRunning (s : Session) :
    s.markLikelyRunning.polling = s.polling := by
  unfold markLikelyRunning
  split <;> rfl

@[simp] theorem runActive_markLikelyRunning (s : Session) :
    s.markLikelyRunning.runActive = s.runActive := by
  unfold markLikelyRunning
  split <;> rfl

@[simp] theorem conflictAfter_markLikelyRunning (s : Session) :
    s.markLikelyRunning.conflictAfter = s.conflictAfter := by
  unfold markLikelyRunning
  split <;> rfl

/-- Whether an answer carries a run that the session does not hold to be outdated. -/
def Accepts (s : Session) (run : Run) : Prop := ∀ h, s.latestRun = some h → h.id ≤ run.id

theorem accepts_iff (s : Session) (run : Run) :
    s.Accepts run ↔ changeTo s.latestRun run ≠ .stale := by
  rw [Ne, changeTo_eq_stale_iff]
  simp [Accepts, UInt64.not_lt]

theorem conflictAfter_applyListing (s : Session) (l : Listing) (seq : Nat) :
    (s.applyListing l seq).1.conflictAfter = none ∨
      (s.applyListing l seq).1.conflictAfter = s.conflictAfter := by
  unfold applyListing
  cases l.runs with
  | nil => exact .inr rfl
  | cons run rest =>
    dsimp only
    split
    · exact .inl rfl
    · exact .inr (by simp)

/-- A listing closes a conflict exactly if it was asked for later and its first run is accepted. -/
theorem conflictAfter_applyListing_eq_none_iff {s : Session} {n : Nat}
    (hn : s.conflictAfter = some n) (l : Listing) (seq : Nat) :
    (s.applyListing l seq).1.conflictAfter = none ↔
      ∃ run rest, l.runs = run :: rest ∧ s.Accepts run ∧ n < seq := by
  unfold applyListing
  cases hr : l.runs with
  | nil => simp [hn]
  | cons run rest =>
    by_cases hs : changeTo s.latestRun run = .stale
    · simp [accepts_iff, hn, hs]
    · by_cases hlt : n < seq <;> simp [accepts_iff, hn, hs, hlt]

theorem conflictAfter_applyStarted (s : Session) (r : Started) :
    (s.applyStarted r).1.conflictAfter = none ∨
      (s.applyStarted r).1.conflictAfter = s.conflictAfter := by
  unfold applyStarted
  dsimp only
  split
  · exact .inl rfl
  · exact .inr (by simp)

theorem conflictAfter_applyStarted_eq_none_iff {s : Session} {n : Nat}
    (hn : s.conflictAfter = some n) (r : Started) :
    (s.applyStarted r).1.conflictAfter = none ↔ s.Accepts r.run := by
  unfold applyStarted
  by_cases hs : changeTo s.latestRun r.run = .stale <;> simp [accepts_iff, hn, hs]

end RunWatch.Session
