import RunWatch.Proofs.Holding
/-!
Which of the runs that were brought is held. Whatever is done to a session, and in whatever order,
it holds the run of the greatest id among those that were brought, and of several with that id the
one that came last. What an answer is said to have changed is what it has changed.
-/
set_option autoImplicit false

namespace RunWatch

/-- A run of the greatest id in a list, and of those with that id the first in the list. -/
def IsNewest (run : Run) (runs : List Run) : Prop :=
  ∃ later earlier, runs = later ++ run :: earlier ∧
    (∀ r ∈ later, r.id < run.id) ∧ ∀ r ∈ earlier, r.id ≤ run.id

namespace IsNewest

variable {run r : Run} {runs : List Run}

theorem le (h : IsNewest run runs) (hr : r ∈ runs) : r.id ≤ run.id := by
  obtain ⟨later, earlier, rfl, hl, he⟩ := h
  rcases List.mem_append.1 hr with hr | hr
  · exact UInt64.le_of_lt (hl r hr)
  · rcases List.mem_cons.1 hr with rfl | hr
    · exact UInt64.le_refl _
    · exact he r hr

theorem cons_iff : IsNewest run (r :: runs) ↔
    (r = run ∧ ∀ q ∈ runs, q.id ≤ run.id) ∨ r.id < run.id ∧ IsNewest run runs := by
  constructor
  · rintro ⟨later, earlier, hc, hl, he⟩
    cases later with
    | nil =>
      obtain ⟨rfl, rfl⟩ := List.cons.inj hc
      exact .inl ⟨rfl, he⟩
    | cons q later =>
      obtain ⟨rfl, rfl⟩ := List.cons.inj hc
      exact .inr ⟨hl _ List.mem_cons_self, later, earlier, rfl,
        fun q hq => hl q (List.mem_cons_of_mem _ hq), he⟩
  · rintro (⟨rfl, he⟩ | ⟨hlt, later, earlier, rfl, hl, he⟩)
    · exact ⟨[], runs, rfl, nofun, he⟩
    · refine ⟨r :: later, earlier, rfl, fun q hq => ?_, he⟩
      rcases List.mem_cons.1 hq with rfl | hq
      · exact hlt
      · exact hl q hq

theorem singleton_iff : IsNewest run [r] ↔ r = run := by
  rw [cons_iff]
  constructor
  · rintro (⟨h, -⟩ | ⟨-, later, earlier, h, -⟩)
    · exact h
    · simp at h
  · exact fun h => .inl ⟨h, nofun⟩

end IsNewest

namespace Session

inductive Operation where
  | listing (l : Listing) (seq : Nat)
  | started (r : Started)
  | conflict (issued : Nat)
  | cooldown (raw : Json) (message : String)
  | failure (message : String)
  | beginSubmission
  | endSubmission
  | likelyRunning
  | polling (on : Bool)

namespace Operation

def apply (s : Session) : Operation → Session
  | listing l seq => (s.applyListing l seq).1
  | started r => (s.applyStarted r).1
  | conflict issued => s.markConflict issued
  | cooldown raw message => s.applyCooldown raw message
  | failure message => s.recordFailure message
  | beginSubmission => s.beginSubmission
  | endSubmission => s.endSubmission
  | likelyRunning => s.markLikelyRunning
  | polling on => s.setPolling on

def change? (s : Session) : Operation → Option RunChange
  | listing l seq => some (s.applyListing l seq).2
  | started r => some (s.applyStarted r).2
  | _ => none

def run? : Operation → Option Run
  | listing l _ => l.runs.head?
  | started r => some r.run
  | _ => none

theorem latestRun_apply (s : Session) (op : Operation) :
    (op.apply s).latestRun = (op.run?.map (holding s.latestRun)).getD s.latestRun := by
  cases op with
  | listing l seq => exact latestRun_applyListing s l seq
  | started r => exact latestRun_applyStarted s r
  | likelyRunning => exact latestRun_markLikelyRunning s
  | _ => rfl

theorem change?_eq_some {s : Session} {op : Operation} {told : RunChange}
    (h : op.change? s = some told) :
    told = (op.run?.map (changeTo s.latestRun)).getD .unchanged := by
  cases op with
  | listing l seq => rw [← Option.some.inj h, run?, change_applyListing]
  | started r =>
    rw [← Option.some.inj h, change_applyStarted]
    rfl
  | _ => nomatch h

end Operation

def after (s : Session) : List Operation → Session
  | [] => s
  | op :: past => op.apply (after s past)

/-- The runs that were brought, the last one first, and before them the one that was held at the
beginning. -/
def brought (s : Session) (past : List Operation) : List Run :=
  past.filterMap Operation.run? ++ s.latestRun.toList

theorem holding_isSome (held : Option Run) (run : Run) : (holding held run).isSome := by
  cases held with
  | none => rfl
  | some h =>
    unfold holding
    split <;> rfl

theorem latestRun_after_eq_none_iff (s : Session) (past : List Operation) :
    (s.after past).latestRun = none ↔ s.brought past = [] := by
  induction past with
  | nil => cases h : s.latestRun <;> simp [after, brought, h]
  | cons op past ih =>
    rw [after, Operation.latestRun_apply]
    cases hr : op.run? with
    | none => simpa [brought, hr] using ih
    | some run =>
      have hs := holding_isSome (s.after past).latestRun run
      simp [brought, hr, ← Option.not_isSome_iff_eq_none, hs]

theorem holding_eq_some_iff {held : Option Run} {run r : Run} :
    holding held r = some run ↔
      (r = run ∧ ∀ h ∈ held, h.id ≤ run.id) ∨ r.id < run.id ∧ held = some run := by
  by_cases hs : changeTo held r = .stale
  · obtain ⟨h, rfl, hlt⟩ := (changeTo_eq_stale_iff held r).1 hs
    rw [holding, if_pos hs]
    constructor
    · intro he
      obtain rfl := Option.some.inj he
      exact .inr ⟨hlt, rfl⟩
    · rintro (⟨rfl, hle⟩ | ⟨-, he⟩)
      · exact absurd (hle h rfl) (UInt64.not_le.2 hlt)
      · exact he
  · have hle (h : Run) (hh : h ∈ held) : h.id ≤ r.id :=
      UInt64.not_lt.1 fun hlt => hs ((changeTo_eq_stale_iff held r).2 ⟨h, hh, hlt⟩)
    rw [holding, if_neg hs]
    constructor
    · intro he
      obtain rfl := Option.some.inj he
      exact .inl ⟨rfl, hle⟩
    · rintro (⟨rfl, -⟩ | ⟨hlt, rfl⟩)
      · rfl
      · exact absurd (hle run rfl) (UInt64.not_le.2 hlt)

theorem latestRun_after_eq_some_iff (s : Session) (past : List Operation) (run : Run) :
    (s.after past).latestRun = some run ↔ IsNewest run (s.brought past) := by
  induction past generalizing run with
  | nil =>
    cases h : s.latestRun with
    | none => simp [after, brought, h, IsNewest]
    | some r => simp [after, brought, h, IsNewest.singleton_iff]
  | cons op past ih =>
    rw [after, Operation.latestRun_apply]
    cases hr : op.run? with
    | none => simpa [brought, hr] using ih run
    | some r =>
      have hb : s.brought (op :: past) = r :: s.brought past := by simp [brought, hr]
      have hall : (∀ h ∈ (s.after past).latestRun, h.id ≤ run.id) ↔
          ∀ q ∈ s.brought past, q.id ≤ run.id := by
        cases hh : (s.after past).latestRun with
        | none => simp [(latestRun_after_eq_none_iff s past).1 hh]
        | some h =>
          have hn := (ih h).1 hh
          constructor
          · intro hle q hq
            exact UInt64.le_trans (hn.le hq) (hle h rfl)
          · rintro hle _ ⟨⟩
            obtain ⟨later, earlier, he, -⟩ := hn
            exact hle h (he ▸ List.mem_append_right _ List.mem_cons_self)
      rw [hb, IsNewest.cons_iff, Option.map_some, Option.getD_some, holding_eq_some_iff, hall, ih]

end Session

def Outdated (before brought : Option Run) : Prop :=
  ∃ held ∈ before, ∃ run ∈ brought, run.id < held.id

def Finished (before after : Option Run) : Prop :=
  ∃ held ∈ before, ∃ run ∈ after,
    held.id = run.id ∧ held.isTerminal = false ∧ run.isTerminal = true

def RunChange.Says (before brought after : Option Run) : RunChange → Prop
  | .stale => Outdated before brought
  | .unchanged => after = before ∧ ¬ Outdated before brought
  | .completed => Finished before after
  | .updated => after ≠ before ∧ ¬ Finished before after

theorem finished_iff (before after : Option Run) :
    Finished before after ↔ (Session.completion? before after).isSome := by
  cases before with
  | none => simp [Finished, Session.completion?]
  | some held =>
    cases after with
    | none => simp [Finished, Session.completion?]
    | some run => simp [Finished, Session.completion?, Option.isSome_ite]

namespace Session

theorem changeTo_self (run : Run) : changeTo (some run) run = .unchanged := by
  simp [changeTo]

theorem changeTo_says (before brought : Option Run) (change : RunChange) :
    (brought.map (changeTo before)).getD .unchanged = change ↔
      change.Says before brought ((brought.map (holding before)).getD before) := by
  cases brought with
  | none =>
    have hf : ¬ Finished before before := by simp [finished_iff, completion?_self]
    cases change <;> simp [RunChange.Says, Outdated, hf]
  | some run =>
    simp only [Option.map_some, Option.getD_some]
    have hstale : changeTo before run = .stale ↔ Outdated before (some run) := by
      simp [changeTo_eq_stale_iff, Outdated]
    have hdone : changeTo before run = .completed ↔ Finished before (holding before run) := by
      rw [finished_iff, completion?_holding]
      split <;> simp_all
    have hsame : changeTo before run = .unchanged ↔
        holding before run = before ∧ ¬ Outdated before (some run) := by
      rw [← hstale]
      constructor
      · intro h
        have hne : changeTo before run ≠ .stale := by simp [h]
        exact ⟨by rw [holding, if_neg hne, eq_of_unchanged h], hne⟩
      · rintro ⟨h, hs⟩
        rw [holding, if_neg hs] at h
        rw [← h, changeTo_self]
    cases change with
    | stale => exact hstale
    | unchanged => exact hsame
    | completed => exact hdone
    | updated =>
      have hkept : holding before run = before ↔
          changeTo before run = .stale ∨ changeTo before run = .unchanged := by
        constructor
        · intro h
          by_cases hs : changeTo before run = .stale
          · exact .inl hs
          · exact .inr (hsame.2 ⟨h, fun ho => hs (hstale.2 ho)⟩)
        · rintro (h | h)
          · rw [holding, if_pos h]
          · exact (hsame.1 h).1
      rw [RunChange.Says, Ne, hkept, ← hdone]
      cases changeTo before run <;> simp

/-- The run that is held is the newest of those that were brought, and the last one of several with
the same id, so that it is never lost and its id never falls. Each answer is said to have changed
what it has changed. -/
theorem holds_newest (s : Session) (past : List Operation) :
    let reached := s.after past
    (reached.latestRun = none ↔ s.brought past = []) ∧
      (∀ run, reached.latestRun = some run ↔ IsNewest run (s.brought past)) ∧
      ∀ op : Operation,
        (∀ old ∈ reached.latestRun, ∃ run ∈ (op.apply reached).latestRun, old.id ≤ run.id) ∧
        ∀ told, op.change? reached = some told → ∀ change : RunChange,
          told = change ↔ change.Says reached.latestRun op.run? (op.apply reached).latestRun := by
  intro reached
  refine ⟨latestRun_after_eq_none_iff s past, latestRun_after_eq_some_iff s past, fun op => ?_⟩
  constructor
  · intro old hold
    rw [Operation.latestRun_apply]
    cases hr : op.run? with
    | none => exact ⟨old, hold, UInt64.le_refl _⟩
    | some r =>
      obtain ⟨run, hrun⟩ := Option.isSome_iff_exists.1 (holding_isSome reached.latestRun r)
      refine ⟨run, hrun, ?_⟩
      rcases holding_eq_some_iff.1 hrun with ⟨-, hle⟩ | ⟨-, he⟩
      · exact hle old hold
      · rw [Option.some.inj (hold.symm.trans he)]
        exact UInt64.le_refl _
  · intro told ht change
    rw [Operation.change?_eq_some ht, Operation.latestRun_apply]
    exact changeTo_says reached.latestRun op.run? change

/-- A start brings run 7, a listing an older run and one without any leave it, and the last listing
brings it ended. -/
theorem holds_newest_until_it_ends :
    let run (id : UInt64) (status : RunStatus) : Run :=
      ⟨id, .manual, status, none, none, 0, 0, 0, 0⟩
    let started : Started := ⟨7, .running, 0, 0, 0, 0, 0, false, "key", .null⟩
    let past : List Operation := [.listing ⟨[], .null⟩ 3, .cooldown .null "too soon",
      .listing ⟨[run 6 .running, run 9 .failed], .null⟩ 2, .conflict 1, .started started,
      .listing ⟨[run 5 .running], .null⟩ 1, .beginSubmission]
    let last : Operation := .listing ⟨[run 7 .success], .null⟩ 4
    let reached := Session.after {} past
    IsNewest (run 7 .running) (Session.brought {} past) ∧
      reached.latestRun = some (run 7 .running) ∧ last.change? reached = some .completed ∧
      RunChange.completed.Says reached.latestRun last.run? (last.apply reached).latestRun := by
  intro run started past last reached
  obtain ⟨-, hnewest, hstep⟩ := holds_newest {} past
  have hheld : reached.latestRun = some (run 7 .running) := by decide
  have htold : last.change? reached = some .completed := by decide
  exact ⟨(hnewest _).1 hheld, hheld, htold, ((hstep last).2 _ htold .completed).1 rfl⟩

end Session

end RunWatch
