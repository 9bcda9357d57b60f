import RunWatch.Proofs.History
/-!
How long a conflict stays open. It is open from the answer that told of another run until a listing
that was asked for later, or another start, brings a run that is not older than the one held, or
until a reset. While it is open the session counts as active, so that nothing can be started.
-/
set_option autoImplicit false

namespace RunWatch

namespace Controller

inductive Conflicts (c : Controller) : Input → Prop where
  | intro (k : Caller) (runId : Option UInt64) (message : String) (requestId : Option String) :
      c.Conflicts (.triggered c.epoch k (.error (.conflict runId message requestId)))

/-- What closes a conflict that came when `n` list calls had been made. -/
inductive Closes (c : Controller) (n : Nat) : Input → Prop where
  | listing {seq : Nat} {l : Listing} {run : Run} {rest : List Run} (hr : l.runs = run :: rest)
      (hseq : n < seq) (hrun : c.session.Accepts run) : c.Closes n (.listed c.epoch seq (.ok l))
  | started (k : Caller) {r : Started} (hrun : c.session.Accepts r.run) :
      c.Closes n (.triggered c.epoch k (.ok r))
  | reset (k : Caller) : c.Closes n (.command k .reset)

inductive Marks (c : Controller) (i : Input) : Option Nat → Prop where
  | opened (h : c.Conflicts i) : Marks c i (some c.fetches.issued)
  | closed (h : ¬ c.Conflicts i) (hn : ∀ n, c.session.conflictAfter = some n → c.Closes n i) :
      Marks c i none
  | kept (h : ¬ c.Conflicts i) (hn : ∀ n, c.session.conflictAfter = some n → ¬ c.Closes n i) :
      Marks c i c.session.conflictAfter

theorem step_marks (now : Nat) (c : Controller) (i : Input) :
    c.Marks i (c.step now i).state.session.conflictAfter := by
  induction i using input_cases now c with
  | fetch k cmd hc =>
    rw [step_fetch now c k hc]
    exact .kept (fun h => by cases h) fun n _ h => by cases h; simp at hc
  | startRefused k hs =>
    rw [step_start_refused now c k hs]
    exact .kept (fun h => by cases h) fun n _ h => by cases h
  | start k hs =>
    rw [step_start now c k hs]
    exact .kept (fun h => by cases h) fun n _ h => by cases h
  | reset k =>
    rw [step_reset]
    exact .closed (fun h => by cases h) fun n _ => .reset k
  | listedStale epoch seq r he =>
    rw [step_listed_stale now c seq r he]
    exact .kept (fun h => by cases h) fun n _ h => by cases h; exact he rfl
  | listed seq r =>
    rw [step_listed]
    simp only [Session.conflictAfter_follow]
    cases r with
    | error f => exact .kept (fun h => by cases h) fun n _ h => by cases h
    | ok l =>
      simp only [Session.afterListed]
      rcases Session.conflictAfter_applyListing c.session l seq with h | h <;> rw [h]
      · refine .closed (fun h => by cases h) fun n hn => ?_
        obtain ⟨run, rest, hr, hrun, hseq⟩ :=
          (Session.conflictAfter_applyListing_eq_none_iff hn l seq).1 h
        exact .listing hr hseq hrun
      · refine .kept (fun h => by cases h) fun n hn hc => ?_
        cases hc with
        | listing hr hseq hrun =>
          have h₀ := (Session.conflictAfter_applyListing_eq_none_iff hn l seq).2
            ⟨_, _, hr, hrun, hseq⟩
          simp [h, hn] at h₀
  | triggeredStale epoch k r he =>
    rw [step_triggered_stale now c k r he]
    exact .kept (fun h => by cases h; exact he rfl) fun n _ h => by cases h; exact he rfl
  | started k r =>
    rw [step_started]
    simp only [Session.conflictAfter_follow]
    have hs : c.session.endSubmission.conflictAfter = c.session.conflictAfter := rfl
    rcases Session.conflictAfter_applyStarted c.session.endSubmission r with h | h <;> rw [h]
    · exact .closed (fun h => by cases h) fun n hn =>
        .started k ((Session.conflictAfter_applyStarted_eq_none_iff (hs.trans hn) r).1 h)
    · refine .kept (fun h => by cases h) fun n hn hc => ?_
      cases hc with
      | started _ hrun =>
        have h₀ := (Session.conflictAfter_applyStarted_eq_none_iff (hs.trans hn) r).2 hrun
        simp [h, hn] at h₀
  | conflict k runId message requestId =>
    rw [step_conflict]
    simp only [Session.conflictAfter_follow]
    exact .opened (.intro k runId message requestId)
  | refused k f hf =>
    rw [step_refused now c k hf]
    simp only [Session.conflictAfter_afterRefusal]
    exact .kept (fun h => by cases h; exact hf _ _ _ rfl) fun n _ h => by cases h
  | pollEarly hd =>
    rw [step_pollDue_early now c hd]
    exact .kept (fun h => by cases h) fun n _ h => by cases h
  | poll hd =>
    rw [step_pollDue now c hd]
    exact .kept (fun h => by cases h) fun n _ h => by cases h
  | startingEarly hd =>
    rw [step_startingDue_early now c hd]
    exact .kept (fun h => by cases h) fun n _ h => by cases h
  | starting hd =>
    rw [step_startingDue now c hd]
    simp only [Session.conflictAfter_markLikelyRunning]
    exact .kept (fun h => by cases h) fun n _ h => by cases h

end Controller

namespace History

variable (timing : Timing)

/-- The conflict that came right after `before` has not been closed since, and no other has come. -/
inductive OpenConflict (before : History) : History → Prop where
  | came {now : Nat} {i : Input} (h : (before.controller timing).Conflicts i) :
      OpenConflict before ((now, i) :: before)
  | stayed {past : History} {now : Nat} {i : Input} (h : OpenConflict before past)
      (hi : ¬ (past.controller timing).Conflicts i)
      (hc : ¬ (past.controller timing).Closes (before.listCalls timing) i) :
      OpenConflict before ((now, i) :: past)

/-- The session's mark is that of the open conflict: the count of list calls made before it. -/
theorem conflictAfter_eq_some_iff (past : History) (n : Nat) :
    (past.controller timing).session.conflictAfter = some n ↔
      ∃ before, OpenConflict timing before past ∧ before.listCalls timing = n := by
  induction past generalizing n with
  | nil =>
    constructor
    · intro h
      cases h
    · rintro ⟨before, h, -⟩
      cases h
  | cons e past ih =>
    obtain ⟨now, i⟩ := e
    have hm := (controller timing past).step_marks now i
    simp only [controller]
    generalize ((controller timing past).step now i).state.session.conflictAfter = m at hm ⊢
    cases hm with
    | opened h =>
      constructor
      · intro hn
        refine ⟨past, .came h, ?_⟩
        rw [← issued_controller]
        exact Option.some.inj hn
      · rintro ⟨before, ho, rfl⟩
        cases ho with
        | came _ => rw [issued_controller]
        | stayed _ hi _ => exact absurd h hi
    | closed h hn =>
      constructor
      · intro hn'
        cases hn'
      · rintro ⟨before, ho, rfl⟩
        cases ho with
        | came h' => exact absurd h' h
        | stayed ho _ hc => exact absurd (hn _ ((ih _).2 ⟨before, ho, rfl⟩)) hc
    | kept h hn =>
      rw [ih]
      constructor
      · rintro ⟨before, ho, rfl⟩
        exact ⟨before, .stayed ho h (hn _ ((ih _).2 ⟨before, ho, rfl⟩)), rfl⟩
      · rintro ⟨before, ho, rfl⟩
        cases ho with
        | came h' => exact absurd h' h
        | stayed ho _ _ => exact ⟨before, ho, rfl⟩

/-- Answers that tell nothing of the run behind a conflict: a listing that was asked for before the
conflict came, failed or empty, or an answer that carries an older run than the one held. -/
inductive Uninformative (before past : History) : Input → Prop where
  | early {epoch seq : Nat} (r : Except Failure Listing)
      (h : .list epoch seq ∈ before.actions timing) :
      Uninformative before past (.listed epoch seq r)
  | failed (epoch seq : Nat) (f : Failure) :
      Uninformative before past (.listed epoch seq (.error f))
  | empty (epoch seq : Nat) {l : Listing} (h : l.runs = []) :
      Uninformative before past (.listed epoch seq (.ok l))
  | outdatedListing (epoch seq : Nat) {l : Listing} {run held : Run} {rest : List Run}
      (hr : l.runs = run :: rest)
      (hh : (past.controller timing).session.latestRun = some held) (hlt : run.id < held.id) :
      Uninformative before past (.listed epoch seq (.ok l))
  | outdatedStart (epoch : Nat) (k : Caller) {r : Started} {held : Run}
      (hh : (past.controller timing).session.latestRun = some held) (hlt : r.runId < held.id) :
      Uninformative before past (.triggered epoch k (.ok r))

theorem Uninformative.stays {before past : History} {i : Input}
    (h : Uninformative timing before past i) (now : Nat) (ho : OpenConflict timing before past) :
    OpenConflict timing before ((now, i) :: past) := by
  refine .stayed ho (fun hc => ?_) (fun hc => ?_)
  · cases hc
    cases h
  · cases h with
    | early r hm =>
      cases hc with
      | listing hr hseq hrun =>
        have hle := seq_le_listCalls timing hm
        omega
    | failed epoch seq f => cases hc
    | empty epoch seq he =>
      cases hc with
      | listing hr hseq hrun => simp [he] at hr
    | outdatedListing epoch seq hr hh hlt =>
      cases hc with
      | listing hr' hseq hrun =>
        obtain ⟨rfl, -⟩ := List.cons.inj (hr.symm.trans hr')
        exact absurd (hrun _ hh) (UInt64.not_le.2 hlt)
    | outdatedStart epoch k hh hlt =>
      cases hc with
      | started _ hrun => exact absurd (hrun _ hh) (UInt64.not_le.2 hlt)

theorem runActive_iff (past : History) :
    (past.controller timing).session.runActive = true ↔
      (∃ run, (past.controller timing).session.latestRun = some run ∧ run.isTerminal = false) ∨
        ∃ before, OpenConflict timing before past := by
  have ho : (past.controller timing).session.conflictAfter.isSome = true ↔
      ∃ before, OpenConflict timing before past := by
    rw [Option.isSome_iff_exists]
    simp only [conflictAfter_eq_some_iff]
    constructor
    · rintro ⟨_, before, h, -⟩
      exact ⟨before, h⟩
    · rintro ⟨before, h⟩
      exact ⟨_, before, h, rfl⟩
  simp only [Session.runActive, Bool.or_eq_true, ho, Option.any_eq_true, Bool.not_eq_true']
  exact Or.comm

/-- A session is active while the run held has not ended or a conflict is open. An open conflict is
closed by nothing but a later listing or a start that brings a run not older than the one held, or a
reset; no other answer makes a start possible. -/
theorem active_while_conflict_open (past : History) :
    ((past.controller timing).session.runActive = true ↔
      (∃ run, (past.controller timing).session.latestRun = some run ∧ run.isTerminal = false) ∨
        ∃ before, OpenConflict timing before past) ∧
    ∀ before, OpenConflict timing before past → ∀ now i,
      (((past.controller timing).step now i).state.session.conflictAfter = none ↔
        (past.controller timing).Closes (before.listCalls timing) i) ∧
      (Uninformative timing before past i →
        OpenConflict timing before ((now, i) :: past) ∧
          ((past.controller timing).step now i).state.session.canStart = false) := by
  refine ⟨runActive_iff timing past, fun before ho now i => ⟨?_, fun hi => ?_⟩⟩
  · have hn := (conflictAfter_eq_some_iff timing past _).2 ⟨before, ho, rfl⟩
    have hm := (controller timing past).step_marks now i
    generalize ((controller timing past).step now i).state.session.conflictAfter = m at hm ⊢
    cases hm with
    | opened h =>
      simp only [reduceCtorEq, false_iff]
      intro hc
      cases h
      cases hc
    | closed h hc => simpa using hc _ hn
    | kept h hc => simpa [hn] using hc _ hn
  · have hstay := hi.stays timing now ho
    have hact := (runActive_iff timing ((now, i) :: past)).2 (.inr ⟨before, hstay⟩)
    simp only [controller] at hact
    exact ⟨hstay, by simp [Session.canStart, hact]⟩

/-- A listing under way when the conflict comes tells that the run it knows has ended. -/
theorem conflict_outlasts_listing_under_way :
    let past : History := [(9, .triggered 0 1 (.error (.conflict (some 8) "busy" none))),
      (5, .command 1 .start), (0, .command 0 .sync)]
    let ended : Run := ⟨7, .manual, .success, none, none, 0, 0, 0, 0⟩
    OpenConflict {} past.tail past ∧
      (((past.controller {}).step 12 (.listed 0 1 (.ok ⟨[ended], .null⟩))).state.session.canStart =
        false) := by
  intro past ended
  have ho : OpenConflict {} past.tail past := .came (.intro 1 (some 8) "busy" none)
  have hi : Uninformative {} past.tail past (.listed 0 1 (.ok ⟨[ended], .null⟩)) :=
    .early _ (by decide)
  exact ⟨ho, (((active_while_conflict_open {} past).2 past.tail ho 12 _).2 hi).2⟩

end History

end RunWatch
