import RunWatch.Proofs.Isolation
set_option autoImplicit false

namespace RunWatch

namespace Input

/-- The safety state that an answer reports. A start that the cooldown refuses reports that it is
on, whatever its payload says; a listing that fails reports none. -/
def safety? : Input → Option SafetyState
  | .listed _ _ (.ok l) => some (.normalize l.safety)
  | .triggered _ _ (.ok r) => some (.normalize r.safety)
  | .triggered _ _ (.error (.cooldown raw _ _)) =>
    some { SafetyState.normalize raw with cooldownActive := true }
  | _ => none

/-- The error that an answer is. A start that meets another run has not failed. -/
def error? : Input → Option String
  | .listed _ _ (.error f) => some f.message
  | .triggered _ _ (.error (.conflict ..)) => none
  | .triggered _ _ (.error f) => some f.message
  | _ => none

end Input

namespace Session

def report (s : Session) : SafetyState × Option String := (s.safety, s.lastError)

variable (s : Session)

@[simp] theorem report_follow (p : Ticker) : (s.follow p).report = s.report := by
  rw [follow_eq]
  rfl

@[simp] theorem report_hold (run : Run) : (s.hold run).report = s.report := by
  unfold hold
  split <;> rfl

theorem report_applyListing (l : Listing) (seq : Nat) :
    (s.applyListing l seq).1.report = (.normalize l.safety, none) := by
  unfold applyListing
  cases l.runs with
  | nil => rfl
  | cons run rest =>
    have h := { s with safety := .normalize l.safety, lastError := none }.report_hold run
    dsimp only
    split <;> exact h

theorem report_applyStarted (r : Started) :
    (s.applyStarted r).1.report = (.normalize r.safety, none) := by
  have h := { s with safety := .normalize r.safety, lastError := none }.report_hold r.run
  unfold applyStarted
  dsimp only
  split <;> exact h

@[simp] theorem report_endSubmission : s.endSubmission.report = s.report := rfl

@[simp] theorem report_markConflict (issued : Nat) :
    (s.markConflict issued).report = (s.safety, none) := rfl

@[simp] theorem report_recordFailure (message : String) :
    (s.recordFailure message).report = (s.safety, some message) := rfl

@[simp] theorem report_applyCooldown (raw : Json) (message : String) :
    (s.applyCooldown raw message).report =
      ({ SafetyState.normalize raw with cooldownActive := true }, some message) := rfl

@[simp] theorem report_markLikelyRunning : s.markLikelyRunning.report = s.report := by
  unfold markLikelyRunning
  split <;> rfl

end Session

namespace Controller

theorem step_report (now : Nat) (c : Controller) (i : Input) :
    (c.step now i).state.session.report =
      if i.isReset then ({}, none)
      else if i.epoch? = some c.epoch then (i.safety?.getD c.session.safety, i.error?)
      else c.session.report := by
  induction i using input_cases now c with
  | fetch k cmd hc =>
    rw [step_fetch now c k hc]
    rcases hc with rfl | rfl <;> rfl
  | startRefused k hs =>
    rw [step_start_refused now c k hs]
    rfl
  | start k hs =>
    rw [step_start now c k hs]
    rfl
  | reset k =>
    rw [step_reset]
    rfl
  | listedStale epoch seq r he =>
    rw [step_listed_stale now c seq r he]
    simp [Input.isReset, Input.epoch?, he]
  | listed seq r =>
    rw [step_listed]
    cases r with
    | ok l => simp [Session.afterListed, Session.report_applyListing, Input.isReset, Input.epoch?,
        Input.safety?, Input.error?]
    | error f => simp [Session.afterListed, Input.isReset, Input.epoch?, Input.safety?,
        Input.error?]
  | triggeredStale epoch k r he =>
    rw [step_triggered_stale now c k r he]
    simp [Input.isReset, Input.epoch?, he]
  | started k r =>
    rw [step_started]
    simp [Session.report_applyStarted, Input.isReset, Input.epoch?, Input.safety?, Input.error?]
  | conflict k runId message requestId =>
    rw [step_conflict]
    simp [Input.isReset, Input.epoch?, Input.safety?, Input.error?, Session.endSubmission]
  | refused k f hf =>
    rw [step_refused now c k hf]
    cases f with
    | conflict runId message requestId => exact absurd rfl (hf runId message requestId)
    | _ => simp [Session.afterRefusal, Session.endSubmission, Input.isReset, Input.epoch?,
        Input.safety?, Input.error?, Failure.message]
  | pollEarly hd =>
    rw [step_pollDue_early now c hd]
    rfl
  | poll hd =>
    rw [step_pollDue now c hd]
    rfl
  | startingEarly hd =>
    rw [step_startingDue_early now c hd]
    rfl
  | starting hd =>
    rw [step_startingDue now c hd]
    simp [Input.isReset, Input.epoch?]

end Controller

namespace History

variable (timing : Timing)

/-- The answers of the epoch that were handled since the last reset, the last one first. -/
def answers : History → List Input
  | [] => []
  | (_, i) :: past =>
    if i.isReset then []
    else if i.epoch? = some (controller timing past).epoch then i :: answers past
    else answers past

theorem report_controller (past : History) :
    (controller timing past).session.report =
      (((answers timing past).findSome? Input.safety?).getD {},
        (answers timing past).head?.bind Input.error?) := by
  induction past with
  | nil => rfl
  | cons e past ih =>
    obtain ⟨now, i⟩ := e
    have hsafety : (controller timing past).session.safety =
        ((answers timing past).findSome? Input.safety?).getD {} := congrArg Prod.fst ih
    simp only [controller, answers, Controller.step_report]
    split
    · rfl
    · split
      · cases hi : i.safety? <;> simp [hi, hsafety]
      · exact ih

/-- The safety state is that of the last answer since the last reset which reported one, and the
error is that of the last answer. A step changes them only by a reset or by such an answer. -/
theorem reports_last_answer (past : History) :
    let c := controller timing past
    c.session.safety = ((answers timing past).findSome? Input.safety?).getD {} ∧
      c.session.lastError = (answers timing past).head?.bind Input.error? ∧
      ∀ now i, i.isReset = false →
        (i.epoch? ≠ some c.epoch → (c.step now i).state.session.report = c.session.report) ∧
        (i.safety? = none → (c.step now i).state.session.safety = c.session.safety) := by
  intro c
  have hreport := report_controller timing past
  refine ⟨congrArg Prod.fst hreport, congrArg Prod.snd hreport, fun now i hr => ⟨?_, ?_⟩⟩
  · intro he
    rw [Controller.step_report, hr, if_neg Bool.false_ne_true, if_neg he]
  · intro hs
    have hstep := congrArg Prod.fst (c.step_report now i)
    rw [hr, if_neg Bool.false_ne_true, hs] at hstep
    split at hstep <;> exact hstep

/-- After the reset a listing still comes from before it. A start brings run 8, a listing with an
older run has another safety state, and the last listing fails. -/
theorem reports_last_answer_of_epoch :
    let run (id : UInt64) : Run := ⟨id, .manual, .running, none, none, 0, 0, 0, 0⟩
    let cooling : Json := .object [("cooldown_active", .bool true)]
    let started : Started := ⟨8, .running, 0, 0, 0, 0, 0, false, "key", .null⟩
    let past : History := [
      (50, .listed 1 3 (.error (.cooldown .null "too soon" none))), (45, .command 4 .sync),
      (40, .listed 1 2 (.ok ⟨[run 7], cooling⟩)), (35, .triggered 1 3 (.ok started)),
      (30, .listed 0 1 (.ok ⟨[run 9], .null⟩)), (25, .command 3 .start), (20, .command 2 .sync),
      (10, .command 1 .reset), (0, .command 0 .sync)]
    (controller {} past).session.safety = .normalize cooling ∧
      (controller {} past).session.lastError = some "too soon" ∧
      ((controller {} past).step 60 (.listed 0 1 (.ok ⟨[], .null⟩))).state.session.report =
        (controller {} past).session.report := by
  intro run cooling started past
  obtain ⟨hsafety, herror, hstep⟩ := reports_last_answer {} past
  have hepoch : (controller {} past).epoch = 1 := by decide
  have hanswers : answers {} past = [
      .listed 1 3 (.error (.cooldown .null "too soon" none)),
      .listed 1 2 (.ok ⟨[run 7], cooling⟩), .triggered 1 3 (.ok started)] := by
    simp [past, answers, controller, Controller.step_epoch, Input.isReset, Input.epoch?]
  rw [hanswers] at hsafety herror
  exact ⟨hsafety, herror, (hstep 60 _ rfl).1 (by rw [hepoch]; decide)⟩

end History

end RunWatch
