import RunWatch.Proofs.Session
import RunWatch.Proofs.Turn
/-!
What one step of a controller does, told once for each kind of input: the state it leads to and the
actions it asks for, in closed form. Every law of a whole run rests on these equations, none of it
on the handlers themselves.
-/
set_option autoImplicit false

namespace RunWatch

namespace Session

def afterListed (s : Session) (seq : Nat) : Except Failure Listing → Session
  | .ok l => (s.applyListing l seq).1
  | .error f => s.recordFailure f.message

def listedEvents (s : Session) (seq : Nat) : Except Failure Listing → List Event
  | .ok l => Turn.heldEvents (s.applyListing l seq).1 (s.applyListing l seq).2
  | .error f => [.notice (.requestFailed f.message)]

@[simp] theorem polling_afterListed (s : Session) (seq : Nat) (r : Except Failure Listing) :
    (s.afterListed seq r).polling = s.polling := by
  cases r with
  | ok l => exact polling_applyListing s l seq
  | error f => rfl

def afterRefusal (s : Session) : Failure → Session
  | .cooldown safety message _ => s.applyCooldown safety message
  | f => s.recordFailure f.message

def refusalEvent (s : Session) : Failure → Event
  | .cooldown safety message _ => .cooldownBlocked (s.applyCooldown safety message).safety
  | f => .notice (.requestFailed f.message)

@[simp] theorem polling_afterRefusal (s : Session) (f : Failure) :
    (s.afterRefusal f).polling = s.polling := by cases f <;> rfl

@[simp] theorem runActive_afterRefusal (s : Session) (f : Failure) :
    (s.afterRefusal f).runActive = s.runActive := by cases f <;> rfl

@[simp] theorem conflictAfter_afterRefusal (s : Session) (f : Failure) :
    (s.afterRefusal f).conflictAfter = s.conflictAfter := by cases f <;> rfl

end Session

def Input.isReset : Input → Bool
  | .command _ .reset => true
  | _ => false

namespace Controller

variable (now : Nat) (c : Controller)

theorem step_fetch (k : Caller) {cmd : Command} (h : cmd = .bootstrap ∨ cmd = .sync) :
    c.step now (.command k cmd) =
      ⟨{ c with fetches := c.fetches.enroll (.fetch k) }, c.fetches.enrollCalls c.epoch⟩ := by
  rcases h with rfl | rfl <;> ext1 <;> simp [step, command]

theorem step_start_refused (k : Caller) (h : c.session.submitting = true) :
    c.step now (.command k .start) = ⟨c, [.reply k (localError alreadySubmitting)]⟩ := by
  ext1 <;> simp [step, command, start, h]

theorem step_start (k : Caller) (h : c.session.submitting = false) :
    c.step now (.command k .start) =
      ⟨{ c with
          session := c.session.beginSubmission
          starting := c.starting.set now c.timing.startingPhase },
        [.wakeAt (now + c.timing.startingPhase.nanos)] ++
          [.publish c.session.beginSubmission.snapshot, .trigger c.epoch k]⟩ := by
  ext1 <;> simp [step, command, start, h, Deadline.set]

theorem step_reset (k : Caller) :
    c.step now (.command k .reset) =
      ⟨{ c with
          session := {}
          epoch := c.epoch + 1
          poll := c.poll.disarm
          starting := c.starting.clear
          fetches := { issued := c.fetches.issued } },
        ((c.fetches.current ++ c.fetches.followUp).map fun w => .reply w.caller (resetReply w)) ++
          [.emit (.notice .reset)] ++ [.publish (Session.snapshot {}), .reply k .done]⟩ := by
  ext1 <;> simp [step, command, reset]

theorem step_listed_stale {epoch : Nat} (seq : Nat) (r : Except Failure Listing)
    (h : epoch ≠ c.epoch) : c.step now (.listed epoch seq r) = ⟨c, []⟩ := by
  simp [step, h]

theorem state_applyListed (t : Turn) (seq : Nat) (r : Except Failure Listing) :
    (applyListed t seq r).state =
      { t.state with session := t.state.session.afterListed seq r } := by
  cases r <;> simp [applyListed, noteFailure, Session.afterListed]

theorem actions_applyListed (t : Turn) (seq : Nat) (r : Except Failure Listing) :
    (applyListed t seq r).actions =
      t.actions ++ (t.state.session.listedEvents seq r).map .emit := by
  cases r <;> simp [applyListed, noteFailure, Session.listedEvents]

/-- A list call of this epoch is applied, polling follows, the session is shown, and then those who
waited are answered and the next call is made. -/
theorem step_listed (seq : Nat) (r : Except Failure Listing) :
    c.step now (.listed c.epoch seq r) =
      ⟨{ c with
          session := (c.session.afterListed seq r).follow c.poll
          poll := c.poll.follow now (c.session.afterListed seq r).runActive
          fetches := c.fetches.advance },
        (c.session.listedEvents seq r).map .emit ++
          c.poll.followActions now (c.session.afterListed seq r).runActive ++
          .publish ((c.session.afterListed seq r).follow c.poll).snapshot ::
            ((c.fetches.current.map fun w => .reply w.caller
              (Turn.waiterReply ((c.session.afterListed seq r).follow c.poll) w)) ++
            c.fetches.advanceCalls c.epoch)⟩ := by
  simp only [step, if_true]
  unfold listed Turn.followUp Fetches.advance Fetches.advanceCalls
  ext1
  · split <;> simp_all [state_applyListed]
  · split <;> simp_all [state_applyListed, actions_applyListed]

theorem step_triggered_stale {epoch : Nat} (k : Caller) (r : Except Failure Started)
    (h : epoch ≠ c.epoch) :
    c.step now (.triggered epoch k r) = ⟨c, [.reply k (localError resetMeanwhile)]⟩ := by
  ext1 <;> simp [step, h]

theorem step_started (k : Caller) (r : Started) :
    c.step now (.triggered c.epoch k (.ok r)) =
      ⟨{ c with
          starting := c.starting.clear
          session := (c.session.endSubmission.applyStarted r).1.follow c.poll
          poll := c.poll.follow now (c.session.endSubmission.applyStarted r).1.runActive },
        (Turn.heldEvents (c.session.endSubmission.applyStarted r).1
            (c.session.endSubmission.applyStarted r).2).map .emit ++
          c.poll.followActions now (c.session.endSubmission.applyStarted r).1.runActive ++
          [.publish ((c.session.endSubmission.applyStarted r).1.follow c.poll).snapshot,
            .reply k (.outcome (.started r.runId r.reused))]⟩ := by
  ext1 <;> simp [step, triggered]

theorem step_conflict (k : Caller) (runId : Option UInt64) (message : String)
    (requestId : Option String) :
    c.step now (.triggered c.epoch k (.error (.conflict runId message requestId))) =
      ⟨{ c with
          starting := c.starting.clear
          session := (c.session.endSubmission.markConflict c.fetches.issued).follow c.poll
          poll := c.poll.follow now true
          fetches := c.fetches.enroll (.conflict k runId requestId) },
        [.emit (.notice (.message followingOther))] ++ c.poll.followActions now true ++
          .publish
            ((c.session.endSubmission.markConflict c.fetches.issued).follow c.poll).snapshot ::
            c.fetches.enrollCalls c.epoch⟩ := by
  have h : (c.session.endSubmission.markConflict c.fetches.issued).runActive = true := rfl
  ext1 <;> simp [step, triggered, h]

theorem step_refused (k : Caller) {f : Failure}
    (h : ∀ runId message requestId, f ≠ .conflict runId message requestId) :
    c.step now (.triggered c.epoch k (.error f)) =
      ⟨{ c with
          starting := c.starting.clear
          session := c.session.endSubmission.afterRefusal f },
        [.emit (c.session.endSubmission.refusalEvent f)] ++
          [.publish (c.session.endSubmission.afterRefusal f).snapshot,
            .reply k (.outcome (.ofFailure f))]⟩ := by
  cases f with
  | conflict runId message requestId => exact absurd rfl (h runId message requestId)
  | cooldown safety message requestId =>
    ext1 <;> simp [step, triggered, Session.afterRefusal, Session.refusalEvent]
  | refused status code message requestId =>
    ext1 <;> simp [step, triggered, noteFailure, Session.afterRefusal, Session.refusalEvent]
  | transport message =>
    ext1 <;> simp [step, triggered, noteFailure, Session.afterRefusal, Session.refusalEvent]

theorem step_pollDue_early (h : c.poll.isDue now = false) : c.step now .pollDue = ⟨c, []⟩ := by
  simp [step, pollDue, h]

theorem step_pollDue (h : c.poll.isDue now = true) :
    c.step now .pollDue =
      ⟨{ c with
          poll := c.poll.fire now
          fetches :=
            if c.fetches.inFlight then c.fetches
            else { c.fetches with inFlight := true, issued := c.fetches.issued + 1 } },
        [.wakeAt (now + c.poll.interval.nanos)] ++ c.fetches.enrollCalls c.epoch⟩ := by
  cases hf : c.fetches.inFlight <;> ext1 <;>
    simp [step, pollDue, h, hf, Ticker.fire, Fetches.enrollCalls]

theorem step_startingDue_early (h : c.starting.isDue now = false) :
    c.step now .startingDue = ⟨c, []⟩ := by
  simp [step, startingDue, h]

theorem step_startingDue (h : c.starting.isDue now = true) :
    c.step now .startingDue =
      ⟨{ c with starting := c.starting.clear, session := c.session.markLikelyRunning },
        if c.session.awaitsLikelyRunning then
          [.emit (.notice .likelyRunning)] ++ [.publish c.session.markLikelyRunning.snapshot]
        else []⟩ := by
  cases ha : c.session.awaitsLikelyRunning <;> ext1 <;>
    simp [step, startingDue, h, ha, Session.markLikelyRunning]

/-- The kinds of input, as the equations above tell them apart. -/
@[elab_as_elim] theorem input_cases {motive : Input → Prop}
    (fetch : ∀ k cmd, cmd = .bootstrap ∨ cmd = .sync → motive (.command k cmd))
    (startRefused : ∀ k, c.session.submitting = true → motive (.command k .start))
    (start : ∀ k, c.session.submitting = false → motive (.command k .start))
    (reset : ∀ k, motive (.command k .reset))
    (listedStale : ∀ epoch seq r, epoch ≠ c.epoch → motive (.listed epoch seq r))
    (listed : ∀ seq r, motive (.listed c.epoch seq r))
    (triggeredStale : ∀ epoch k r, epoch ≠ c.epoch → motive (.triggered epoch k r))
    (started : ∀ k r, motive (.triggered c.epoch k (.ok r)))
    (conflict : ∀ k runId message requestId,
      motive (.triggered c.epoch k (.error (.conflict runId message requestId))))
    (refused : ∀ k f, (∀ runId message requestId, f ≠ .conflict runId message requestId) →
      motive (.triggered c.epoch k (.error f)))
    (pollEarly : c.poll.isDue now = false → motive .pollDue)
    (poll : c.poll.isDue now = true → motive .pollDue)
    (startingEarly : c.starting.isDue now = false → motive .startingDue)
    (starting : c.starting.isDue now = true → motive .startingDue)
    (i : Input) : motive i := by
  cases i with
  | command k cmd =>
    cases cmd with
    | bootstrap => exact fetch k _ (.inl rfl)
    | sync => exact fetch k _ (.inr rfl)
    | start =>
      cases h : c.session.submitting with
      | true => exact startRefused k h
      | false => exact start k h
    | reset => exact reset k
  | listed epoch seq r =>
    by_cases h : epoch = c.epoch
    · subst h
      exact listed seq r
    · exact listedStale epoch seq r h
  | triggered epoch k r =>
    by_cases h : epoch = c.epoch
    · subst h
      cases r with
      | ok r => exact started k r
      | error f =>
        cases f with
        | conflict runId message requestId => exact conflict k runId message requestId
        | _ => exact refused k _ (by simp)
    · exact triggeredStale epoch k r h
  | pollDue =>
    cases h : c.poll.isDue now with
    | true => exact poll h
    | false => exact pollEarly h
  | startingDue =>
    cases h : c.starting.isDue now with
    | true => exact starting h
    | false => exact startingEarly h

theorem step_epoch (i : Input) :
    (c.step now i).state.epoch = if i.isReset then c.epoch + 1 else c.epoch := by
  induction i using input_cases now c with
  | fetch k cmd hc =>
    rw [step_fetch now c k hc]
    rcases hc with rfl | rfl <;> rfl
  | startRefused k hs =>
    rw [step_start_refused now c k hs]
    rfl
  | start k hs =>
    rw [step_start now c k hs]
    rfl
  | reset k =>
    rw [step_reset]
    rfl
  | listedStale epoch seq r he =>
    rw [step_listed_stale now c seq r he]
    rfl
  | listed seq r =>
    rw [step_listed]
    rfl
  | triggeredStale epoch k r he =>
    rw [step_triggered_stale now c k r he]
    rfl
  | started k r =>
    rw [step_started]
    rfl
  | conflict k runId message requestId =>
    rw [step_conflict]
    rfl
  | refused k f hf =>
    rw [step_refused now c k hf]
    rfl
  | pollEarly hd =>
    rw [step_pollDue_early now c hd]
    rfl
  | poll hd =>
    rw [step_pollDue now c hd]
    rfl
  | startingEarly hd =>
    rw [step_startingDue_early now c hd]
    rfl
  | starting hd =>
    rw [step_startingDue now c hd]
    rfl

theorem epoch_le_step (i : Input) : c.epoch ≤ (c.step now i).state.epoch := by
  rw [step_epoch]
  split <;> omega

theorem step_timing (i : Input) :
    (c.step now i).state.timing = c.timing ∧
      (c.step now i).state.poll.interval = c.poll.interval := by
  induction i using input_cases now c with
  | fetch k cmd hc =>
    rw [step_fetch now c k hc]
    exact ⟨rfl, rfl⟩
  | startRefused k hs =>
    rw [step_start_refused now c k hs]
    exact ⟨rfl, rfl⟩
  | start k hs =>
    rw [step_start now c k hs]
    exact ⟨rfl, rfl⟩
  | reset k =>
    rw [step_reset]
    exact ⟨rfl, rfl⟩
  | listedStale epoch seq r he =>
    rw [step_listed_stale now c seq r he]
    exact ⟨rfl, rfl⟩
  | listed seq r =>
    rw [step_listed]
    exact ⟨rfl, c.poll.interval_follow now _⟩
  | triggeredStale epoch k r he =>
    rw [step_triggered_stale now c k r he]
    exact ⟨rfl, rfl⟩
  | started k r =>
    rw [step_started]
    exact ⟨rfl, c.poll.interval_follow now _⟩
  | conflict k runId message requestId =>
    rw [step_conflict]
    exact ⟨rfl, c.poll.interval_follow now _⟩
  | refused k f hf =>
    rw [step_refused now c k hf]
    exact ⟨rfl, rfl⟩
  | pollEarly hd =>
    rw [step_pollDue_early now c hd]
    exact ⟨rfl, rfl⟩
  | poll hd =>
    rw [step_pollDue now c hd]
    exact ⟨rfl, rfl⟩
  | startingEarly hd =>
    rw [step_startingDue_early now c hd]
    exact ⟨rfl, rfl⟩
  | starting hd =>
    rw [step_startingDue now c hd]
    exact ⟨rfl, rfl⟩

end Controller

end RunWatch
