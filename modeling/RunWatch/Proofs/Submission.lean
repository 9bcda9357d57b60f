import RunWatch.Proofs.Orderly
set_option autoImplicit false

namespace RunWatch

namespace Session

variable (s : Session)

@[simp] theorem submitting_follow (p : Ticker) : (s.follow p).submitting = s.submitting := by
  rw [follow_eq]
  rfl

@[simp] theorem submitting_hold (run : Run) : (s.hold run).submitting = s.submitting := by
  unfold hold
  split <;> rfl

@[simp] theorem submitting_afterListed (seq : Nat) (r : Except Failure Listing) :
    (s.afterListed seq r).submitting = s.submitting := by
  cases r with
  | error f => rfl
  | ok l =>
    simp only [afterListed, applyListing]
    cases l.runs with
    | nil => rfl
    | cons run rest =>
      dsimp only
      split <;> simp

@[simp] theorem submitting_applyStarted (r : Started) :
    (s.applyStarted r).1.submitting = s.submitting := by
  unfold applyStarted
  dsimp only
  split <;> simp

@[simp] theorem submitting_afterRefusal (f : Failure) :
    (s.afterRefusal f).submitting = s.submitting := by cases f <;> rfl

@[simp] theorem submitting_markLikelyRunning :
    s.markLikelyRunning.submitting = s.submitting := by
  unfold markLikelyRunning
  split <;> rfl

@[simp] theorem likelyRunning_follow (p : Ticker) :
    (s.follow p).likelyRunning = s.likelyRunning := by
  rw [follow_eq]
  rfl

@[simp] theorem likelyRunning_hold (run : Run) :
    (s.hold run).likelyRunning = s.likelyRunning := by
  unfold hold
  split <;> rfl

@[simp] theorem likelyRunning_afterListed (seq : Nat) (r : Except Failure Listing) :
    (s.afterListed seq r).likelyRunning = s.likelyRunning := by
  cases r with
  | error f => rfl
  | ok l =>
    simp only [afterListed, applyListing]
    cases l.runs with
    | nil => rfl
    | cons run rest =>
      dsimp only
      split <;> simp

@[simp] theorem likelyRunning_applyStarted (r : Started) :
    (s.applyStarted r).1.likelyRunning = s.likelyRunning := by
  unfold applyStarted
  dsimp only
  split <;> simp

@[simp] theorem likelyRunning_afterRefusal (f : Failure) :
    (s.afterRefusal f).likelyRunning = s.likelyRunning := by cases f <;> rfl

@[simp] theorem likelyRunning_markLikelyRunning :
    s.markLikelyRunning.likelyRunning = (s.submitting || s.likelyRunning) := by
  cases hs : s.submitting <;> cases hl : s.likelyRunning <;>
    simp [markLikelyRunning, awaitsLikelyRunning, hs, hl]

end Session

structure Standing where
  submitting : Bool
  likely : Bool
  due : Option Nat

def Controller.standing (c : Controller) : Standing :=
  ⟨c.session.submitting, c.session.likelyRunning, c.starting.due⟩

def announcements (as : List Action) : Nat := as.count (.emit (.notice .likelyRunning))

theorem announcements_append (as bs : List Action) :
    announcements (as ++ bs) = announcements as + announcements bs := List.count_append

theorem announcements_publish (s : Snapshot) (as : List Action) :
    announcements (.publish s :: as) = announcements as := List.count_cons_of_ne (by simp)

theorem announcements_followActions (p : Ticker) (now : Nat) (active : Bool) :
    announcements (p.followActions now active) = 0 := by
  unfold Ticker.followActions
  split
  · rfl
  · split <;> rfl

theorem announcements_enrollCalls (f : Fetches) (epoch : Nat) :
    announcements (f.enrollCalls epoch) = 0 := by
  unfold Fetches.enrollCalls
  split <;> rfl

theorem announcements_advanceCalls (f : Fetches) (epoch : Nat) :
    announcements (f.advanceCalls epoch) = 0 := by
  unfold Fetches.advanceCalls
  split <;> rfl

theorem announcements_heldEvents (s : Session) (change : RunChange) :
    announcements ((Turn.heldEvents s change).map .emit) = 0 := by
  unfold Turn.heldEvents
  cases s.latestRun with
  | none => rfl
  | some run => cases change <;> rfl

theorem announcements_replies (ws : List Waiter) (f : Waiter → Reply) :
    announcements (ws.map fun w => .reply w.caller (f w)) = 0 :=
  List.count_eq_zero.2 (by simp)

namespace Controller

/-- What a step may do to a submission, and how often it tells that one counts as starting. -/
inductive Proceeds (now : Nat) (c : Controller) : Input → Standing → Nat → Prop where
  | kept {i : Input} (hs : c.starts i = []) (ht : ∀ k, i.call? ≠ some (.trigger c.epoch k))
      (hr : i.isReset = false) : Proceeds now c i c.standing 0
  | begun (k : Caller) (h : c.session.submitting = false) : Proceeds now c (.command k .start)
      ⟨true, false, some (now + c.timing.startingPhase.nanos)⟩ 0
  | ended (k : Caller) (r : Except Failure Started) :
      Proceeds now c (.triggered c.epoch k r) ⟨false, false, none⟩ 0
  | reset (k : Caller) : Proceeds now c (.command k .reset) ⟨false, false, none⟩ 0
  | elapsed (hd : c.starting.isDue now = true) : Proceeds now c .startingDue
      ⟨c.session.submitting, c.session.submitting || c.session.likelyRunning, none⟩
      (if c.session.submitting && !c.session.likelyRunning then 1 else 0)

theorem step_proceeds (now : Nat) (c : Controller) (i : Input) :
    c.Proceeds now i (c.step now i).state.standing (announcements (c.step now i).actions) := by
  induction i using input_cases now c with
  | fetch k cmd hc =>
    rw [step_fetch now c k hc, announcements_enrollCalls]
    rcases hc with rfl | rfl <;> exact .kept rfl (fun _ h => nomatch h) rfl
  | startRefused k hs =>
    rw [step_start_refused now c k hs]
    exact .kept (if_pos hs) (fun _ h => nomatch h) rfl
  | start k hs =>
    rw [step_start now c k hs]
    exact .begun k hs
  | reset k =>
    rw [step_reset]
    simp only [announcements_append, announcements_replies]
    exact .reset k
  | listedStale epoch seq r he =>
    rw [step_listed_stale now c seq r he]
    exact .kept rfl (fun _ h => nomatch h) rfl
  | listed seq r =>
    rw [step_listed]
    have hn : announcements ((c.session.listedEvents seq r).map .emit) = 0 := by
      cases r with
      | ok l => exact announcements_heldEvents _ _
      | error f => rfl
    simp only [standing, Session.submitting_follow, Session.submitting_afterListed,
      Session.likelyRunning_follow, Session.likelyRunning_afterListed, announcements_append,
      announcements_publish, announcements_followActions, announcements_replies,
      announcements_advanceCalls, hn]
    exact .kept rfl (fun _ h => nomatch h) rfl
  | triggeredStale epoch k r he =>
    rw [step_triggered_stale now c k r he]
    exact .kept rfl (fun _ h => he (Request.trigger.inj (Option.some.inj h)).1) rfl
  | started k r =>
    rw [step_started]
    simp only [standing, Session.submitting_follow, Session.submitting_applyStarted,
      Session.likelyRunning_follow, Session.likelyRunning_applyStarted, announcements_append,
      announcements_followActions, announcements_heldEvents]
    exact .ended k _
  | conflict k runId message requestId =>
    rw [step_conflict]
    simp only [standing, Session.submitting_follow, Session.likelyRunning_follow,
      announcements_append, announcements_publish, announcements_followActions,
      announcements_enrollCalls]
    exact .ended k _
  | refused k f hf =>
    rw [step_refused now c k hf]
    simp only [standing, Session.submitting_afterRefusal, Session.likelyRunning_afterRefusal]
    cases f <;> exact .ended k _
  | pollEarly hd =>
    rw [step_pollDue_early now c hd]
    exact .kept rfl (fun _ h => nomatch h) rfl
  | poll hd =>
    rw [step_pollDue now c hd, announcements_append, announcements_enrollCalls]
    exact .kept rfl (fun _ h => nomatch h) rfl
  | startingEarly hd =>
    rw [step_startingDue_early now c hd]
    exact .kept rfl (fun _ h => nomatch h) rfl
  | starting hd =>
    rw [step_startingDue now c hd]
    have ha : announcements (if c.session.awaitsLikelyRunning then
        [.emit (.notice .likelyRunning)] ++ [.publish c.session.markLikelyRunning.snapshot]
        else []) = if c.session.submitting && !c.session.likelyRunning then 1 else 0 := by
      unfold Session.awaitsLikelyRunning
      split <;> rfl
    simp only [standing, Session.submitting_markLikelyRunning,
      Session.likelyRunning_markLikelyRunning, ha]
    exact .elapsed hd

end Controller

namespace History

variable {timing : Timing}

variable (timing) in
/-- The calls of starts that are pending in the epoch: one while a submission is open, none
otherwise. -/
structure Submission (past : History) : Prop where
  open_iff : (controller timing past).session.submitting = true ↔
    ∃ k, .trigger (controller timing past).epoch k ∈ pending timing past
  alone {k k' : Caller} (h : .trigger (controller timing past).epoch k ∈ pending timing past)
    (h' : .trigger (controller timing past).epoch k' ∈ pending timing past) : k = k'

theorem Orderly.submission {past : History} (h : Orderly timing past) :
    Submission timing past := by
  induction past with
  | nil => exact ⟨by simp [controller, pending], by simp [pending]⟩
  | cons e past ih =>
    obtain ⟨now, i⟩ := e
    obtain ⟨hp, -, hi⟩ := h
    obtain ⟨hopen, halone⟩ := ih hp
    have he := (controller timing past).step_epoch now i
    have hs := (controller timing past).step_proceeds now i
    have hm (epoch : Nat) (k : Caller) : .trigger epoch k ∈ pending timing ((now, i) :: past) ↔
        .trigger epoch k ∈ pending timing past ∧ i.call? ≠ some (.trigger epoch k) ∨
          (epoch, k) ∈ (controller timing past).starts i := by
      rw [mem_pending_cons, Turn.trigger_mem_calls, Controller.step_starts]
    suffices hP : ∃ P : Caller → Prop,
        (∀ k, .trigger (controller timing ((now, i) :: past)).epoch k ∈
          pending timing ((now, i) :: past) ↔ P k) ∧
        ((controller timing ((now, i) :: past)).session.submitting = true ↔ ∃ k, P k) ∧
        ∀ k k', P k → P k' → k = k' by
      obtain ⟨P, hP, ho, ha⟩ := hP
      exact ⟨by simp only [hP, ho], fun h h' => ha _ _ ((hP _).1 h) ((hP _).1 h')⟩
    simp only [controller, hm]
    generalize ((controller timing past).step now i).state.epoch = epoch at he ⊢
    have hb : ((controller timing past).step now i).state.session.submitting =
        ((controller timing past).step now i).state.standing.submitting := rfl
    rw [hb]
    generalize ((controller timing past).step now i).state.standing = standing at hs ⊢
    generalize announcements ((controller timing past).step now i).actions = n at hs
    cases hs with
    | kept hs ht hr =>
      obtain rfl : epoch = (controller timing past).epoch := by simpa [hr] using he
      exact ⟨_, by simp [hs, ht], hopen, fun _ _ => halone⟩
    | begun k hn =>
      obtain rfl : epoch = (controller timing past).epoch := he
      have hnone : ∀ k, .trigger (controller timing past).epoch k ∉ pending timing past := by
        simpa [hn] using hopen
      exact ⟨(· = k), by simp [Controller.starts, hn, hnone], by simp, by simp⟩
    | ended k r =>
      obtain rfl : epoch = (controller timing past).epoch := he
      refine ⟨fun _ => False, fun k' => ?_, by simp, by simp⟩
      simp only [Controller.starts, List.not_mem_nil, or_false, iff_false]
      rintro ⟨hk, hne⟩
      rw [halone hi hk] at hne
      exact hne rfl
    | reset k =>
      obtain rfl : epoch = (controller timing past).epoch + 1 := he
      refine ⟨fun _ => False, fun k' => ?_, by simp, by simp⟩
      have hn : .trigger ((controller timing past).epoch + 1) k' ∉ pending timing past := fun hk =>
        Nat.not_succ_le_self _ (epoch_le_of_mem timing (mem_requests_of_mem_pending hk) rfl)
      simp [Controller.starts, hn]
    | elapsed hd =>
      obtain rfl : epoch = (controller timing past).epoch := he
      exact ⟨_, by simp [Controller.starts, Input.call?], hopen, fun _ _ => halone⟩

end History

end RunWatch
