import RunWatch.Proofs.Step
/-!
A controller does not depend on where its counts begin. Moving its clock, its epochs, the numbers of
its list calls and those of its callers moves what it does by the same amounts, and neither what it
shows nor what it tells at all.
-/
set_option autoImplicit false

namespace RunWatch

/-- By how much counts are ahead of others. -/
structure Shift where
  clock : Nat := 0
  epoch : Nat := 0
  seq : Nat := 0
  caller : Nat := 0

def Ticker.shift (p : Shift) (t : Ticker) : Ticker := { t with due := t.due.map (p.clock + ·) }

def Deadline.shift (p : Shift) (d : Deadline) : Deadline := ⟨d.due.map (p.clock + ·)⟩

def Session.shift (p : Shift) (s : Session) : Session :=
  { s with conflictAfter := s.conflictAfter.map (p.seq + ·) }

def Waiter.shift (p : Shift) : Waiter → Waiter
  | .fetch k => .fetch (p.caller + k)
  | .conflict k runId requestId => .conflict (p.caller + k) runId requestId

def Fetches.shift (p : Shift) (f : Fetches) : Fetches where
  inFlight := f.inFlight
  issued := p.seq + f.issued
  current := f.current.map (·.shift p)
  followUp := f.followUp.map (·.shift p)

def Controller.shift (p : Shift) (c : Controller) : Controller where
  timing := c.timing
  session := c.session.shift p
  epoch := p.epoch + c.epoch
  poll := c.poll.shift p
  starting := c.starting.shift p
  fetches := c.fetches.shift p

def Input.shift (p : Shift) : Input → Input
  | .command k cmd => .command (p.caller + k) cmd
  | .listed epoch seq r => .listed (p.epoch + epoch) (p.seq + seq) r
  | .triggered epoch k r => .triggered (p.epoch + epoch) (p.caller + k) r
  | .pollDue => .pollDue
  | .startingDue => .startingDue

def Action.shift (p : Shift) : Action → Action
  | .emit e => .emit e
  | .publish s => .publish s
  | .reply k r => .reply (p.caller + k) r
  | .list epoch seq => .list (p.epoch + epoch) (p.seq + seq)
  | .trigger epoch k => .trigger (p.epoch + epoch) (p.caller + k)
  | .wakeAt due => .wakeAt (p.clock + due)

@[simp] theorem Action.shift_emit (p : Shift) (e : Event) : (emit e).shift p = emit e := rfl

@[simp] theorem Action.shift_publish (p : Shift) (s : Snapshot) :
    (publish s).shift p = publish s := rfl

@[simp] theorem Action.shift_reply (p : Shift) (k : Caller) (r : Reply) :
    (reply k r).shift p = reply (p.caller + k) r := rfl

@[simp] theorem Action.shift_list (p : Shift) (epoch seq : Nat) :
    (list epoch seq).shift p = list (p.epoch + epoch) (p.seq + seq) := rfl

@[simp] theorem Action.shift_trigger (p : Shift) (epoch : Nat) (k : Caller) :
    (trigger epoch k).shift p = trigger (p.epoch + epoch) (p.caller + k) := rfl

@[simp] theorem Action.shift_wakeAt (p : Shift) (due : Nat) :
    (wakeAt due).shift p = wakeAt (p.clock + due) := rfl

def Turn.shift (p : Shift) (t : Turn) : Turn := ⟨t.state.shift p, t.actions.map (·.shift p)⟩

variable (p : Shift)

namespace Ticker

@[simp] theorem interval_shift (t : Ticker) : (t.shift p).interval = t.interval := rfl

@[simp] theorem isArmed_shift (t : Ticker) : (t.shift p).isArmed = t.isArmed := by
  simp [isArmed, shift]

@[simp] theorem isDue_shift (t : Ticker) (now : Nat) :
    (t.shift p).isDue (p.clock + now) = t.isDue now := by
  cases h : t.due <;> simp [isDue, shift, h]

theorem fire_shift (t : Ticker) (now : Nat) :
    (t.shift p).fire (p.clock + now) = (t.fire now).shift p := by
  simp [fire, shift, Nat.add_assoc]

theorem disarm_shift (t : Ticker) : (t.shift p).disarm = t.disarm.shift p := rfl

theorem arm_shift (t : Ticker) (now : Nat) :
    (t.shift p).arm (p.clock + now) = (t.arm now).shift p := by
  unfold arm
  rw [isArmed_shift]
  split
  · rfl
  · simp [shift, Nat.add_assoc]

theorem follow_shift (t : Ticker) (now : Nat) (active : Bool) :
    (t.shift p).follow (p.clock + now) active = (t.follow now active).shift p := by
  cases active with
  | true => exact t.arm_shift p now
  | false => rfl

theorem followActions_shift (t : Ticker) (now : Nat) (active : Bool) :
    (t.shift p).followActions (p.clock + now) active =
      (t.followActions now active).map (·.shift p) := by
  unfold followActions
  rw [isArmed_shift]
  split
  · rfl
  · split <;> simp [Nat.add_assoc]

end Ticker

namespace Deadline

theorem isDue_shift (d : Deadline) (now : Nat) :
    (d.shift p).isDue (p.clock + now) = d.isDue now := by
  cases h : d.due <;> simp [isDue, shift, h]

theorem set_shift (d : Deadline) (now : Nat) (after : Span) :
    (d.shift p).set (p.clock + now) after = (d.set now after).shift p := by
  simp [set, shift, Nat.add_assoc]

end Deadline

namespace Session

@[simp] theorem latestRun_shift (s : Session) : (s.shift p).latestRun = s.latestRun := rfl

@[simp] theorem runActive_shift (s : Session) : (s.shift p).runActive = s.runActive := by
  simp [runActive, shift]

@[simp] theorem snapshot_shift (s : Session) : (s.shift p).snapshot = s.snapshot := by
  simp [snapshot, canStart, shift, runActive]

theorem follow_shift (s : Session) (t : Ticker) :
    (s.shift p).follow (t.shift p) = (s.follow t).shift p := by
  unfold follow
  rw [runActive_shift, Ticker.isArmed_shift]
  split <;> rfl

theorem hold_shift (s : Session) (run : Run) : (s.shift p).hold run = (s.hold run).shift p := by
  unfold hold
  rw [latestRun_shift]
  split <;> rfl

theorem any_conflictAfter_shift (s : Session) (seq : Nat) :
    (s.shift p).conflictAfter.any (· < p.seq + seq) = s.conflictAfter.any (· < seq) := by
  cases h : s.conflictAfter <;> simp [shift, h]

theorem applyListing_shift (s : Session) (l : Listing) (seq : Nat) :
    (s.shift p).applyListing l (p.seq + seq) =
      ((s.applyListing l seq).1.shift p, (s.applyListing l seq).2) := by
  unfold applyListing
  have hs : { s.shift p with safety := .normalize l.safety, lastError := none } =
      { s with safety := .normalize l.safety, lastError := none }.shift p := rfl
  rw [hs]
  cases l.runs with
  | nil => rfl
  | cons run rest =>
    dsimp only
    rw [latestRun_shift, hold_shift, any_conflictAfter_shift]
    split <;> rfl

theorem applyStarted_shift (s : Session) (r : Started) :
    (s.shift p).applyStarted r = ((s.applyStarted r).1.shift p, (s.applyStarted r).2) := by
  unfold applyStarted
  have hs : { s.shift p with safety := .normalize r.safety, lastError := none } =
      { s with safety := .normalize r.safety, lastError := none }.shift p := rfl
  rw [hs]
  dsimp only
  rw [latestRun_shift, hold_shift]
  split <;> rfl

theorem afterListed_shift (s : Session) (seq : Nat) (r : Except Failure Listing) :
    (s.shift p).afterListed (p.seq + seq) r = (s.afterListed seq r).shift p := by
  cases r with
  | ok l => exact congrArg Prod.fst (s.applyListing_shift p l seq)
  | error f => rfl

theorem heldEvents_shift (s : Session) (change : RunChange) :
    Turn.heldEvents (s.shift p) change = Turn.heldEvents s change := rfl

theorem listedEvents_shift (s : Session) (seq : Nat) (r : Except Failure Listing) :
    (s.shift p).listedEvents (p.seq + seq) r = s.listedEvents seq r := by
  cases r with
  | ok l =>
    simp only [listedEvents]
    rw [applyListing_shift, heldEvents_shift]
  | error f => rfl

theorem afterRefusal_shift (s : Session) (f : Failure) :
    (s.shift p).afterRefusal f = (s.afterRefusal f).shift p := by cases f <;> rfl

theorem refusalEvent_shift (s : Session) (f : Failure) :
    (s.shift p).refusalEvent f = s.refusalEvent f := by cases f <;> rfl

theorem awaitsLikelyRunning_shift (s : Session) :
    (s.shift p).awaitsLikelyRunning = s.awaitsLikelyRunning := rfl

theorem markLikelyRunning_shift (s : Session) :
    (s.shift p).markLikelyRunning = s.markLikelyRunning.shift p := by
  unfold markLikelyRunning
  rw [awaitsLikelyRunning_shift]
  split <;> rfl

end Session

namespace Fetches

@[simp] theorem inFlight_shift (f : Fetches) : (f.shift p).inFlight = f.inFlight := rfl

@[simp] theorem issued_shift (f : Fetches) : (f.shift p).issued = p.seq + f.issued := rfl

theorem enroll_shift (f : Fetches) (w : Waiter) :
    (f.shift p).enroll (w.shift p) = (f.enroll w).shift p := by
  unfold enroll
  rw [inFlight_shift]
  split <;> simp [shift, Nat.add_assoc]

theorem enrollCalls_shift (f : Fetches) (epoch : Nat) :
    (f.shift p).enrollCalls (p.epoch + epoch) = (f.enrollCalls epoch).map (·.shift p) := by
  unfold enrollCalls
  rw [inFlight_shift]
  split <;> simp [Nat.add_assoc]

theorem advance_shift (f : Fetches) : (f.shift p).advance = f.advance.shift p := by
  cases h : f.followUp <;> simp [advance, shift, h, Nat.add_assoc]

theorem advanceCalls_shift (f : Fetches) (epoch : Nat) :
    (f.shift p).advanceCalls (p.epoch + epoch) = (f.advanceCalls epoch).map (·.shift p) := by
  cases h : f.followUp <;> simp [advanceCalls, shift, h, Nat.add_assoc]

end Fetches
namespace Turn

theorem waiterReply_shift (s : Session) (w : Waiter) :
    waiterReply (s.shift p) (w.shift p) = waiterReply s w := by
  cases w <;> rfl

theorem caller_shift (w : Waiter) : (w.shift p).caller = p.caller + w.caller := by cases w <;> rfl

theorem map_emit_shift (es : List Event) :
    (es.map Action.emit).map (·.shift p) = es.map .emit := by
  simp [Function.comp_def]

theorem map_reply_shift {f g : Waiter → Reply} (h : ∀ w, g (w.shift p) = f w) (ws : List Waiter) :
    (ws.map (·.shift p)).map (fun w => Action.reply w.caller (g w)) =
      (ws.map fun w => Action.reply w.caller (f w)).map (·.shift p) := by
  simp [Function.comp_def, h, caller_shift]

end Turn

namespace Controller

open Turn

@[simp] theorem timing_shift (c : Controller) : (c.shift p).timing = c.timing := rfl

@[simp] theorem session_shift (c : Controller) : (c.shift p).session = c.session.shift p := rfl

@[simp] theorem epoch_shift (c : Controller) : (c.shift p).epoch = p.epoch + c.epoch := rfl

@[simp] theorem poll_shift (c : Controller) : (c.shift p).poll = c.poll.shift p := rfl

@[simp] theorem starting_shift (c : Controller) : (c.shift p).starting = c.starting.shift p := rfl

@[simp] theorem fetches_shift (c : Controller) : (c.shift p).fetches = c.fetches.shift p := rfl

theorem resetReply_shift (w : Waiter) : resetReply (w.shift p) = resetReply w := by
  cases w <;> rfl

/-- A step commutes with a shift. -/
theorem step_shift (now : Nat) (c : Controller) (i : Input) :
    (c.shift p).step (p.clock + now) (i.shift p) = (c.step now i).shift p := by
  induction i using input_cases now c with
  | fetch k cmd hc =>
    rw [step_fetch now c k hc, Input.shift, step_fetch _ _ _ hc]
    ext1
    · exact congrArg (fun f => { c.shift p with fetches := f })
        (c.fetches.enroll_shift p (.fetch k))
    · exact c.fetches.enrollCalls_shift p c.epoch
  | startRefused k hs =>
    rw [step_start_refused now c k hs, Input.shift, step_start_refused _ (c.shift p) _ hs]
    rfl
  | start k hs =>
    rw [step_start now c k hs, Input.shift, step_start _ (c.shift p) _ hs]
    ext1
    · exact congrArg (fun d => { c.shift p with
        session := c.session.beginSubmission.shift p
        starting := d }) (c.starting.set_shift p now c.timing.startingPhase)
    · have hb : (c.session.shift p).beginSubmission.snapshot = c.session.beginSubmission.snapshot :=
        c.session.beginSubmission.snapshot_shift p
      simp [Turn.shift, hb, Nat.add_assoc]
  | reset k =>
    rw [step_reset, Input.shift, step_reset]
    ext1
    · simp [Turn.shift, shift, Nat.add_assoc, Session.shift, Fetches.shift, Ticker.disarm_shift,
        Deadline.shift, Deadline.clear]
    · have hw := map_reply_shift p (resetReply_shift p) (c.fetches.current ++ c.fetches.followUp)
      rw [List.map_append] at hw
      simp only [fetches_shift, Fetches.shift, Turn.shift, List.map_append, hw]
      rfl
  | listedStale epoch seq r he =>
    rw [step_listed_stale now c seq r he, Input.shift, step_listed_stale]
    · rfl
    · simpa using he
  | listed seq r =>
    have h := step_listed (p.clock + now) (c.shift p) (p.seq + seq) r
    simp only [session_shift, poll_shift, fetches_shift, epoch_shift, Session.afterListed_shift,
      Session.listedEvents_shift, Session.follow_shift, Session.runActive_shift,
      Session.snapshot_shift, Ticker.follow_shift, Ticker.followActions_shift,
      Fetches.advance_shift, Fetches.advanceCalls_shift] at h
    rw [step_listed, Input.shift, h]
    ext1
    · rfl
    · have hw := map_reply_shift p
        (waiterReply_shift p ((c.session.afterListed seq r).follow c.poll)) c.fetches.current
      simp only [Turn.shift, Fetches.shift, List.map_append, List.map_cons, hw, map_emit_shift]
      rfl
  | triggeredStale epoch k r he =>
    rw [step_triggered_stale now c k r he, Input.shift, step_triggered_stale]
    · rfl
    · simpa using he
  | started k r =>
    have h := step_started (p.clock + now) (c.shift p) (p.caller + k) r
    have he : (c.session.shift p).endSubmission = c.session.endSubmission.shift p := rfl
    simp only [session_shift, poll_shift, epoch_shift, he, Session.applyStarted_shift,
      Session.heldEvents_shift, Session.follow_shift, Session.runActive_shift,
      Session.snapshot_shift, Ticker.follow_shift, Ticker.followActions_shift] at h
    rw [step_started, Input.shift, h]
    ext1
    · rfl
    · simp only [Turn.shift, List.map_append, map_emit_shift]
      rfl
  | conflict k runId message requestId =>
    have h := step_conflict (p.clock + now) (c.shift p) (p.caller + k) runId message requestId
    have hm : (c.session.shift p).endSubmission.markConflict (p.seq + c.fetches.issued) =
        (c.session.endSubmission.markConflict c.fetches.issued).shift p := rfl
    have ha := c.fetches.enroll_shift p (.conflict k runId requestId)
    rw [Waiter.shift] at ha
    simp only [session_shift, poll_shift, fetches_shift, epoch_shift, Fetches.issued_shift, hm, ha,
      Session.follow_shift, Session.snapshot_shift, Ticker.follow_shift,
      Ticker.followActions_shift, Fetches.enrollCalls_shift] at h
    rw [step_conflict, Input.shift, h]
    ext1
    · rfl
    · simp [Turn.shift]
  | refused k f hf =>
    have h := step_refused (p.clock + now) (c.shift p) (p.caller + k) hf
    have he : (c.session.shift p).endSubmission = c.session.endSubmission.shift p := rfl
    simp only [session_shift, epoch_shift, he, Session.afterRefusal_shift,
      Session.refusalEvent_shift, Session.snapshot_shift] at h
    rw [step_refused now c k hf, Input.shift, h]
    rfl
  | pollEarly hd =>
    rw [step_pollDue_early now c hd, Input.shift, step_pollDue_early]
    · rfl
    · exact (c.poll.isDue_shift p now).trans hd
  | poll hd =>
    have hd' : (c.shift p).poll.isDue (p.clock + now) = true := (c.poll.isDue_shift p now).trans hd
    have h := step_pollDue (p.clock + now) (c.shift p) hd'
    simp only [poll_shift, fetches_shift, epoch_shift, Ticker.fire_shift, Ticker.interval_shift,
      Fetches.inFlight_shift, Fetches.enrollCalls_shift] at h
    rw [step_pollDue now c hd, Input.shift, h]
    ext1
    · by_cases hf : c.fetches.inFlight = true
      · simp [Turn.shift, shift, hf]
      · simp [Turn.shift, shift, Fetches.shift, hf, Nat.add_assoc]
    · simp [Turn.shift, Nat.add_assoc]
  | startingEarly hd =>
    rw [step_startingDue_early now c hd, Input.shift, step_startingDue_early]
    · rfl
    · exact (c.starting.isDue_shift p now).trans hd
  | starting hd =>
    have hd' : (c.shift p).starting.isDue (p.clock + now) = true :=
      (c.starting.isDue_shift p now).trans hd
    have h := step_startingDue (p.clock + now) (c.shift p) hd'
    simp only [session_shift, starting_shift, Session.awaitsLikelyRunning_shift,
      Session.markLikelyRunning_shift, Session.snapshot_shift] at h
    rw [step_startingDue now c hd, Input.shift, h]
    ext1
    · rfl
    · cases c.session.awaitsLikelyRunning <;> rfl

end Controller

end RunWatch
