import RunWatch.Controller.Step
set_option autoImplicit false

namespace RunWatch

namespace Turn

@[ext] theorem ext {t u : Turn} (hs : t.state = u.state) (ha : t.actions = u.actions) : t = u := by
  cases t
  cases u
  simp_all

@[simp] theorem state_act (t : Turn) (a : Action) : (t.act a).state = t.state := rfl

@[simp] theorem actions_act (t : Turn) (a : Action) : (t.act a).actions = t.actions ++ [a] := rfl

@[simp] theorem state_emit (t : Turn) (e : Event) : (t.emit e).state = t.state := rfl

@[simp] theorem actions_emit (t : Turn) (e : Event) :
    (t.emit e).actions = t.actions ++ [.emit e] := rfl

@[simp] theorem state_publish (t : Turn) : t.publish.state = t.state := rfl

@[simp] theorem actions_publish (t : Turn) :
    t.publish.actions = t.actions ++ [.publish t.state.session.snapshot] := rfl

@[simp] theorem state_reply (t : Turn) (k : Caller) (r : Reply) :
    (t.reply k r).state = t.state := rfl

@[simp] theorem actions_reply (t : Turn) (k : Caller) (r : Reply) :
    (t.reply k r).actions = t.actions ++ [.reply k r] := rfl

@[simp] theorem state_modify (t : Turn) (f : Controller → Controller) :
    (t.modify f).state = f t.state := rfl

@[simp] theorem actions_modify (t : Turn) (f : Controller → Controller) :
    (t.modify f).actions = t.actions := rfl

@[simp] theorem state_mapSession (t : Turn) (f : Session → Session) :
    (t.mapSession f).state = { t.state with session := f t.state.session } := rfl

@[simp] theorem actions_mapSession (t : Turn) (f : Session → Session) :
    (t.mapSession f).actions = t.actions := rfl

@[simp] theorem state_mapFetches (t : Turn) (f : Fetches → Fetches) :
    (t.mapFetches f).state = { t.state with fetches := f t.state.fetches } := rfl

@[simp] theorem actions_mapFetches (t : Turn) (f : Fetches → Fetches) :
    (t.mapFetches f).actions = t.actions := rfl

@[simp] theorem state_emitAll (t : Turn) (es : List Event) : (t.emitAll es).state = t.state := by
  induction es generalizing t with
  | nil => rfl
  | cons e es ih => exact ih (t.emit e)

@[simp] theorem actions_emitAll (t : Turn) (es : List Event) :
    (t.emitAll es).actions = t.actions ++ es.map .emit := by
  induction es generalizing t with
  | nil => simp [emitAll]
  | cons e es ih =>
    have h := ih (t.emit e)
    simpa [emitAll] using h

@[simp] theorem state_sendList (t : Turn) : t.sendList.state =
    { t.state with fetches := { t.state.fetches with
        inFlight := true
        issued := t.state.fetches.issued + 1 } } :=
  rfl

@[simp] theorem actions_sendList (t : Turn) : t.sendList.actions =
    t.actions ++ [.list t.state.epoch (t.state.fetches.issued + 1)] := rfl

@[simp] theorem state_wakeAt (t : Turn) (due : Option Nat) : (t.wakeAt due).state = t.state := by
  cases due <;> rfl

@[simp] theorem actions_wakeAt (t : Turn) (due : Option Nat) :
    (t.wakeAt due).actions = t.actions ++ (due.map .wakeAt).toList := by
  cases due <;> simp [wakeAt]

def heldEvents (s : Session) (change : RunChange) : List Event :=
  (s.latestRun.map (changeEvents change)).getD []

@[simp] theorem state_emitChange (t : Turn) (change : RunChange) :
    (t.emitChange change).state = t.state := by
  unfold emitChange
  split <;> simp

@[simp] theorem actions_emitChange (t : Turn) (change : RunChange) :
    (t.emitChange change).actions =
      t.actions ++ (heldEvents t.state.session change).map .emit := by
  unfold emitChange heldEvents
  split <;> simp_all

@[simp] theorem foldl_reply_state (t : Turn) (f : Waiter → Reply) (ws : List Waiter) :
    (ws.foldl (fun t w => t.reply w.caller (f w)) t).state = t.state := by
  induction ws generalizing t with
  | nil => rfl
  | cons w ws ih => exact ih (t.reply w.caller (f w))

@[simp] theorem foldl_reply_actions (t : Turn) (f : Waiter → Reply) (ws : List Waiter) :
    (ws.foldl (fun t w => t.reply w.caller (f w)) t).actions =
      t.actions ++ ws.map fun w => .reply w.caller (f w) := by
  induction ws generalizing t with
  | nil => simp
  | cons w ws ih =>
    have h := ih (t.reply w.caller (f w))
    simpa using h

theorem replyWaiters_eq (t : Turn) (ws : List Waiter) : t.replyWaiters ws =
    ws.foldl (fun u w => u.reply w.caller (waiterReply t.state.session w)) t := by
  have h (u : Turn) (hu : u.state = t.state) :
      ws.foldl (fun u w => u.reply w.caller (waiterReply u.state.session w)) u =
        ws.foldl (fun u w => u.reply w.caller (waiterReply t.state.session w)) u := by
    induction ws generalizing u with
    | nil => rfl
    | cons w ws ih =>
      simp only [List.foldl_cons, hu]
      exact ih _ hu
  exact h t rfl

@[simp] theorem state_replyWaiters (t : Turn) (ws : List Waiter) :
    (t.replyWaiters ws).state = t.state := by
  rw [replyWaiters_eq, foldl_reply_state]

@[simp] theorem actions_replyWaiters (t : Turn) (ws : List Waiter) :
    (t.replyWaiters ws).actions =
      t.actions ++ ws.map fun w => .reply w.caller (waiterReply t.state.session w) := by
  rw [replyWaiters_eq, foldl_reply_actions]

end Turn

def Ticker.follow (p : Ticker) (now : Nat) (active : Bool) : Ticker :=
  if active then p.arm now else p.disarm

def Ticker.followActions (p : Ticker) (now : Nat) (active : Bool) : List Action :=
  if active = p.isArmed then []
  else if active then [.wakeAt (now + p.interval.nanos), .emit .pollingStarted]
  else [.emit .pollingStopped]

theorem Ticker.forall_followActions {P : Action → Prop} (he : ∀ e, P (.emit e))
    (hw : ∀ due, P (.wakeAt due)) (p : Ticker) (now : Nat) (active : Bool) :
    ∀ a ∈ p.followActions now active, P a := by
  unfold followActions
  split
  · simp
  · split <;> simp [he, hw]

def Session.follow (s : Session) (p : Ticker) : Session :=
  if s.runActive = p.isArmed then s else s.setPolling s.runActive

theorem Ticker.disarm_of_not_isArmed {p : Ticker} (h : p.isArmed = false) : p.disarm = p := by
  cases p
  simp_all [isArmed, disarm]

theorem Ticker.isArmed_of_isDue {p : Ticker} {now : Nat} (h : p.isDue now = true) :
    p.isArmed = true := by
  cases hd : p.due <;> simp_all [isDue, isArmed]

@[simp] theorem Ticker.isArmed_fire (p : Ticker) (now : Nat) : (p.fire now).isArmed = true := rfl

@[simp] theorem Ticker.isArmed_follow (p : Ticker) (now : Nat) (active : Bool) :
    (p.follow now active).isArmed = active := by
  cases active <;> simp [follow]

@[simp] theorem Ticker.interval_follow (p : Ticker) (now : Nat) (active : Bool) :
    (p.follow now active).interval = p.interval := by
  cases active with
  | false => rfl
  | true =>
    simp only [follow, arm, if_true]
    split <;> rfl

theorem Session.follow_eq (s : Session) (p : Ticker) :
    s.follow p = s.setPolling (s.follow p).polling := by
  unfold follow
  split <;> rfl

@[simp] theorem Session.runActive_follow (s : Session) (p : Ticker) :
    (s.follow p).runActive = s.runActive := by
  rw [follow_eq]
  rfl

@[simp] theorem Session.conflictAfter_follow (s : Session) (p : Ticker) :
    (s.follow p).conflictAfter = s.conflictAfter := by
  rw [follow_eq]
  rfl

/-- A flag that agreed with the ticker before agrees with the activity afterwards. -/
theorem Session.polling_follow {s : Session} {p : Ticker} (h : s.polling = p.isArmed) :
    (s.follow p).polling = s.runActive := by
  unfold follow
  split
  · next ha => rw [h, ha]
  · rfl

namespace Fetches

def enroll (f : Fetches) (w : Waiter) : Fetches :=
  if f.inFlight then { f with followUp := f.followUp ++ [w] }
  else { f with inFlight := true, issued := f.issued + 1, current := f.current ++ [w] }

def enrollCalls (f : Fetches) (epoch : Nat) : List Action :=
  if f.inFlight then [] else [.list epoch (f.issued + 1)]

theorem forall_enrollCalls {P : Action → Prop} (hl : ∀ epoch seq, P (.list epoch seq))
    (f : Fetches) (epoch : Nat) : ∀ a ∈ f.enrollCalls epoch, P a := by
  unfold enrollCalls
  split <;> simp [hl]

def advance (f : Fetches) : Fetches :=
  if f.followUp.isEmpty then { f with inFlight := false, current := [] }
  else { inFlight := true, issued := f.issued + 1, current := f.followUp, followUp := [] }

def advanceCalls (f : Fetches) (epoch : Nat) : List Action :=
  if f.followUp.isEmpty then [] else [.list epoch (f.issued + 1)]

theorem forall_advanceCalls {P : Action → Prop} (hl : ∀ epoch seq, P (.list epoch seq))
    (f : Fetches) (epoch : Nat) : ∀ a ∈ f.advanceCalls epoch, P a := by
  unfold advanceCalls
  split <;> simp [hl]

end Fetches

namespace Turn

@[simp] theorem state_updatePolling (t : Turn) (now : Nat) : (t.updatePolling now).state =
    { t.state with
      poll := t.state.poll.follow now t.state.session.runActive
      session := t.state.session.follow t.state.poll } := by
  unfold updatePolling Ticker.follow Session.follow
  cases ha : t.state.session.runActive <;> cases hp : t.state.poll.isArmed <;> simp
  · rw [Ticker.disarm_of_not_isArmed hp]
  · simp [Ticker.arm, hp]

@[simp] theorem actions_updatePolling (t : Turn) (now : Nat) : (t.updatePolling now).actions =
    t.actions ++ t.state.poll.followActions now t.state.session.runActive := by
  unfold updatePolling Ticker.followActions
  cases ha : t.state.session.runActive <;> cases hp : t.state.poll.isArmed <;>
    simp [Ticker.arm, hp]

@[simp] theorem state_requestList (t : Turn) (w : Waiter) : (t.requestList w).state =
    { t.state with fetches := t.state.fetches.enroll w } := by
  unfold requestList Fetches.enroll
  split <;> simp

@[simp] theorem actions_requestList (t : Turn) (w : Waiter) : (t.requestList w).actions =
    t.actions ++ t.state.fetches.enrollCalls t.state.epoch := by
  unfold requestList Fetches.enrollCalls
  split <;> simp

end Turn

end RunWatch
