import RunWatch.Executor
set_option autoImplicit false

namespace RunWatch

def Action.shown? : Action → Option Snapshot
  | .publish s => some s
  | _ => none

@[simp] theorem Action.shown?_emit (e : Event) : (Action.emit e).shown? = none := rfl

@[simp] theorem Action.shown?_publish (s : Snapshot) : (Action.publish s).shown? = some s := rfl

@[simp] theorem Action.shown?_reply (k : Caller) (r : Reply) :
    (Action.reply k r).shown? = none := rfl

@[simp] theorem Action.shown?_wakeAt (due : Nat) : (Action.wakeAt due).shown? = none := rfl

def Action.request? : Action → Option Request
  | .list epoch seq => some (.list epoch seq)
  | .trigger epoch k => some (.trigger epoch k)
  | .wakeAt due => some (.wake due)
  | _ => none

namespace Executor

variable (x : Executor)

@[simp] theorem controller_reply (k : Caller) (r : Reply) :
    (x.reply k r).controller = x.controller := rfl

@[simp] theorem calling_reply (k : Caller) (r : Reply) : (x.reply k r).calling = x.calling := rfl

@[simp] theorem nextCaller_reply (k : Caller) (r : Reply) :
    (x.reply k r).nextCaller = x.nextCaller := rfl

@[simp] theorem waiting_reply (k : Caller) (r : Reply) :
    (x.reply k r).waiting = x.waiting.filter (·.1 ≠ k) := rfl

@[simp] theorem trace_reply (k : Caller) (r : Reply) :
    (x.reply k r).trace = x.trace ++ [.replied k r] := rfl

def replyAll (r : Caller × Command → Reply) (ps : List (Caller × Command)) : Executor :=
  ps.foldl (fun x p => x.reply p.1 (r p)) x

theorem replyAll_eq (r : Caller × Command → Reply) (ps : List (Caller × Command)) :
    x.replyAll r ps =
      { x with
        waiting := x.waiting.filter fun q => q.1 ∉ ps.map (·.1)
        trace := x.trace ++ ps.map fun p => .replied p.1 (r p) } := by
  induction ps generalizing x with
  | nil =>
    have h : x.waiting.filter (fun q => q.1 ∉ ([] : List (Caller × Command)).map (·.1)) =
        x.waiting := List.filter_eq_self.2 (by simp)
    rw [h]
    simp [replyAll]
  | cons p ps ih =>
    have h := ih (x.reply p.1 (r p))
    simp only [replyAll, List.foldl_cons] at h ⊢
    rw [h]
    simp only [waiting_reply, trace_reply, List.filter_filter, List.map_cons, List.append_assoc,
      List.singleton_append]
    congr 1
    apply List.filter_congr
    intro q _
    by_cases hq : q.1 = p.1 <;> simp [hq]

/-- Whoever waits is answered when the controller stops, unless a call of theirs is under way. -/
theorem stop_eq : x.stop =
    { x with
      controller := none
      waiting := x.waiting.filter fun q => q.1 ∈ x.calling
      trace := x.trace ++ ((x.waiting.filter fun p => p.1 ∉ x.calling).map fun p =>
        .replied p.1 (strandedReply p.2)) ++ [.stopped] } := by
  have h := replyAll_eq { x with controller := none } (fun p => strandedReply p.2)
    (x.waiting.filter fun p => !x.calling.contains p.1)
  simp only [replyAll] at h
  simp only [stop, record, h]
  congr 1
  · apply List.filter_congr
    intro q hq
    by_cases hc : q.1 ∈ x.calling
    · simp [hc]
    · have hm : q.1 ∈ (x.waiting.filter fun p => !x.calling.contains p.1).map (·.1) :=
        List.mem_map_of_mem (List.mem_filter.2 ⟨hq, by simpa using hc⟩)
      simp only [hm, hc, not_true, decide_false]
  · simp

theorem endCall_eq (i : Input) : x.endCall i = { x with calling := (x.endCall i).calling } := by
  cases i <;> rfl

theorem controller_kill : x.kill.controller = none := by
  unfold kill
  split
  · rw [stop_eq]
  · next h => simpa using h

theorem controller_perform (a : Action) :
    (x.perform a).controller = x.controller ∨ (x.perform a).controller = none := by
  cases a with
  | wakeAt due =>
    simp only [perform]
    split
    · exact .inl rfl
    · exact .inr (by rw [stop_eq])
  | _ => exact .inl rfl

theorem shown_perform (a : Action) : (x.perform a).shown = a.shown?.getD x.shown := by
  cases a with
  | wakeAt due =>
    simp only [perform]
    split
    · rfl
    · rw [stop_eq]
      rfl
  | _ => rfl

theorem requests_perform {a : Action} (h : (x.perform a).controller.isSome) :
    (x.perform a).requests = x.requests ++ a.request?.toList := by
  cases a with
  | list epoch seq => rfl
  | trigger epoch k => rfl
  | wakeAt due =>
    simp only [perform] at h ⊢
    split at h
    · next hd =>
      rw [if_pos hd]
      rfl
    · rw [stop_eq] at h
      nomatch h
  | _ => exact (List.append_nil _).symm

variable {x}

theorem handle_some {c : Controller} (hx : x.controller = some c) (now : Nat) (i : Input) :
    x.handle now i = { x with
      controller := some (c.step now i).state
      calling := (x.endCall i).calling }.performAll (c.step now i).actions := by
  unfold handle
  rw [endCall_eq]
  simp only [hx]

theorem handle_none (hx : x.controller = none) (now : Nat) (i : Input) : x.handle now i =
    match i with
    | .triggered _ k _ => (x.endCall i).reply k (strandedReply .start)
    | _ => x := by
  obtain ⟨controller, _⟩ := x
  obtain rfl : controller = none := hx
  cases i <;> rfl

theorem controller_handle_none (hx : x.controller = none) (now : Nat) (i : Input) :
    (x.handle now i).controller = none := by
  rw [handle_none hx]
  cases i <;> exact hx

theorem issue_some (hx : x.controller.isSome) (now : Nat) (cmd : Command) :
    x.issue now cmd = (x.enlist cmd).handle now (.command x.nextCaller cmd) := by
  simp [issue, enlist, hx]

theorem issue_none (hx : x.controller = none) (now : Nat) (cmd : Command) :
    x.issue now cmd = (x.enlist cmd).reply x.nextCaller (goneReply cmd) := by
  simp [issue, enlist, hx]

/-- A controller that survives actions is the one that asked for them, what is shown then is the
last snapshot among them, and all that they leave to the driver is requested. -/
theorem performAll_alive {as : List Action} {c : Controller}
    (h : (x.performAll as).controller = some c) :
    x.controller = some c ∧
      (x.performAll as).shown = (as.filterMap Action.shown?).getLast?.getD x.shown ∧
      (x.performAll as).requests = x.requests ++ as.filterMap Action.request? := by
  induction as generalizing x with
  | nil => exact ⟨h, rfl, (List.append_nil _).symm⟩
  | cons a as ih =>
    simp only [performAll] at h ⊢
    split at h
    · next ha =>
      obtain ⟨hc, hs, hr⟩ := ih h
      rw [if_pos ha]
      refine ⟨?_, ?_, ?_⟩
      · rcases controller_perform x a with hp | hp
        · rw [← hp, hc]
        · simp [hp] at ha
      · rw [hs, shown_perform]
        cases hsh : a.shown? with
        | none => simp [hsh]
        | some s =>
          cases hl : (as.filterMap Action.shown?).getLast? <;>
            simp [hsh, List.getLast?_cons, hl]
      · rw [hr, requests_perform x ha, List.append_assoc]
        cases hrq : a.request? <;> simp [hrq]
    · next ha => simp [h] at ha

theorem handle_alive {now : Nat} {i : Input} {c' : Controller}
    (h : (x.handle now i).controller = some c') :
    ∃ c, x.controller = some c ∧ c' = (c.step now i).state ∧
      (x.handle now i).shown =
        ((c.step now i).actions.filterMap Action.shown?).getLast?.getD x.shown ∧
      (x.handle now i).requests =
        x.requests ++ (c.step now i).actions.filterMap Action.request? := by
  cases hx : x.controller with
  | none =>
    rw [controller_handle_none hx] at h
    nomatch h
  | some c =>
    rw [handle_some hx] at h ⊢
    obtain ⟨hc, hs, hr⟩ := performAll_alive h
    exact ⟨c, rfl, (Option.some.inj hc).symm, hs, hr⟩

end Executor

end RunWatch
