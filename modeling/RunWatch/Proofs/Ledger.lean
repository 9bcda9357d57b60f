import RunWatch.Proofs.Calls
/-!
Whom an executor owes a reply. Every caller who waits is waited for in one place: by an action that
is still to be carried out, by a call that is under way, by the controller or by whoever keeps the
commands that are to come. Handling an input moves callers from place to place and loses none.
-/
set_option autoImplicit false

namespace RunWatch

/-- Whoever gets something out of an action, a reply or a call. -/
def Action.owed? : Action → Option Caller
  | .reply k _ | .trigger _ k => some k
  | _ => none

@[simp] theorem Action.owed?_reply (k : Caller) (r : Reply) :
    (Action.reply k r).owed? = some k := rfl

@[simp] theorem Action.owed?_trigger (epoch : Nat) (k : Caller) :
    (Action.trigger epoch k).owed? = some k := rfl

@[simp] theorem Action.owed?_emit (e : Event) : (Action.emit e).owed? = none := rfl

@[simp] theorem Action.owed?_publish (s : Snapshot) : (Action.publish s).owed? = none := rfl

@[simp] theorem Action.owed?_wakeAt (due : Nat) : (Action.wakeAt due).owed? = none := rfl

@[simp] theorem owed?_followActions (p : Ticker) (now : Nat) (active : Bool) :
    (p.followActions now active).filterMap Action.owed? = [] :=
  filterMap_followActions (fun _ => rfl) (fun _ => rfl) p now active

@[simp] theorem owed?_enrollCalls (f : Fetches) (epoch : Nat) :
    (f.enrollCalls epoch).filterMap Action.owed? = [] :=
  filterMap_enrollCalls (fun _ _ => rfl) f epoch

@[simp] theorem owed?_advanceCalls (f : Fetches) (epoch : Nat) :
    (f.advanceCalls epoch).filterMap Action.owed? = [] :=
  filterMap_advanceCalls (fun _ _ => rfl) f epoch

theorem owed?_map_emit (es : List Event) : (es.map Action.emit).filterMap Action.owed? = [] := by
  simp [Function.comp_def]

theorem owed?_map_reply (f : Waiter → Reply) (ws : List Waiter) :
    (ws.map fun w => Action.reply w.caller (f w)).filterMap Action.owed? =
      ws.map Waiter.caller := by
  induction ws with
  | nil => rfl
  | cons w ws ih => simp [ih]

def Fetches.callers (f : Fetches) : List Caller := (f.current ++ f.followUp).map Waiter.caller

theorem Fetches.count_enroll (f : Fetches) (w : Waiter) (k : Caller) :
    (f.enroll w).callers.count k = [w.caller].count k + f.callers.count k := by
  unfold enroll callers
  split <;> simp only [List.map_append, List.map_cons, List.map_nil, List.count_append] <;> omega

theorem Fetches.count_advance (f : Fetches) (k : Caller) :
    (f.current.map Waiter.caller).count k + f.advance.callers.count k = f.callers.count k := by
  unfold advance callers
  split
  · next h => simp [List.isEmpty_iff.1 h]
  · simp

def Input.commander : Input → List Caller
  | .command k _ => [k]
  | _ => []

def Input.starter : Input → List Caller
  | .triggered _ k _ => [k]
  | _ => []

/-- A step takes a caller in hand and passes them on, together with those who waited: each is
replied to, or has a call made, or waits for a fetch. -/
theorem Controller.step_owed (now : Nat) (c : Controller) (i : Input) (k : Caller) :
    ((c.step now i).actions.filterMap Action.owed?).count k +
        (c.step now i).state.fetches.callers.count k =
      i.commander.count k + i.starter.count k + c.fetches.callers.count k := by
  induction i using input_cases now c with
  | fetch j cmd hc =>
    rw [step_fetch now c j hc]
    simp [Fetches.count_enroll, Waiter.caller, Input.commander, Input.starter]
  | startRefused j hs =>
    rw [step_start_refused now c j hs]
    simp [Input.commander, Input.starter]
  | start j hs =>
    rw [step_start now c j hs]
    simp [Input.commander, Input.starter, List.filterMap_cons]
  | reset j =>
    rw [step_reset]
    simp only [List.filterMap_append, owed?_map_reply, Input.commander, Input.starter]
    simp [Fetches.callers, List.filterMap_cons]
    omega
  | listedStale epoch seq r he =>
    rw [step_listed_stale now c seq r he]
    simp [Input.commander, Input.starter]
  | listed seq r =>
    rw [step_listed]
    have h := c.fetches.count_advance k
    simp only [List.filterMap_append, List.filterMap_cons, owed?_map_emit, owed?_map_reply]
    simpa [Input.commander, Input.starter] using h
  | triggeredStale epoch j r he =>
    rw [step_triggered_stale now c j r he]
    simp [Input.commander, Input.starter]
  | started j r =>
    rw [step_started]
    simp only [List.filterMap_append, owed?_map_emit]
    simp [Input.commander, Input.starter, List.filterMap_cons]
  | conflict j runId message requestId =>
    rw [step_conflict]
    simp [Fetches.count_enroll, Waiter.caller, Input.commander, Input.starter,
      List.filterMap_cons]
  | refused j f hf =>
    rw [step_refused now c j hf]
    simp [Input.commander, Input.starter, List.filterMap_cons]
  | pollEarly hd =>
    rw [step_pollDue_early now c hd]
    simp [Input.commander, Input.starter]
  | poll hd =>
    rw [step_pollDue now c hd]
    by_cases hf : c.fetches.inFlight = true <;>
      simp [Input.commander, Input.starter, List.filterMap_cons, Fetches.callers, hf]
  | startingEarly hd =>
    rw [step_startingDue_early now c hd]
    simp [Input.commander, Input.starter]
  | starting hd =>
    rw [step_startingDue now c hd]
    by_cases ha : c.session.awaitsLikelyRunning = true <;>
      simp [Input.commander, Input.starter, List.filterMap_cons, ha]

def Request.starter? : Request → Option Caller
  | .trigger _ k => some k
  | _ => none

@[simp] theorem Request.starter?_trigger (epoch : Nat) (k : Caller) :
    (Request.trigger epoch k).starter? = some k := rfl

@[simp] theorem Request.starter?_list (epoch seq : Nat) :
    (Request.list epoch seq).starter? = none := rfl

@[simp] theorem Request.starter?_wake (due : Nat) : (Request.wake due).starter? = none := rfl

def Happening.answered? : Happening → Option Caller
  | .replied k _ => some k
  | _ => none

@[simp] theorem Happening.answered?_replied (k : Caller) (r : Reply) :
    (Happening.replied k r).answered? = some k := rfl

@[simp] theorem Happening.answered?_stopped : stopped.answered? = none := rfl

namespace Executor

def callers (x : Executor) : List Caller := x.waiting.map Prod.fst

/-- Those who will get one from the controller or by a command that is still to come; nobody does
when the controller is gone. -/
def held (x : Executor) (queue : List Caller) : List Caller :=
  match x.controller with
  | some c => queue ++ c.fetches.callers
  | none => []

/-- The books of an executor that has actions left to carry out. The callers in `queue` issued
commands that are to come, for those in `calls` a call is under way, and those in `told` were
answered before the record began. -/
structure Ledger (x : Executor) (as : List Action) (queue calls told : List Caller) : Prop where
  owed (k : Caller) : x.callers.count k =
    (as.filterMap Action.owed?).count k + x.calling.count k + (x.held queue).count k
  under (k : Caller) : x.calling.count k =
    (x.requests.filterMap Request.starter?).count k + calls.count k
  once (k : Caller) : x.callers.count k + told.count k +
    (x.trace.filterMap Happening.answered?).count k = if k < x.nextCaller then 1 else 0

theorem count_callers_filter (x : Executor) (p : Caller → Bool) (k : Caller) :
    ((x.waiting.filter fun q => p q.1).map Prod.fst).count k =
      if p k then x.callers.count k else 0 := by
  have h : (x.waiting.filter fun q => p q.1).map Prod.fst = x.callers.filter p := by
    rw [callers, List.filter_map]
    rfl
  rw [h]
  split
  · next hp => rw [List.count_filter hp]
  · next hp => exact List.count_eq_zero.2 fun hm => hp (List.mem_filter.1 hm).2

@[simp] theorem held_reply (x : Executor) (k : Caller) (r : Reply) (queue : List Caller) :
    (x.reply k r).held queue = x.held queue := rfl

theorem count_callers_reply (x : Executor) (k : Caller) (r : Reply) (j : Caller) :
    (x.reply k r).callers.count j = if j = k then 0 else x.callers.count j := by
  have h := x.count_callers_filter (fun q => q ≠ k) j
  simp only [callers, waiting_reply] at h ⊢
  rw [h]
  by_cases hj : j = k <;> simp [hj]

namespace Ledger

variable {x : Executor} {as : List Action} {queue calls told : List Caller}

theorem count_callers_le (h : x.Ledger as queue calls told) (k : Caller) :
    x.callers.count k ≤ 1 := by
  have ho := h.once k
  split at ho <;> omega

theorem calls_subset (h : x.Ledger as queue calls told) : calls ⊆ x.calling := by
  intro k hk
  have hu := h.under k
  have hpos := List.count_pos_iff.2 hk
  exact List.count_pos_iff.1 (by omega)

theorem of_count {calls' : List Caller} (h : x.Ledger as queue calls told)
    (hc : ∀ k, calls.count k = calls'.count k) : x.Ledger as queue calls' told :=
  ⟨h.owed, fun k => hc k ▸ h.under k, h.once⟩

theorem reply {k : Caller} {r : Reply} (h : x.Ledger (.reply k r :: as) queue calls told) :
    (x.reply k r).Ledger as queue calls told := by
  have hle := h.count_callers_le k
  have hk := h.owed k
  simp only [List.filterMap_cons, Action.owed?_reply, List.count_cons_self] at hk
  -- `k` is on the books once and is taken off; of everyone else nothing changes
  refine ⟨fun j => ?_, h.under, fun j => ?_⟩
  · have hj := h.owed j
    rw [count_callers_reply, calling_reply, held_reply]
    by_cases hjk : j = k
    · subst hjk
      rw [if_pos rfl]
      omega
    · rw [if_neg hjk, hj, List.filterMap_cons, Action.owed?_reply,
        List.count_cons_of_ne (Ne.symm hjk)]
  · have hj := h.once j
    rw [count_callers_reply, trace_reply, nextCaller_reply, ← hj, List.filterMap_append,
      List.count_append]
    by_cases hjk : j = k
    · subst hjk
      simp
      omega
    · simp [hjk, Ne.symm hjk]

theorem stop (h : x.Ledger as queue calls told) (queue' : List Caller) :
    x.stop.Ledger [] queue' calls told := by
  have hc (j : Caller) : x.stop.callers.count j =
      if j ∈ x.calling then x.callers.count j else 0 := by
    have hf := x.count_callers_filter (fun q => q ∈ x.calling) j
    rw [stop_eq]
    simpa [callers] using hf
  have ht (j : Caller) : (x.stop.trace.filterMap Happening.answered?).count j =
      (x.trace.filterMap Happening.answered?).count j +
        if j ∈ x.calling then 0 else x.callers.count j := by
    have hf := x.count_callers_filter (fun q => q ∉ x.calling) j
    have hr (ps : List (Caller × Command)) :
        (ps.map fun p => Happening.replied p.1 (strandedReply p.2)).filterMap
          Happening.answered? = ps.map Prod.fst := by
      simp [List.filterMap_map, Function.comp_def]
    rw [stop_eq, List.filterMap_append, List.filterMap_append, hr, List.count_append,
      List.count_append, hf]
    by_cases hm : j ∈ x.calling <;> simp [hm, List.filterMap_cons]
  have hs : x.stop.held queue' = [] := by
    rw [stop_eq]
    rfl
  refine ⟨fun j => ?_, fun j => ?_, fun j => ?_⟩
  · -- whoever has a call under way is on the books for that call alone
    have hj := h.owed j
    have hle := h.count_callers_le j
    have hcl : x.stop.calling = x.calling := by rw [stop_eq]
    rw [hc, hs, hcl]
    by_cases hm : j ∈ x.calling
    · have := List.count_pos_iff.2 hm
      simp [hm]
      omega
    · simp [hm, List.count_eq_zero.2 hm]
  · rw [stop_eq]
    exact h.under j
  · have hj := h.once j
    have hn : x.stop.nextCaller = x.nextCaller := by rw [stop_eq]
    rw [hc, ht, hn, ← hj]
    split <;> omega

theorem skip {a : Action} (h : x.Ledger (a :: as) queue calls told) (ha : a.owed? = none) :
    x.Ledger as queue calls told := by
  refine ⟨fun k => ?_, h.under, h.once⟩
  have hk := h.owed k
  rwa [List.filterMap_cons_none ha] at hk

theorem record {e : Happening} (h : x.Ledger as queue calls told) (he : e.answered? = none) :
    (x.record e).Ledger as queue calls told := by
  refine ⟨h.owed, h.under, fun k => ?_⟩
  have hk := h.once k
  have ht : (x.record e).trace.filterMap Happening.answered? =
      x.trace.filterMap Happening.answered? := by
    simp [Executor.record, he]
  rw [ht]
  exact hk

theorem request {r : Request} (h : x.Ledger as queue calls told) (hr : r.starter? = none) :
    (x.request r).Ledger as queue calls told := by
  refine ⟨h.owed, fun k => ?_, h.once⟩
  have hk := h.under k
  have hs : (x.request r).requests.filterMap Request.starter? =
      x.requests.filterMap Request.starter? := by
    simp [Executor.request, hr]
  rw [hs]
  exact hk

theorem trigger {epoch : Nat} {k : Caller}
    (h : x.Ledger (.trigger epoch k :: as) queue calls told) :
    (x.perform (.trigger epoch k)).Ledger as queue calls told := by
  have h₁ : ({ x with calling := k :: x.calling }.request (.trigger epoch k)).Ledger as queue calls
      told := by
    refine ⟨fun j => ?_, fun j => ?_, h.once⟩
    · have hj := h.owed j
      simp only [List.filterMap_cons, Action.owed?_trigger, List.count_cons] at hj
      simp only [Executor.request, List.count_cons, callers, held] at hj ⊢
      omega
    · have hj := h.under j
      simp only [Executor.request, List.filterMap_append, List.filterMap_cons, List.filterMap_nil,
        Request.starter?_trigger, List.count_append, List.count_cons, List.count_nil]
      omega
  exact h₁.record rfl

/-- An action leaves the controller as it is and the books in order, or it stops the controller. -/
theorem perform {a : Action} (h : x.Ledger (a :: as) queue calls told) :
    (x.perform a).controller = x.controller ∧ (x.perform a).Ledger as queue calls told ∨
      (x.perform a).controller = none ∧ (x.perform a).Ledger [] queue calls told := by
  cases a with
  | emit e => exact .inl ⟨rfl, (h.skip rfl).record rfl⟩
  | publish s =>
    have h₁ : { x with shown := s }.Ledger as queue calls told :=
      ⟨(h.skip rfl).owed, h.under, h.once⟩
    exact .inl ⟨rfl, h₁.record rfl⟩
  | reply k r => exact .inl ⟨rfl, h.reply⟩
  | list epoch seq => exact .inl ⟨rfl, ((h.skip rfl).record rfl).request rfl⟩
  | trigger epoch k => exact .inl ⟨rfl, h.trigger⟩
  | wakeAt due =>
    simp only [Executor.perform]
    split
    · exact .inl ⟨rfl, (h.skip rfl).request rfl⟩
    · exact .inr ⟨by rw [stop_eq], h.stop queue⟩

theorem performAll (h : x.Ledger as queue calls told) (hx : x.controller.isSome) :
    (x.performAll as).Ledger [] queue calls told := by
  induction as generalizing x with
  | nil => exact h
  | cons a as ih =>
    simp only [Executor.performAll]
    rcases h.perform with ⟨hc, hp⟩ | ⟨hc, hp⟩
    · rw [← hc] at hx
      rw [if_pos hx]
      exact ih hp hx
    · rw [hc]
      exact hp

theorem of_gone (h : x.Ledger [] queue calls told) (hx : x.controller = none)
    (queue' : List Caller) : x.Ledger [] queue' calls told := by
  refine ⟨fun k => ?_, h.under, h.once⟩
  have hk := h.owed k
  simp only [held, hx] at hk ⊢
  exact hk

theorem count_endCall {i : Input} (h : x.Ledger [] queue (i.starter ++ calls) told) (k : Caller) :
    (x.endCall i).calling.count k + i.starter.count k = x.calling.count k := by
  cases i with
  | triggered epoch j r =>
    have ho := h.owed j
    have hu := h.under j
    have hle := h.count_callers_le j
    simp only [Executor.endCall, Input.starter, List.count_append, List.count_singleton_self]
      at hu ⊢
    by_cases hk : k = j
    · subst hk
      rw [List.count_eq_zero.2 (by simp)]
      simp
      omega
    · rw [List.count_filter (by simpa using hk)]
      simp [Ne.symm hk]
  | _ => rfl

theorem handle {i : Input} (h : x.Ledger [] (i.commander ++ queue) (i.starter ++ calls) told)
    (now : Nat) : (x.handle now i).Ledger [] queue calls told := by
  cases hx : x.controller with
  | none =>
    rw [handle_none hx]
    cases i with
    | triggered epoch j r =>
      refine reply ⟨fun k => ?_, fun k => ?_, h.once⟩
      · have hk := h.owed k
        have hc := h.count_endCall k
        simp only [callers, held, hx, Executor.endCall, List.filterMap_cons, Action.owed?_reply,
          List.filterMap_nil, List.count_nil, Input.starter] at hk hc ⊢
        omega
      · have hk := h.under k
        have hc := h.count_endCall k
        simp only [Executor.endCall, List.count_append] at hk hc ⊢
        omega
    | _ => exact h.of_gone hx queue
  | some c =>
    rw [handle_some hx]
    refine performAll ⟨fun k => ?_, fun k => ?_, h.once⟩ rfl
    · have hk := h.owed k
      have hs := c.step_owed now i k
      have hc := h.count_endCall k
      simp only [callers, held, hx, List.count_append, List.filterMap_nil, List.count_nil] at hk ⊢
      omega
    · have hk := h.under k
      have hc := h.count_endCall k
      simp only [List.count_append] at hk ⊢
      omega

theorem count_enlist (h : x.Ledger [] queue calls told) (cmd : Command) (k : Caller) :
    (x.enlist cmd).callers.count k + told.count k +
      (x.trace.filterMap Happening.answered?).count k = if k < x.nextCaller + 1 then 1 else 0 := by
  have ho := h.once k
  simp only [Executor.enlist, callers, List.map_append, List.map_cons, List.map_nil,
    List.count_append, List.count_singleton, beq_iff_eq] at ho ⊢
  rcases Nat.lt_trichotomy k x.nextCaller with hk | rfl | hk
  · rw [if_pos hk] at ho
    rw [if_neg (Nat.ne_of_gt hk), if_pos (Nat.lt_succ_of_lt hk)]
    omega
  · rw [if_neg (Nat.lt_irrefl _)] at ho
    rw [if_pos rfl, if_pos (Nat.lt_succ_self _)]
    omega
  · rw [if_neg (Nat.lt_asymm hk)] at ho
    rw [if_neg (Nat.ne_of_lt hk), if_neg (Nat.not_lt.2 hk)]
    omega

theorem enlist (h : x.Ledger [] queue calls told) (cmd : Command) (hx : x.controller.isSome) :
    (x.enlist cmd).Ledger [] (queue ++ [x.nextCaller]) calls told := by
  refine ⟨fun k => ?_, h.under, h.count_enlist cmd⟩
  have hk := h.owed k
  obtain ⟨c, hc⟩ := Option.isSome_iff_exists.1 hx
  simp only [Executor.enlist, callers, held, hc, List.map_append, List.map_cons, List.map_nil,
    List.count_append] at hk ⊢
  omega

theorem issue_gone (h : x.Ledger [] queue calls told) (now : Nat) (cmd : Command)
    (hx : x.controller = none) : (x.issue now cmd).Ledger [] queue calls told := by
  rw [issue_none hx]
  refine reply ⟨fun k => ?_, h.under, h.count_enlist cmd⟩
  have hk := h.owed k
  simp only [Executor.enlist, callers, held, hx, List.map_append, List.map_cons, List.map_nil,
    List.count_append, List.filterMap_cons, List.filterMap_nil, Action.owed?_reply,
    List.count_nil] at hk ⊢
  omega

theorem kill (h : x.Ledger [] queue calls told) : x.kill.Ledger [] queue calls told := by
  unfold Executor.kill
  split
  · exact h.stop queue
  · exact h

theorem take (h : x.Ledger [] queue calls told) :
    x.take.2.2.Ledger [] queue (x.requests.filterMap Request.starter? ++ calls)
      (told ++ x.trace.filterMap Happening.answered?) := by
  refine ⟨h.owed, fun k => ?_, fun k => ?_⟩
  · have hk := h.under k
    simpa [Executor.take] using hk
  · refine Eq.trans ?_ (h.once k)
    simp only [Executor.take, callers, List.filterMap_nil, List.count_append, List.count_nil]
    omega

end Ledger

end Executor

end RunWatch
