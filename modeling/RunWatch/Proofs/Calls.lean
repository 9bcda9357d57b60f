import RunWatch.Proofs.Executor
import RunWatch.Proofs.Step
set_option autoImplicit false

namespace RunWatch

def Action.list? : Action → Option (Nat × Nat)
  | .list epoch seq => some (epoch, seq)
  | _ => none

@[simp] theorem Action.list?_emit (e : Event) : (Action.emit e).list? = none := rfl

@[simp] theorem Action.list?_publish (s : Snapshot) : (Action.publish s).list? = none := rfl

@[simp] theorem Action.list?_reply (k : Caller) (r : Reply) :
    (Action.reply k r).list? = none := rfl

@[simp] theorem Action.list?_wakeAt (due : Nat) : (Action.wakeAt due).list? = none := rfl

def Action.trigger? : Action → Option (Nat × Caller)
  | .trigger epoch k => some (epoch, k)
  | _ => none

@[simp] theorem Action.trigger?_trigger (epoch : Nat) (k : Caller) :
    (Action.trigger epoch k).trigger? = some (epoch, k) := rfl

@[simp] theorem Action.trigger?_emit (e : Event) : (Action.emit e).trigger? = none := rfl

@[simp] theorem Action.trigger?_publish (s : Snapshot) :
    (Action.publish s).trigger? = none := rfl

@[simp] theorem Action.trigger?_reply (k : Caller) (r : Reply) :
    (Action.reply k r).trigger? = none := rfl

@[simp] theorem Action.trigger?_wakeAt (due : Nat) : (Action.wakeAt due).trigger? = none := rfl

def Request.epoch? : Request → Option Nat
  | .list epoch _ | .trigger epoch _ => some epoch
  | .wake _ => none

inductive Input.Ends : Input → Request → Prop where
  | listed {epoch seq : Nat} (r : Except Failure Listing) :
      Ends (.listed epoch seq r) (.list epoch seq)
  | triggered {epoch : Nat} {k : Caller} (r : Except Failure Started) :
      Ends (.triggered epoch k r) (.trigger epoch k)

section

variable {β : Type} {f : Action → Option β}

theorem filterMap_followActions (he : ∀ e, f (.emit e) = none) (hw : ∀ due, f (.wakeAt due) = none)
    (p : Ticker) (now : Nat) (active : Bool) : (p.followActions now active).filterMap f = [] :=
  List.filterMap_eq_nil_iff.2 (p.forall_followActions he hw now active)

theorem filterMap_enrollCalls (hl : ∀ epoch seq, f (.list epoch seq) = none) (fs : Fetches)
    (epoch : Nat) : (fs.enrollCalls epoch).filterMap f = [] :=
  List.filterMap_eq_nil_iff.2 (fs.forall_enrollCalls hl epoch)

theorem filterMap_advanceCalls (hl : ∀ epoch seq, f (.list epoch seq) = none) (fs : Fetches)
    (epoch : Nat) : (fs.advanceCalls epoch).filterMap f = [] :=
  List.filterMap_eq_nil_iff.2 (fs.forall_advanceCalls hl epoch)

end

@[simp] theorem list?_followActions (p : Ticker) (now : Nat) (active : Bool) :
    (p.followActions now active).filterMap Action.list? = [] :=
  filterMap_followActions (fun _ => rfl) (fun _ => rfl) p now active

@[simp] theorem trigger?_followActions (p : Ticker) (now : Nat) (active : Bool) :
    (p.followActions now active).filterMap Action.trigger? = [] :=
  filterMap_followActions (fun _ => rfl) (fun _ => rfl) p now active

@[simp] theorem trigger?_enrollCalls (f : Fetches) (epoch : Nat) :
    (f.enrollCalls epoch).filterMap Action.trigger? = [] :=
  filterMap_enrollCalls (fun _ _ => rfl) f epoch

@[simp] theorem trigger?_advanceCalls (f : Fetches) (epoch : Nat) :
    (f.advanceCalls epoch).filterMap Action.trigger? = [] :=
  filterMap_advanceCalls (fun _ _ => rfl) f epoch

/-- Fetches that have made some more calls than others, and which these are. -/
inductive Fetches.Calls (epoch : Nat) (f f' : Fetches) (as : List Action) : Prop where
  | none (h : f'.issued = f.issued) (ha : as.filterMap Action.list? = [])
  | one (h : f'.issued = f.issued + 1)
      (ha : as.filterMap Action.list? = [(epoch, f.issued + 1)])

theorem Fetches.calls_enroll (f : Fetches) (w : Waiter) (epoch : Nat) :
    f.Calls epoch (f.enroll w) (f.enrollCalls epoch) := by
  unfold enroll enrollCalls
  split
  · exact .none rfl rfl
  · exact .one rfl rfl

theorem Fetches.calls_advance (f : Fetches) (epoch : Nat) :
    f.Calls epoch f.advance (f.advanceCalls epoch) := by
  unfold advance advanceCalls
  split
  · exact .none rfl rfl
  · exact .one rfl rfl

theorem Fetches.Calls.append {epoch : Nat} {f f' : Fetches} {as bs cs : List Action}
    (h : f.Calls epoch f' bs) (ha : as.filterMap Action.list? = [])
    (hc : bs.filterMap Action.list? = cs.filterMap Action.list?) : f.Calls epoch f' (as ++ cs) := by
  cases h with
  | none h hb => exact .none h (by simp [ha, ← hc, hb])
  | one h hb => exact .one h (by simp [ha, ← hc, hb])

namespace Controller

/-- A step makes one list call at most, under the number that follows. -/
theorem step_calls (now : Nat) (c : Controller) (i : Input) :
    c.fetches.Calls c.epoch (c.step now i).state.fetches (c.step now i).actions := by
  induction i using input_cases now c with
  | fetch k cmd hc =>
    rw [step_fetch now c k hc]
    exact c.fetches.calls_enroll _ _
  | startRefused k hs =>
    rw [step_start_refused now c k hs]
    exact .none rfl rfl
  | start k hs =>
    rw [step_start now c k hs]
    exact .none rfl rfl
  | reset k =>
    rw [step_reset]
    refine .none rfl ?_
    simp [Function.comp_def, List.filterMap_cons]
  | listedStale epoch seq r he =>
    rw [step_listed_stale now c seq r he]
    exact .none rfl rfl
  | listed seq r =>
    rw [step_listed]
    refine (c.fetches.calls_advance c.epoch).append ?_ ?_
    · simp [Function.comp_def]
    · simp [Function.comp_def, List.filterMap_cons]
  | triggeredStale epoch k r he =>
    rw [step_triggered_stale now c k r he]
    exact .none rfl rfl
  | started k r =>
    rw [step_started]
    refine .none rfl ?_
    simp [Function.comp_def, List.filterMap_cons]
  | conflict k runId message requestId =>
    rw [step_conflict]
    refine (c.fetches.calls_enroll _ c.epoch).append ?_ (List.filterMap_cons_none rfl).symm
    simp [List.filterMap_cons]
  | refused k f hf =>
    rw [step_refused now c k hf]
    exact .none rfl rfl
  | pollEarly hd =>
    rw [step_pollDue_early now c hd]
    exact .none rfl rfl
  | poll hd =>
    rw [step_pollDue now c hd]
    cases hf : c.fetches.inFlight with
    | true => exact .none rfl (by simp [Fetches.enrollCalls, hf])
    | false => exact .one rfl (by rw [Fetches.enrollCalls, hf]; rfl)
  | startingEarly hd =>
    rw [step_startingDue_early now c hd]
    exact .none rfl rfl
  | starting hd =>
    rw [step_startingDue now c hd]
    exact .none rfl (by split <;> simp)

def starts (c : Controller) : Input → List (Nat × Caller)
  | .command k .start => if c.session.submitting then [] else [(c.epoch, k)]
  | _ => []

theorem mem_starts {c : Controller} {i : Input} {epoch : Nat} {k : Caller}
    (h : (epoch, k) ∈ c.starts i) : epoch = c.epoch ∧ i = .command k .start := by
  unfold starts at h
  split at h
  · split at h <;> simp_all
  · simp at h

theorem step_starts (now : Nat) (c : Controller) (i : Input) :
    (c.step now i).actions.filterMap Action.trigger? = c.starts i := by
  induction i using input_cases now c with
  | fetch k cmd hc =>
    rw [step_fetch now c k hc]
    rcases hc with rfl | rfl <;> simp [starts]
  | startRefused k hs =>
    rw [step_start_refused now c k hs]
    simp [starts, hs, List.filterMap_cons]
  | start k hs =>
    rw [step_start now c k hs]
    simp [starts, hs, List.filterMap_cons]
  | reset k =>
    rw [step_reset]
    simp [starts, Function.comp_def, List.filterMap_cons]
  | listedStale epoch seq r he =>
    rw [step_listed_stale now c seq r he]
    rfl
  | listed seq r =>
    rw [step_listed]
    simp [starts, Function.comp_def, List.filterMap_cons]
  | triggeredStale epoch k r he =>
    rw [step_triggered_stale now c k r he]
    rfl
  | started k r =>
    rw [step_started]
    simp [starts, Function.comp_def, List.filterMap_cons]
  | conflict k runId message requestId =>
    rw [step_conflict]
    simp [starts, List.filterMap_cons]
  | refused k f hf =>
    rw [step_refused now c k hf]
    rfl
  | pollEarly hd =>
    rw [step_pollDue_early now c hd]
    rfl
  | poll hd =>
    rw [step_pollDue now c hd]
    simp [starts, List.filterMap_cons]
  | startingEarly hd =>
    rw [step_startingDue_early now c hd]
    rfl
  | starting hd =>
    rw [step_startingDue now c hd]
    split <;> rfl

theorem epoch_of_mem_step {now : Nat} {c : Controller} {i : Input} {r : Request}
    (hr : r ∈ (c.step now i).actions.filterMap Action.request?) {epoch : Nat}
    (he : r.epoch? = some epoch) : epoch = c.epoch := by
  obtain ⟨a, ha, har⟩ := List.mem_filterMap.1 hr
  cases a with
  | list e seq =>
    obtain rfl := Option.some.inj har
    obtain rfl := Option.some.inj he
    have hm : (e, seq) ∈ (c.step now i).actions.filterMap Action.list? :=
      List.mem_filterMap.2 ⟨_, ha, rfl⟩
    cases c.step_calls now i with
    | none _ h => simp [h] at hm
    | one _ h =>
      simp only [h, List.mem_singleton, Prod.mk.injEq] at hm
      exact hm.1
  | trigger e k =>
    obtain rfl := Option.some.inj har
    obtain rfl := Option.some.inj he
    have hm : (e, k) ∈ (c.step now i).actions.filterMap Action.trigger? :=
      List.mem_filterMap.2 ⟨_, ha, rfl⟩
    rw [step_starts] at hm
    exact (mem_starts hm).1
  | wakeAt due =>
    obtain rfl := Option.some.inj har
    nomatch he
  | _ => nomatch har

end Controller

end RunWatch
