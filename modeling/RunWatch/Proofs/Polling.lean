import RunWatch.Proofs.Executor
import RunWatch.Proofs.Step
set_option autoImplicit false

namespace RunWatch

/-- Replies and calls, after which a controller is as it was before. -/
def Action.isAnswer : Action → Bool
  | .reply .. | .list .. | .trigger .. => true
  | _ => false

theorem Action.shown?_of_isAnswer {a : Action} (h : a.isAnswer = true) : a.shown? = none := by
  cases a with
  | publish s => simp [isAnswer] at h
  | _ => rfl

theorem shown?_followActions (p : Ticker) (now : Nat) (active : Bool) :
    ∀ a ∈ p.followActions now active, a.shown? = none :=
  p.forall_followActions (fun _ => rfl) (fun _ => rfl) now active

theorem isAnswer_enrollCalls (f : Fetches) (epoch : Nat) :
    ∀ a ∈ f.enrollCalls epoch, a.isAnswer = true :=
  f.forall_enrollCalls (fun _ _ => rfl) epoch

theorem isAnswer_advanceCalls (f : Fetches) (epoch : Nat) :
    ∀ a ∈ f.advanceCalls epoch, a.isAnswer = true :=
  f.forall_advanceCalls (fun _ _ => rfl) epoch

namespace Controller

/-- Polling, its flag and its ticker, is on exactly while a run is active. -/
structure Settled (c : Controller) : Prop where
  polling : c.session.polling = c.session.runActive
  armed : c.poll.isArmed = c.session.runActive

theorem Settled.step {c : Controller} (h : c.Settled) (now : Nat) (i : Input) :
    (c.step now i).state.Settled := by
  have hp : c.session.polling = c.poll.isArmed := h.polling.trans h.armed.symm
  induction i using input_cases now c with
  | fetch k cmd hc =>
    rw [step_fetch now c k hc]
    exact ⟨h.polling, h.armed⟩
  | startRefused k hs =>
    rw [step_start_refused now c k hs]
    exact h
  | start k hs =>
    rw [step_start now c k hs]
    exact ⟨h.polling, h.armed⟩
  | reset k =>
    rw [step_reset]
    exact ⟨rfl, rfl⟩
  | listedStale epoch seq r he =>
    rw [step_listed_stale now c seq r he]
    exact h
  | listed seq r =>
    rw [step_listed]
    exact ⟨by simp [Session.polling_follow, hp], by simp⟩
  | triggeredStale epoch k r he =>
    rw [step_triggered_stale now c k r he]
    exact h
  | started k r =>
    rw [step_started]
    exact ⟨by rw [Session.polling_follow (by simpa using hp), Session.runActive_follow], by simp⟩
  | conflict k runId message requestId =>
    rw [step_conflict]
    exact ⟨by rw [Session.polling_follow (by simpa using hp), Session.runActive_follow], by simp⟩
  | refused k f hf =>
    rw [step_refused now c k hf]
    exact ⟨by simpa using h.polling, by simpa using h.armed⟩
  | pollEarly hd =>
    rw [step_pollDue_early now c hd]
    exact h
  | poll hd =>
    rw [step_pollDue now c hd]
    have ha := Ticker.isArmed_of_isDue hd
    exact ⟨h.polling, by simp [← h.armed, ha]⟩
  | startingEarly hd =>
    rw [step_startingDue_early now c hd]
    exact h
  | starting hd =>
    rw [step_startingDue now c hd]
    exact ⟨by simpa using h.polling, by simpa using h.armed⟩

/-- How a step shows the session: not at all, and then it leaves it alone, or once, when nothing but
answers is left to do. -/
inductive Showing (c : Controller) : Turn → Prop where
  | silent {c' : Controller} {as : List Action} (hs : c'.session = c.session)
      (has : ∀ a ∈ as, a.shown? = none) : Showing c ⟨c', as⟩
  | once {c' : Controller} {before after : List Action} (hb : ∀ a ∈ before, a.shown? = none)
      (ha : ∀ a ∈ after, a.isAnswer = true) :
      Showing c ⟨c', before ++ .publish c'.session.snapshot :: after⟩

theorem step_showing (now : Nat) (c : Controller) (i : Input) : c.Showing (c.step now i) := by
  induction i using input_cases now c with
  | fetch k cmd hc =>
    rw [step_fetch now c k hc]
    exact .silent rfl fun a ha => Action.shown?_of_isAnswer (isAnswer_enrollCalls _ _ a ha)
  | startRefused k hs =>
    rw [step_start_refused now c k hs]
    exact .silent rfl (by simp)
  | start k hs =>
    rw [step_start now c k hs]
    exact .once (by simp) (by simp [Action.isAnswer])
  | reset k =>
    rw [step_reset]
    exact .once (by simp [or_imp, forall_and]) (by simp [Action.isAnswer])
  | listedStale epoch seq r he =>
    rw [step_listed_stale now c seq r he]
    exact .silent rfl (by simp)
  | listed seq r =>
    rw [step_listed]
    refine .once (by simpa [or_imp, forall_and] using shown?_followActions _ _ _) ?_
    intro a ha
    rcases List.mem_append.1 ha with ha | ha
    · obtain ⟨w, -, rfl⟩ := List.mem_map.1 ha
      rfl
    · exact isAnswer_advanceCalls _ _ a ha
  | triggeredStale epoch k r he =>
    rw [step_triggered_stale now c k r he]
    exact .silent rfl (by simp)
  | started k r =>
    rw [step_started]
    exact .once (by simpa [or_imp, forall_and] using shown?_followActions _ _ _)
      (by simp [Action.isAnswer])
  | conflict k runId message requestId =>
    rw [step_conflict]
    exact .once (by simpa [or_imp, forall_and] using shown?_followActions _ _ _)
      (isAnswer_enrollCalls _ _)
  | refused k f hf =>
    rw [step_refused now c k hf]
    exact .once (by simp) (by simp [Action.isAnswer])
  | pollEarly hd =>
    rw [step_pollDue_early now c hd]
    exact .silent rfl (by simp)
  | poll hd =>
    rw [step_pollDue now c hd]
    refine .silent rfl fun a ha => ?_
    rcases List.mem_append.1 ha with ha | ha
    · simp_all
    · exact Action.shown?_of_isAnswer (isAnswer_enrollCalls _ _ a ha)
  | startingEarly hd =>
    rw [step_startingDue_early now c hd]
    exact .silent rfl (by simp)
  | starting hd =>
    rw [step_startingDue now c hd]
    cases ha : c.session.awaitsLikelyRunning with
    | true => exact .once (by simp) (by simp)
    | false => exact .silent (by simp [Session.markLikelyRunning, ha]) (by simp)

theorem Showing.filterMap_shown? {c : Controller} {t : Turn} (h : c.Showing t) :
    (t.actions.filterMap Action.shown?).getLast?.getD c.session.snapshot =
      t.state.session.snapshot := by
  cases h with
  | silent hs has =>
    rw [List.filterMap_eq_nil_iff.2 has, ← hs]
    rfl
  | @once c' before after hb ha =>
    have hb' := List.filterMap_eq_nil_iff.2 hb
    have ha' := List.filterMap_eq_nil_iff.2 fun a h => Action.shown?_of_isAnswer (ha a h)
    simp [hb', ha']

theorem Showing.of_publish {c : Controller} {t : Turn} (h : c.Showing t) {s : Snapshot}
    {before after : List Action} (hp : t.actions = before ++ .publish s :: after) :
    s = t.state.session.snapshot ∧ ∀ a ∈ after, a.isAnswer = true := by
  cases h with
  | silent hs has =>
    have hm := has (.publish s) (by simp_all)
    simp at hm
  | @once c' before' after' hb ha =>
    rcases List.append_eq_append_iff.1 hp with ⟨as, -, h₂⟩ | ⟨bs, h₁, h₂⟩
    · cases as with
      | nil =>
        obtain ⟨hs, rfl⟩ := List.cons.inj h₂
        exact ⟨(Action.publish.inj hs).symm, ha⟩
      | cons a as =>
        have hm : Action.publish s ∈ after' := by simp_all
        have hn := ha _ hm
        simp [Action.isAnswer] at hn
    · cases bs with
      | nil =>
        obtain ⟨hs, rfl⟩ := List.cons.inj h₂
        exact ⟨Action.publish.inj hs, ha⟩
      | cons b bs =>
        have hm : Action.publish s ∈ before' := by simp_all
        have hn := hb _ hm
        simp at hn

end Controller

/-- A snapshot shows a controller as it is: polling is on exactly while a run is active and the
ticker is armed, and nothing but a submission, a run and the cooldown keeps from starting. -/
structure Snapshot.Shows (s : Snapshot) (c : Controller) : Prop where
  current : s = c.session.snapshot
  active : s.polling = s.runActive
  armed : s.polling = c.poll.isArmed
  startable : s.canStart = (!s.submitting && !s.runActive && !s.safety.cooldownActive)

theorem Controller.Settled.shows {c : Controller} (h : c.Settled) : c.session.snapshot.Shows c where
  current := rfl
  active := h.polling
  armed := h.polling.trans h.armed.symm
  startable := rfl

namespace Executor

/-- The executors that commands, calls that end, timers and an end from outside lead to. -/
inductive Reachable (timing : Timing) : Executor → Prop where
  | start : Reachable timing (.start timing)
  | handle {x : Executor} (now : Nat) (i : Input) : Reachable timing x →
      Reachable timing (x.handle now i)
  | issue {x : Executor} (now : Nat) (command : Command) : Reachable timing x →
      Reachable timing (x.issue now command)
  | take {x : Executor} : Reachable timing x → Reachable timing x.take.2.2
  | kill {x : Executor} : Reachable timing x → Reachable timing x.kill

theorem Reachable.shown_eq {timing : Timing} {x : Executor} (h : x.Reachable timing)
    {c : Controller} (hc : x.controller = some c) :
    c.Settled ∧ x.shown = c.session.snapshot := by
  have step {y : Executor} {now : Nat} {i : Input} {c : Controller}
      (ih : ∀ {c}, y.controller = some c → c.Settled ∧ y.shown = c.session.snapshot)
      (hc : (y.handle now i).controller = some c) :
      c.Settled ∧ (y.handle now i).shown = c.session.snapshot := by
    obtain ⟨d, hd, rfl, hs, -⟩ := handle_alive hc
    obtain ⟨hset, hsh⟩ := ih hd
    exact ⟨hset.step now i, by rw [hs, hsh, (d.step_showing now i).filterMap_shown?]⟩
  induction h generalizing c with
  | start =>
    cases hc
    exact ⟨⟨rfl, rfl⟩, rfl⟩
  | handle now i _ ih => exact step ih hc
  | @issue x now command _ ih =>
    cases hx : x.controller with
    | none =>
      rw [issue_none hx] at hc
      cases hx.symm.trans hc
    | some d =>
      rw [issue_some (by simp [hx])] at hc ⊢
      exact step ih hc
  | take _ ih => exact ih hc
  | @kill x _ ih => cases x.controller_kill.symm.trans hc

/-- What is shown while a controller is alive, and what any of its steps shows on the way. -/
theorem shown_is_current {timing : Timing} {x : Executor} (h : x.Reachable timing)
    {c : Controller} (hc : x.controller = some c) :
    x.shown.Shows c ∧
      ∀ (now : Nat) (i : Input) (before after : List Action) (s : Snapshot),
        (c.step now i).actions = before ++ .publish s :: after →
          s.Shows (c.step now i).state ∧ ∀ a ∈ after, a.isAnswer = true := by
  obtain ⟨hset, hsh⟩ := h.shown_eq hc
  refine ⟨hsh ▸ hset.shows, fun now i before after s hp => ?_⟩
  obtain ⟨rfl, ha⟩ := (c.step_showing now i).of_publish hp
  exact ⟨(hset.step now i).shows, ha⟩

theorem shown_is_current_after_conflict :
    ∃ (x : Executor) (c : Controller), x.Reachable {} ∧ x.controller = some c ∧
      x.shown.Shows c ∧ x.shown.polling = true ∧
      ∃ before after s,
        (c.step 9 (.listed 0 1 (.ok ⟨[], .null⟩))).actions = before ++ .publish s :: after ∧
          s.Shows (c.step 9 (.listed 0 1 (.ok ⟨[], .null⟩))).state := by
  have h : Reachable {} (((Executor.start {}).handle 0 (.command 0 .start)).handle 7
      (.triggered 0 0 (.error (.conflict none "busy" none)))) := .handle _ _ (.handle _ _ .start)
  have hs := shown_is_current h rfl
  exact ⟨_, _, h, rfl, hs.1, by decide, [], _, _, rfl, (hs.2 _ _ [] _ _ rfl).1⟩

end Executor

end RunWatch
