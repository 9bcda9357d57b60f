import RunWatch.Proofs.Freshness
import RunWatch.Proofs.Polling
set_option autoImplicit false

namespace RunWatch

/-- The snapshot that is on show after some actions; a controller starts out with that of an empty
session. -/
def shownAfter (as : List Action) : Snapshot :=
  (as.filterMap Action.shown?).getLast?.getD (Session.snapshot {})

theorem shownAfter_append (as bs : List Action) :
    shownAfter (as ++ bs) = (bs.filterMap Action.shown?).getLast?.getD (shownAfter as) := by
  unfold shownAfter
  rw [List.filterMap_append, List.getLast?_append]
  cases (bs.filterMap Action.shown?).getLast? <;> rfl

namespace Controller

theorem Showing.of_mem_shown {c : Controller} {t : Turn} (h : c.Showing t)
    {sent rest : List Action} (ha : t.actions = sent ++ rest) {u : Snapshot}
    (hu : u ∈ sent.filterMap Action.shown?) :
    u = t.state.session.snapshot ∧ .publish t.state.session.snapshot ∈ sent := by
  obtain ⟨a, hm, hs⟩ := List.mem_filterMap.1 hu
  cases a with
  | publish v =>
    obtain rfl := Option.some.inj hs
    obtain ⟨before, after, rfl⟩ := List.append_of_mem hm
    have heq := (h.of_publish (by rw [ha, List.append_assoc, List.cons_append])).1
    exact ⟨heq, heq ▸ hm⟩
  | _ => nomatch hs

theorem Showing.last_shown {c : Controller} {t : Turn} (h : c.Showing t) {sent rest : List Action}
    (ha : t.actions = sent ++ rest) (hp : .publish t.state.session.snapshot ∈ sent)
    (s : Snapshot) :
    (sent.filterMap Action.shown?).getLast?.getD s = t.state.session.snapshot := by
  have hmem : t.state.session.snapshot ∈ sent.filterMap Action.shown? :=
    List.mem_filterMap.2 ⟨_, hp, rfl⟩
  cases hl : (sent.filterMap Action.shown?).getLast? with
  | none => simp [List.getLast?_eq_none_iff.1 hl] at hmem
  | some u => exact (h.of_mem_shown ha (List.mem_of_getLast? hl)).1

theorem Showing.nothing_shown {c : Controller} {t : Turn} (h : c.Showing t)
    {sent rest : List Action} (ha : t.actions = sent ++ rest)
    (hp : .publish t.state.session.snapshot ∉ sent) : sent.filterMap Action.shown? = [] :=
  List.eq_nil_iff_forall_not_mem.2 fun _ hu => hp (h.of_mem_shown ha hu).2

/-- Someone who waits for a fetch and is answered by a reset, before what it leads to is shown. -/
structure Dismissed (now : Nat) (c : Controller) (i : Input) (k : Caller) (r : Reply)
    (sent rest : List Action) : Prop where
  reset : i.isReset = true
  waiting : ∃ w ∈ c.fetches.current ++ c.fetches.followUp, w.caller = k ∧ r = resetReply w
  unshown : sent.filterMap Action.shown? = []
  later : .publish (c.step now i).state.session.snapshot ∈ rest

variable {now : Nat} {c : Controller} {i : Input} {k : Caller} {r : Reply}
  {sent rest : List Action}

theorem dismissed_or_shown_of_reset {j : Caller}
    (h : (c.step now (.command j .reset)).actions = sent ++ .reply k r :: rest) :
    c.Dismissed now (.command j .reset) k r sent rest ∨
      .publish (c.step now (.command j .reset)).state.session.snapshot ∈ sent := by
  have hs := c.step_reset now j
  have ha := h
  rw [hs] at ha
  rcases List.append_eq_append_iff.1 ha with ⟨cs, rfl, hc⟩ | ⟨cs, hfirst, hc⟩
  · -- the reply comes after all waiters have been answered, and so after the snapshot
    cases cs with
    | nil => nomatch hc
    | cons a cs =>
      obtain ⟨rfl, -⟩ := List.cons.inj hc
      exact .inr (by rw [hs]; exact List.mem_append_right _ List.mem_cons_self)
  · cases cs with
    | nil => nomatch hc
    | cons a cs =>
      obtain ⟨rfl, hrest⟩ := List.cons.inj hc
      refine .inl ⟨rfl, ?_, ?_, ?_⟩
      · have hm : Action.reply k r ∈ sent ++ .reply k r :: cs :=
          List.mem_append_right _ List.mem_cons_self
        rw [← hfirst] at hm
        rw [List.mem_append, List.mem_map] at hm
        obtain ⟨w, hw, hwr⟩ := hm.resolve_right (by simp)
        obtain ⟨hk, hr⟩ := Action.reply.inj hwr
        exact ⟨w, hw, hk, hr.symm⟩
      · have hn : (sent ++ .reply k r :: cs).filterMap Action.shown? = [] := by
          rw [← hfirst]
          simp [Function.comp_def]
        rw [List.filterMap_append] at hn
        exact (List.append_eq_nil_iff.1 hn).1
      · rw [hs, hrest]
        exact List.mem_append_right _ List.mem_cons_self

/-- A reply that a step gives without having shown anything leaves the session as it was, unless it
dismisses someone. -/
theorem shown_before_reply (h : (c.step now i).actions = sent ++ .reply k r :: rest) :
    c.Dismissed now i k r sent rest ∨
      .publish (c.step now i).state.session.snapshot ∈ sent ∨
      sent = [] ∧ rest = [] ∧ (c.step now i).state = c := by
  have hm : .reply k r ∈ (c.step now i).actions := h ▸ List.mem_append_right _ List.mem_cons_self
  have alone (hs : c.step now i = ⟨c, [.reply k r]⟩) :
      sent = [] ∧ rest = [] ∧ (c.step now i).state = c := by
    rw [hs] at h ⊢
    cases sent with
    | nil => exact ⟨rfl, (List.cons.inj h).2.symm, rfl⟩
    | cons a sent => simp at h
  induction i using input_cases now c with
  | fetch j cmd hc =>
    rw [step_fetch now c j hc] at hm
    exact absurd hm (reply_not_mem_enrollCalls _ _ k r)
  | startRefused j hs =>
    have hstep := step_start_refused now c j hs
    rw [hstep] at hm
    obtain ⟨rfl, rfl⟩ := Action.reply.inj (List.mem_singleton.1 hm)
    exact .inr (.inr (alone hstep))
  | start j hs =>
    rw [step_start now c j hs] at hm
    simp at hm
  | reset j => exact (dismissed_or_shown_of_reset h).imp_right .inl
  | listedStale epoch seq result he =>
    rw [step_listed_stale now c seq result he] at hm
    nomatch hm
  | listed seq result => exact .inr (.inl (publish_mem_of_listed h))
  | triggeredStale epoch j result he =>
    have hstep := step_triggered_stale now c j result he
    rw [hstep] at hm
    obtain ⟨rfl, rfl⟩ := Action.reply.inj (List.mem_singleton.1 hm)
    exact .inr (.inr (alone hstep))
  | started j result =>
    rw [step_started] at h ⊢
    exact .inr (.inl (publish_mem_of_reply h (by simp [reply_not_mem_followActions])))
  | conflict j runId message requestId =>
    rw [step_conflict] at hm
    simp [reply_not_mem_followActions, reply_not_mem_enrollCalls] at hm
  | refused j f hf =>
    rw [step_refused now c j hf] at h ⊢
    exact .inr (.inl (publish_mem_of_reply h (by simp)))
  | pollEarly hd =>
    rw [step_pollDue_early now c hd] at hm
    nomatch hm
  | poll hd =>
    rw [step_pollDue now c hd] at hm
    simp [reply_not_mem_enrollCalls] at hm
  | startingEarly hd =>
    rw [step_startingDue_early now c hd] at hm
    nomatch hm
  | starting hd =>
    rw [step_startingDue now c hd] at hm
    split at hm <;> simp at hm

end Controller

namespace History

variable (timing : Timing)

theorem shownAfter_actions (past : History) :
    shownAfter (past.actions timing) = (past.controller timing).session.snapshot := by
  induction past with
  | nil => rfl
  | cons e past ih =>
    rw [actions, shownAfter_append, ih]
    exact (Controller.step_showing e.1 _ e.2).filterMap_shown?

/-- When someone is replied to, the session is on show as the step leaves it that replies. Those
apart who wait for a fetch when a reset comes: they are answered while the session is on show that
is about to be forgotten, and the empty one is shown afterwards. -/
theorem shown_when_replied (past : History) (t : Nat) (i : Input) {sent rest : List Action}
    {k : Caller} {r : Reply}
    (h : ((past.controller timing).step t i).actions = sent ++ .reply k r :: rest) :
    shownAfter (past.actions timing ++ sent) =
        ((past.controller timing).step t i).state.session.snapshot ∨
      (past.controller timing).Dismissed t i k r sent rest ∧
        shownAfter (past.actions timing ++ sent) =
          (past.controller timing).session.snapshot := by
  rw [shownAfter_append, shownAfter_actions]
  rcases Controller.shown_before_reply h with hd | hp | ⟨rfl, -, hs⟩
  · refine .inr ⟨hd, ?_⟩
    rw [hd.unshown]
    rfl
  · exact .inl ((Controller.step_showing t _ i).last_shown h hp _)
  · rw [hs]
    exact .inl rfl

theorem shown_when_listing_replies :
    let failed : Except Failure Listing := .error (.transport "lost")
    let past : History := [(0, .command 0 .sync)]
    let step := (past.controller {}).step 9 (.listed 0 1 failed)
    step.actions = step.actions.take 2 ++ .reply 0 .done :: [] ∧
      shownAfter (past.actions {} ++ step.actions.take 2) = step.state.session.snapshot := by
  intro failed past step
  have h : step.actions = step.actions.take 2 ++ .reply 0 .done :: [] := by decide
  refine ⟨h, (shown_when_replied {} past 9 (.listed 0 1 failed) h).resolve_right fun hd => ?_⟩
  nomatch hd.1.reset

/-- A caller waits for a fetch when a reset comes, after a fetch that has failed. They are answered
while the failure is still on show. -/
theorem not_shown_when_reset_replies :
    let past : History := [(20, .command 1 .sync), (9, .listed 0 1 (.error (.transport "lost"))),
      (0, .command 0 .sync)]
    let step := (past.controller {}).step 30 (.command 2 .reset)
    Orderly {} ((30, .command 2 .reset) :: past) ∧
      step.actions = [] ++ .reply 1 .done :: step.actions.drop 1 ∧
      shownAfter (past.actions {} ++ []) ≠ step.state.session.snapshot := by
  decide

end History

end RunWatch
