import RunWatch.Proofs.System
set_option autoImplicit false

namespace RunWatch

namespace Fetches

def Tidy (f : Fetches) : Prop := f.inFlight = false → f.callers = []

theorem inFlight_enroll (f : Fetches) (w : Waiter) : (f.enroll w).inFlight = true := by
  unfold enroll
  split
  · assumption
  · rfl

theorem tidy_advance (f : Fetches) : f.advance.Tidy := by
  unfold Tidy advance
  split
  · next h => simp [callers, List.isEmpty_iff.1 h]
  · simp

end Fetches

namespace Controller

theorem step_tidy {now : Nat} {c : Controller} {i : Input} (h : c.fetches.Tidy) :
    (c.step now i).state.fetches.Tidy := by
  have ha (w : Waiter) : (c.fetches.enroll w).Tidy := by
    simp [Fetches.Tidy, Fetches.inFlight_enroll]
  induction i using input_cases now c with
  | fetch k cmd hc =>
    rw [step_fetch now c k hc]
    exact ha _
  | startRefused k hs =>
    rw [step_start_refused now c k hs]
    exact h
  | start k hs =>
    rw [step_start now c k hs]
    exact h
  | reset k =>
    rw [step_reset]
    exact fun _ => rfl
  | listedStale epoch seq r he =>
    rw [step_listed_stale now c seq r he]
    exact h
  | listed seq r =>
    rw [step_listed]
    exact c.fetches.tidy_advance
  | triggeredStale epoch k r he =>
    rw [step_triggered_stale now c k r he]
    exact h
  | started k r =>
    rw [step_started]
    exact h
  | conflict k runId message requestId =>
    rw [step_conflict]
    exact ha _
  | refused k f hf =>
    rw [step_refused now c k hf]
    exact h
  | pollEarly hd =>
    rw [step_pollDue_early now c hd]
    exact h
  | poll hd =>
    rw [step_pollDue now c hd]
    dsimp only
    split
    · exact h
    · simp [Fetches.Tidy]
  | startingEarly hd =>
    rw [step_startingDue_early now c hd]
    exact h
  | starting hd =>
    rw [step_startingDue now c hd]
    exact h

/-- How a fetch comes to be in flight after a step: it was in flight before and has not ended, or
the step has sent it. -/
def Flies (c : Controller) (i : Input) (t : Turn) : Prop :=
  c.fetches.inFlight = true ∧ t.state.epoch = c.epoch ∧ (∀ seq r, i ≠ .listed c.epoch seq r) ∨
    ∃ seq, .list t.state.epoch seq ∈ t.actions

theorem mem_enrollCalls {f : Fetches} (h : f.inFlight = false) (epoch : Nat) :
    .list epoch (f.issued + 1) ∈ f.enrollCalls epoch := by
  simp [Fetches.enrollCalls, h]

theorem step_flies {now : Nat} {c : Controller} {i : Input}
    (h : (c.step now i).state.fetches.inFlight = true) : c.Flies i (c.step now i) := by
  induction i using input_cases now c with
  | fetch k cmd hc =>
    rw [step_fetch now c k hc] at h ⊢
    cases hf : c.fetches.inFlight with
    | true => exact .inl ⟨hf, rfl, nofun⟩
    | false => exact .inr ⟨_, mem_enrollCalls hf c.epoch⟩
  | startRefused k hs =>
    rw [step_start_refused now c k hs] at h ⊢
    exact .inl ⟨h, rfl, nofun⟩
  | start k hs =>
    rw [step_start now c k hs] at h ⊢
    exact .inl ⟨h, rfl, nofun⟩
  | reset k =>
    rw [step_reset] at h
    nomatch h
  | listedStale epoch seq r he =>
    rw [step_listed_stale now c seq r he] at h ⊢
    refine .inl ⟨h, rfl, fun seq' r' hi => he ?_⟩
    cases hi
    rfl
  | listed seq r =>
    rw [step_listed] at h ⊢
    have hc : .list c.epoch (c.fetches.issued + 1) ∈ c.fetches.advanceCalls c.epoch := by
      cases hf : c.fetches.followUp <;> simp_all [Fetches.advance, Fetches.advanceCalls]
    exact .inr ⟨_, List.mem_append_right _ (List.mem_cons_of_mem _ (List.mem_append_right _ hc))⟩
  | triggeredStale epoch k r he =>
    rw [step_triggered_stale now c k r he] at h ⊢
    exact .inl ⟨h, rfl, nofun⟩
  | started k r =>
    rw [step_started] at h ⊢
    exact .inl ⟨h, rfl, nofun⟩
  | conflict k runId message requestId =>
    rw [step_conflict] at h ⊢
    cases hf : c.fetches.inFlight with
    | true => exact .inl ⟨hf, rfl, nofun⟩
    | false =>
      exact .inr ⟨_, List.mem_append_right _ (List.mem_cons_of_mem _ (mem_enrollCalls hf c.epoch))⟩
  | refused k f hf =>
    rw [step_refused now c k hf] at h ⊢
    exact .inl ⟨h, rfl, nofun⟩
  | pollEarly hd =>
    rw [step_pollDue_early now c hd] at h ⊢
    exact .inl ⟨h, rfl, nofun⟩
  | poll hd =>
    rw [step_pollDue now c hd] at h ⊢
    cases hf : c.fetches.inFlight with
    | true => exact .inl ⟨hf, rfl, nofun⟩
    | false => exact .inr ⟨_, List.mem_append_right _ (mem_enrollCalls hf c.epoch)⟩
  | startingEarly hd =>
    rw [step_startingDue_early now c hd] at h ⊢
    exact .inl ⟨h, rfl, nofun⟩
  | starting hd =>
    rw [step_startingDue now c hd] at h ⊢
    exact .inl ⟨h, rfl, nofun⟩

end Controller

namespace System

def Lists (s : System) (epoch : Nat) : Prop :=
  (∃ seq, .list epoch seq ∈ s.calls) ∨ ∃ seq r, .listed epoch seq r ∈ s.ended

/-- Whoever waits for a fetch waits for a list call of this epoch. -/
def Fetching (s : System) : Prop :=
  ∀ c, s.executor.controller = some c →
    c.fetches.Tidy ∧ (c.fetches.inFlight = true → s.Lists c.epoch)

variable {s : System}

theorem moved_alive {x : Executor} {c : Controller} (h : (s.moved x).executor.controller = some c) :
    x.controller = some c ∧ s.moved x = s.settle x := by
  unfold moved at h ⊢
  split at h
  · next hx =>
    rw [if_pos hx]
    exact ⟨h, rfl⟩
  · next hx =>
    have hn : x.controller = none := by simpa using hx
    have hf := controller_foldl_handle hn s.now s.ended
    nomatch hf.symm.trans h

theorem Fetching.handle {i : Input} (h : ∀ c, s.executor.controller = some c → c.fetches.Tidy ∧
      (c.fetches.inFlight = true → (∀ seq r, i ≠ .listed c.epoch seq r) → s.Lists c.epoch)) :
    (s.handle i).Fetching := by
  intro c' hc'
  obtain ⟨hc, hm⟩ := moved_alive hc'
  obtain ⟨c, hx, rfl, -, hr⟩ := Executor.handle_alive hc
  obtain ⟨ht, hl⟩ := h c hx
  refine ⟨Controller.step_tidy ht, fun hf => ?_⟩
  rw [System.handle, hm]
  rcases Controller.step_flies hf with ⟨hin, he, hi⟩ | ⟨seq, hseq⟩
  · rw [he]
    rcases hl hin hi with ⟨seq, hs⟩ | ⟨seq, r, hs⟩
    · exact .inl ⟨seq, List.mem_append_left _ hs⟩
    · exact .inr ⟨seq, r, hs⟩
  · refine .inl ⟨seq, List.mem_append_right _ (List.mem_filter.2 ⟨?_, rfl⟩)⟩
    show _ ∈ (s.executor.handle s.now i).requests
    rw [hr]
    exact List.mem_append_right _ (List.mem_filterMap.2 ⟨_, hseq, rfl⟩)

theorem Fetching.step {t : System} (h : s.Fetching) (ht : s.Step t) : t.Fetching := by
  cases ht with
  | elapse d => exact h
  | submit cmd =>
    unfold submit
    split
    · exact h
    · next hx =>
      intro c hc
      obtain ⟨hi, -⟩ := moved_alive hc
      have hn : s.executor.controller = none := by simpa using hx
      rw [Executor.issue_none hn] at hi
      nomatch hn.symm.trans hi
  | takeCommand hs => exact .handle fun c hc => ⟨(h c hc).1, fun hf _ => (h c hc).2 hf⟩
  | @callEnds r i before after hs hi =>
    unfold complete
    split
    · next hx =>
      refine fun c hc => ⟨(h c hc).1, fun hf => ?_⟩
      rcases (h c hc).2 hf with ⟨seq, hm⟩ | ⟨seq, r', hm⟩
      · rw [hs, List.mem_append, List.mem_cons] at hm
        rcases hm with hm | rfl | hm
        · exact .inl ⟨seq, List.mem_append_left _ hm⟩
        · cases hi with
          | listed r' => exact .inr ⟨seq, r', List.mem_append_right _ List.mem_cons_self⟩
        · exact .inl ⟨seq, List.mem_append_right _ hm⟩
      · exact .inr ⟨seq, r', List.mem_append_left _ hm⟩
    · next hx =>
      refine .handle fun c hc => ?_
      simp [show s.executor.controller = some c from hc] at hx
  | @takeEnded i rest hs =>
    refine .handle fun c hc => ⟨(h c hc).1, fun hf hi => ?_⟩
    rcases (h c hc).2 hf with ⟨seq, hm⟩ | ⟨seq, r, hm⟩
    · exact .inl ⟨seq, hm⟩
    · rcases List.mem_cons.1 (hs ▸ hm) with rfl | hm
      · exact absurd rfl (hi seq r)
      · exact .inr ⟨seq, r, hm⟩
  | pollDue => exact .handle fun c hc => ⟨(h c hc).1, fun hf _ => (h c hc).2 hf⟩
  | startingDue => exact .handle fun c hc => ⟨(h c hc).1, fun hf _ => (h c hc).2 hf⟩
  | kill =>
    intro c hc
    obtain ⟨hk, -⟩ := moved_alive hc
    nomatch s.executor.controller_kill.symm.trans hk

theorem Fetching.of_start (timing : Timing) : (start timing).Fetching := by
  intro c hc
  obtain rfl := Option.some.inj hc
  exact ⟨fun _ => rfl, nofun⟩

theorem Fetching.steps {t : System} (h : s.Fetching) (ht : s.Steps t) : t.Fetching := by
  induction ht with
  | refl => exact h
  | tail _ hu ih => exact ih.step hu

end System

end RunWatch
