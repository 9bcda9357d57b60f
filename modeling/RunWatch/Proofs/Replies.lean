import RunWatch.Proofs.Fetching
set_option autoImplicit false

namespace RunWatch.System

variable {s : System} {n : Nat} {told : List Caller}

def LastWordsOnly (s : System) (n : Nat) (told : List Caller) : Prop :=
  ∀ k r, .replied k r ∈ s.happened →
    k ∈ told ∨ ∃ cmd, s.commands[k]? = some cmd ∧ r = Executor.lastWord n k cmd

/-- The controller has gone after `n` commands, when those in `told` had been answered. -/
structure Parted (s : System) (n : Nat) (told : List Caller) : Prop where
  sound : s.Sound
  executor : s.executor.Parted n s.commands
  later : n ≤ s.commands.length
  said : s.LastWordsOnly n told

theorem Parted.moved {x : Executor} (h : s.Ready x) (hx : x.Parted n s.commands)
    (hn : n ≤ s.commands.length) (hs : s.LastWordsOnly n told) : (s.moved x).Parted n told := by
  have hm := h.moved
  obtain ⟨-, -, hp⟩ := drain h.ledger h.knows h.ended s.now
  have hy := hp n hx
  have heq : s.moved x = { s with queue := [], ended := [] }.settle
      (s.ended.foldl (·.handle s.now ·) x) := by
    rw [System.moved, if_neg (by simp [hx.gone])]
  rw [heq] at hm ⊢
  refine ⟨hm, ⟨hy.gone, hy.calling, fun k r hr => nomatch hr⟩, hn, fun k r hr => ?_⟩
  rcases List.mem_append.1 hr with hr | hr
  · exact hs k r hr
  · exact .inr (hy.said k r hr)

theorem Sound.kill (h : s.Sound) : s.kill.Parted s.commands.length s.answered := by
  have hx : s.executor.kill.Parted s.commands.length s.commands := by
    unfold Executor.kill
    split
    · exact .stop h.ready.knows h.trace
    · next hx =>
      refine ⟨by simpa using hx, fun k hk => ?_, fun k r hr => ?_⟩
      · exact (List.getElem?_eq_some_iff.1 (h.ready.knows.calling k hk)).1
      · rw [h.trace] at hr
        nomatch hr
  refine Parted.moved h.ready_kill hx (Nat.le_refl _) fun k r hr => .inl ?_
  exact List.mem_filterMap.2 ⟨_, hr, rfl⟩

theorem Holds.parted {i : Input} (h : s.Holds i) (hx : s.executor.Parted n s.commands)
    (hn : n ≤ s.commands.length) (hs : s.LastWordsOnly n told) : (s.handle i).Parted n told := by
  have hi : i.starter ⊆ s.executor.calling :=
    List.Subset.trans (List.subset_append_left _ _) h.ledger.calls_subset
  exact Parted.moved h.ready (hx.handle h.knows hi s.now) hn hs

theorem Parted.step {t : System} (h : s.Parted n told) (ht : s.Step t) : t.Parted n told := by
  obtain ⟨hsound, hx, hn, hs⟩ := h
  obtain ⟨hq, he⟩ := hsound.gone hx.gone
  have hgone : ¬ s.executor.controller.isSome := by simp [hx.gone]
  cases ht with
  | elapse d => exact ⟨hsound.step (.elapse d), hx, hn, hs⟩
  | submit cmd =>
    rw [submit, if_neg hgone]
    refine Parted.moved (hsound.ready_issue hx.gone cmd)
      (hx.issue hsound.ready.knows hn s.now cmd) ?_ fun k r hr => ?_
    · exact Nat.le_trans hn (by simp)
    · refine (hs k r hr).imp_right fun ⟨c, hc, hl⟩ => ⟨c, ?_, hl⟩
      exact Executor.getElem?_append_some hc cmd
  | takeCommand h => exact absurd (hq.symm.trans h) (List.cons_ne_nil _ _).symm
  | callEnds h hi =>
    rw [complete, if_neg hgone]
    exact (hsound.holds_call h hi).parted hx hn hs
  | takeEnded h => exact absurd (he.symm.trans h) (List.cons_ne_nil _ _).symm
  | pollDue => exact (hsound.holds_timer (.inl rfl)).parted hx hn hs
  | startingDue => exact (hsound.holds_timer (.inr rfl)).parted hx hn hs
  | kill =>
    refine Parted.moved hsound.ready_kill ?_ hn hs
    rw [Executor.kill, if_neg hgone]
    exact hx

theorem Parted.steps {t : System} (h : s.Parted n told) (ht : s.Steps t) : t.Parted n told := by
  induction ht with
  | refl => exact h
  | tail _ hu ih => exact ih.step hu

def waiters (s : System) : List Caller :=
  match s.executor.controller with
  | some c => c.fetches.callers
  | none => []

/-- The places where a caller can be waited for: the queue of commands, the calls of starts, whether
under way or ended and not handled yet, and the fetches. -/
def places (s : System) : List Caller := s.queue.map Prod.fst ++ s.starting ++ s.waiters

/-- Nothing is queued, and no call is outstanding that could still answer someone. -/
structure Quiet (s : System) : Prop where
  queue : s.queue = []
  starts : ∀ epoch k, .trigger epoch k ∉ s.calls
  started : ∀ epoch k r, .triggered epoch k r ∉ s.ended
  lists : ∀ c, s.executor.controller = some c → ¬ s.Lists c.epoch

/-- Whoever issued a command has been answered once or is waited for in one place. -/
theorem Sound.count (h : s.Sound) (k : Caller) :
    s.places.count k + s.answered.count k = if k < s.commands.length then 1 else 0 := by
  have ho := h.ready.ledger.owed k
  have hu := h.ready.ledger.under k
  have hh : (s.executor.held (s.queue.map Prod.fst)).count k =
      (s.queue.map Prod.fst).count k + s.waiters.count k := by
    unfold Executor.held waiters
    cases hc : s.executor.controller with
    | some c => exact List.count_append
    | none => simp [(h.gone hc).1]
  rw [← h.ready.knows.count]
  refine Eq.trans ?_ (h.ready.ledger.once k)
  simp only [h.requests, h.trace, List.filterMap_nil, List.count_nil] at ho hu ⊢
  simp only [places, List.count_append] at ho hu hh ⊢
  omega

theorem Quiet.places (h : s.Quiet) (hs : s.Fetching) : s.places = [] := by
  have hst : s.starting = [] := by
    have he : s.ended.flatMap Input.starter = [] := List.flatMap_eq_nil_iff.2 fun i hi => by
      cases i with
      | triggered epoch k r => exact absurd hi (h.started epoch k r)
      | _ => rfl
    have hc : s.calls.filterMap Request.starter? = [] := List.filterMap_eq_nil_iff.2 fun r hr => by
      cases r with
      | trigger epoch k => exact absurd hr (h.starts epoch k)
      | _ => rfl
    rw [starting, he, hc, List.append_nil]
  have hw : s.waiters = [] := by
    unfold waiters
    split
    · next c hc =>
      obtain ⟨ht, hl⟩ := hs c hc
      cases hf : c.fetches.inFlight with
      | true => exact absurd (hl hf) (h.lists c hc)
      | false => exact ht hf
    · rfl
  rw [System.places, h.queue, hst, hw]
  rfl

theorem Parted.left (h : s.Parted n told) {k : Caller} {cmd : Command}
    (hk : s.commands[k]? = some cmd) (ha : k ∉ s.answered) :
    cmd = .start ∧ ∃ epoch, .trigger epoch k ∈ s.calls := by
  obtain ⟨hq, he⟩ := h.sound.gone h.executor.gone
  have hc := h.sound.count k
  rw [if_pos (List.getElem?_eq_some_iff.1 hk).1, List.count_eq_zero.2 ha] at hc
  have hm : k ∈ s.starting := by
    have hp : k ∈ s.places := List.count_pos_iff.1 (by omega)
    simpa [places, hq, waiters, h.executor.gone] using hp
  have hcall := h.sound.ready.knows.calling k (h.sound.ready.ledger.calls_subset hm)
  simp only [starting, he, List.flatMap_nil, List.nil_append, List.mem_filterMap] at hm
  obtain ⟨r, hr, hrk⟩ := hm
  refine ⟨Option.some.inj (hk.symm.trans hcall), ?_⟩
  cases r with
  | trigger epoch j =>
    obtain rfl := Option.some.inj hrk
    exact ⟨epoch, hr⟩
  | _ => simp at hrk

/-- In every system that can come about, each caller is answered once at most, and whoever has not
been answered is waited for in exactly one place. Nobody is left when all is quiet. Once the
controller has been ended, everyone gets their last word, at once or when the call of their start
ends. -/
theorem answered_once {timing : Timing} (h : (start timing).Steps s) :
    (∀ k, s.answered.count k ≤ 1) ∧
      (∀ k < s.commands.length, s.places.count k = if k ∈ s.answered then 0 else 1) ∧
      (s.Quiet → ∀ k < s.commands.length, k ∈ s.answered) ∧
      ∀ t, s.kill.Steps t → ∀ k cmd, t.commands[k]? = some cmd → k ∉ s.answered →
        (cmd = .start ∧ ∃ epoch, .trigger epoch k ∈ t.calls) ∨
          .replied k (Executor.lastWord s.commands.length k cmd) ∈ t.happened := by
  have hs : s.Sound := (Sound.of_start timing).steps h
  have hf : s.Fetching := (Fetching.of_start timing).steps h
  refine ⟨fun k => ?_, fun k hk => ?_, fun hq k hk => ?_, fun t ht k cmd hk ha => ?_⟩
  · have hc := hs.count k
    split at hc <;> omega
  · have hc := hs.count k
    rw [if_pos hk] at hc
    split
    · next hm =>
      have := List.count_pos_iff.2 hm
      omega
    · next hm =>
      rw [List.count_eq_zero.2 hm] at hc
      exact hc
  · have hc := hs.count k
    rw [if_pos hk, hq.places hf] at hc
    exact List.count_pos_iff.1 (by simp at hc; omega)
  · have hp : t.Parted s.commands.length s.answered := hs.kill.steps ht
    by_cases hm : k ∈ t.answered
    · obtain ⟨e, he, hek⟩ := List.mem_filterMap.1 hm
      cases e with
      | replied j r =>
        obtain rfl := Option.some.inj hek
        obtain ⟨c, hc, rfl⟩ := (hp.said j r he).resolve_left ha
        obtain rfl := Option.some.inj (hk.symm.trans hc)
        exact .inr he
      | _ => nomatch hek
    · exact .inl (hp.left hk hm)

theorem answered_once_after_kill :
    let s := { (start {}).submit .start with queue := [] }.handle (.command 0 .start)
    let t := { s.kill with calls := [] }.complete (.triggered 0 0 (.error (.transport "gone")))
    (start {}).Steps s ∧ s.kill.Steps t ∧
      .replied 0 (Controller.localError Executor.stoppedMeanwhile) ∈ t.happened := by
  intro s t
  have hs : (start {}).Steps s := .tail (.tail .refl (.submit .start)) (.takeCommand rfl)
  have hcalls : s.kill.calls = [] ++ .trigger 0 0 :: [] := rfl
  have ht : s.kill.Steps t := .tail .refl (.callEnds hcalls (.triggered _))
  refine ⟨hs, ht, ?_⟩
  rcases (answered_once hs).2.2.2 t ht 0 .start rfl (by decide) with ⟨-, epoch, hm⟩ | h
  · nomatch hm
  · exact h

end RunWatch.System
