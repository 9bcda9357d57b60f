import RunWatch.Proofs.Bookkeeping
import RunWatch.Proofs.Submission
/-!
Every system has an orderly history. However a system came about, while its controller is there it
is the one to which some orderly history leads, and the calls that are pending in that history are
those that are under way or have ended without having been handled. So what holds after every
orderly history holds in every system.
-/
set_option autoImplicit false

namespace RunWatch.System

/-- The calls that are under way, and those whose end was not handled yet. -/
def outstanding (s : System) : List Request := s.calls ++ s.ended.filterMap Input.call?

/-- A system and what its controller has handled. -/
structure Chronicle (timing : Timing) (s : System) (past : History) : Prop where
  controller : s.executor.controller = some (past.controller timing)
  orderly : past.Orderly timing
  clock : past.now ≤ s.now
  pending (q : Request) : s.outstanding.count q = (past.pending timing).count q
  queued (k : Caller) : (s.queue.map Prod.fst).count k + past.commanders.count k ≤
    if k < s.commands.length then 1 else 0
  ends : ∀ i ∈ s.ended, ∃ q, i.Ends q

variable {timing : Timing} {s t : System} {past : History} {i : Input}

theorem Chronicle.start (timing : Timing) : Chronicle timing (start timing) [] where
  controller := rfl
  orderly := trivial
  clock := Nat.le_refl 0
  pending _ := rfl
  queued _ := Nat.zero_le _
  ends := by simp [System.start]

theorem Chronicle.handle (hx : s.executor.controller = some (past.controller timing))
    (hreq : s.executor.requests = []) (ho : past.Orderly timing) (hn : past.now ≤ s.now)
    (hi : past.Admits timing i)
    (hp : ∀ q, s.outstanding.count q =
      if i.call? = some q then 0 else (past.pending timing).count q)
    (hq : ∀ k, (s.queue.map Prod.fst).count k + (i.commander ++ past.commanders).count k ≤
      if k < s.commands.length then 1 else 0)
    (he : ∀ j ∈ s.ended, ∃ q, j.Ends q) {c : Controller}
    (hc : (s.handle i).executor.controller = some c) :
    Chronicle timing (s.handle i) ((s.now, i) :: past) := by
  obtain ⟨hh, hm⟩ := moved_alive hc
  obtain ⟨c', hx', rfl, -, hr⟩ := Executor.handle_alive hh
  obtain rfl := Option.some.inj (hx.symm.trans hx')
  have hcalls : (s.executor.handle s.now i).requests.filter Request.isCall =
      ((past.controller timing).step s.now i).calls := by
    rw [hr, hreq, List.nil_append, List.filter_filterMap]
    rfl
  rw [System.handle] at hc ⊢
  rw [hm] at hc ⊢
  refine ⟨hc, ⟨ho, hn, hi⟩, Nat.le_refl _, fun q => ?_, hq, he⟩
  rw [History.count_pending_cons, ← hp q, ← hcalls]
  simp only [outstanding, settle, Executor.take, List.count_append]
  omega

theorem Chronicle.step (h : Chronicle timing s past) (hs : s.Sound) (ht : s.Step t)
    {c : Controller} (hc : t.executor.controller = some c) :
    ∃ past', Chronicle timing t past' := by
  have hx : s.executor.controller.isSome = true := by simp [h.controller]
  cases ht with
  | elapse d =>
    exact ⟨past, h.controller, h.orderly, Nat.le_trans h.clock (Nat.le_add_right _ d), h.pending,
      h.queued, h.ends⟩
  | submit cmd =>
    rw [System.submit, if_pos hx]
    refine ⟨past, h.controller, h.orderly, h.clock, h.pending, fun k => ?_, h.ends⟩
    have hk := h.queued k
    have hn := hs.ready.knows.count
    have hnew : (s.queue ++ [(s.executor.nextCaller, cmd)]).map Prod.fst =
        s.queue.map Prod.fst ++ [s.commands.length] := by simp [hn]
    show ((s.queue ++ [(s.executor.nextCaller, cmd)]).map Prod.fst).count k + _ ≤ _
    rw [hnew, List.count_append, List.count_singleton, List.length_append, List.length_singleton]
    rcases Nat.lt_trichotomy k s.commands.length with hlt | heq | hgt
    · rw [if_pos hlt] at hk
      rw [if_neg (by simpa using Nat.ne_of_gt hlt), if_pos (Nat.lt_succ_of_lt hlt)]
      exact hk
    · rw [if_neg (heq ▸ Nat.lt_irrefl k)] at hk
      rw [if_pos (by simp [heq]), if_pos (heq ▸ Nat.lt_succ_self _)]
      omega
    · rw [if_neg (Nat.lt_asymm hgt)] at hk
      rw [if_neg (by simpa using Nat.ne_of_lt hgt)]
      omega
  | @takeCommand k cmd rest hq =>
    have hqueue (j : Caller) : (s.queue.map Prod.fst).count j =
        (rest.map Prod.fst).count j + [k].count j := by
      rw [hq, List.map_cons, ← List.singleton_append, List.count_append, Nat.add_comm]
    refine ⟨_, Chronicle.handle h.controller hs.requests h.orderly h.clock ?_ h.pending
      (fun j => ?_) h.ends hc⟩
    · have hk := h.queued k
      rw [hqueue, List.count_singleton_self] at hk
      exact List.count_eq_zero.1 (by split at hk <;> omega)
    · have hj := h.queued j
      rw [hqueue] at hj
      rw [List.count_append]
      exact Nat.le_trans (by simp only [Input.commander]; omega) hj
  | @callEnds r i before after hr hi =>
    rw [complete, if_pos hx]
    refine ⟨past, h.controller, h.orderly, h.clock, fun q => ?_, h.queued, fun j hj => ?_⟩
    · rw [← h.pending]
      simp only [outstanding, hr, List.filterMap_append, List.filterMap_cons,
        Input.call?_eq_some_iff.2 hi, List.filterMap_nil, List.count_append, List.count_cons,
        List.count_nil]
      omega
    · rcases List.mem_append.1 hj with hj | hj
      · exact h.ends j hj
      · rw [List.mem_singleton.1 hj]
        exact ⟨r, hi⟩
  | @takeEnded i rest hi =>
    obtain ⟨q, hends⟩ := h.ends i (hi ▸ List.mem_cons_self)
    have hcall := Input.call?_eq_some_iff.2 hends
    have hcount (p : Request) : s.outstanding.count p =
        { s with ended := rest }.outstanding.count p + [q].count p := by
      have hcons : q :: rest.filterMap Input.call? = [q] ++ rest.filterMap Input.call? := rfl
      simp only [outstanding, hi, List.filterMap_cons, hcall, hcons, List.count_append]
      omega
    obtain ⟨hadmits, hleft⟩ := h.orderly.admits_of_count hcall h.pending hcount
    refine ⟨_, Chronicle.handle h.controller hs.requests h.orderly h.clock hadmits hleft
      (fun k => ?_) (fun j hj => h.ends j (hi ▸ List.mem_cons_of_mem _ hj)) hc⟩
    have hcom : i.commander = [] := by cases hends <;> rfl
    rw [hcom]
    exact h.queued k
  | pollDue =>
    exact ⟨_, Chronicle.handle h.controller hs.requests h.orderly h.clock trivial h.pending
      h.queued h.ends hc⟩
  | startingDue =>
    exact ⟨_, Chronicle.handle h.controller hs.requests h.orderly h.clock trivial h.pending
      h.queued h.ends hc⟩
  | kill =>
    obtain ⟨hk, -⟩ := moved_alive hc
    rw [s.executor.controller_kill] at hk
    cases hk

theorem moved_gone {x : Executor} (h : x.controller = none) :
    (s.moved x).executor.controller = none := by
  cases hm : (s.moved x).executor.controller with
  | none => rfl
  | some c => nomatch h.symm.trans (moved_alive hm).1

theorem Step.gone (ht : s.Step t) (h : s.executor.controller = none) :
    t.executor.controller = none := by
  have hx : ¬ s.executor.controller.isSome = true := by simp [h]
  cases ht with
  | elapse d => exact h
  | submit cmd =>
    rw [System.submit, if_neg hx]
    exact moved_gone (by rw [Executor.issue_none h]; exact h)
  | callEnds _ _ =>
    rw [complete, if_neg hx]
    exact moved_gone (Executor.controller_handle_none h _ _)
  | kill => exact moved_gone s.executor.controller_kill
  | _ => exact moved_gone (Executor.controller_handle_none h _ _)

/-- A system with a controller has come about by an orderly history. -/
theorem exists_chronicle (h : (start timing).Steps s) {c : Controller}
    (hc : s.executor.controller = some c) : ∃ past, Chronicle timing s past := by
  induction h generalizing c with
  | refl => exact ⟨[], .start timing⟩
  | @tail t u ht hu ih =>
    cases ht' : t.executor.controller with
    | none => nomatch (hu.gone ht').symm.trans hc
    | some c' =>
      obtain ⟨past, hp⟩ := ih ht'
      exact hp.step ((Sound.of_start timing).steps ht) hu hc

theorem Chronicle.mem_outstanding (h : Chronicle timing s past) (q : Request) :
    q ∈ s.outstanding ↔ q ∈ past.pending timing := by
  rw [← List.count_pos_iff, h.pending, List.count_pos_iff]

theorem inFlight_iff_outstanding (h : (start timing).Steps s) {c : Controller}
    (hc : s.executor.controller = some c) :
    c.fetches.inFlight = true ↔ ∃ seq, .list c.epoch seq ∈ s.outstanding := by
  obtain ⟨past, hp⟩ := exists_chronicle h hc
  obtain rfl := Option.some.inj (hp.controller.symm.trans hc)
  simp [hp.mem_outstanding, hp.orderly.list_mem_pending_iff]

theorem submitting_iff_outstanding (h : (start timing).Steps s) {c : Controller}
    (hc : s.executor.controller = some c) :
    c.session.submitting = true ↔ ∃ k, .trigger c.epoch k ∈ s.outstanding := by
  obtain ⟨past, hp⟩ := exists_chronicle h hc
  obtain rfl := Option.some.inj (hp.controller.symm.trans hc)
  simp only [hp.mem_outstanding, hp.orderly.submission.open_iff]

end RunWatch.System
