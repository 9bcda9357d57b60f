import RunWatch.Proofs.History
import RunWatch.Proofs.System
/-!
Histories that can come about. A call is pending from the step that makes it until the controller
has handled its end, and a history is orderly if it holds the ends of pending calls only, if every
command comes from a caller of its own, and if its instants never run backwards.
-/
set_option autoImplicit false

namespace RunWatch

def Input.call? : Input → Option Request
  | .listed epoch seq _ => some (.list epoch seq)
  | .triggered epoch k _ => some (.trigger epoch k)
  | _ => none

theorem Input.call?_eq_some_iff {i : Input} {q : Request} : i.call? = some q ↔ i.Ends q := by
  constructor
  · intro h
    cases i with
    | listed epoch seq r =>
      obtain rfl := Option.some.inj h
      exact .listed r
    | triggered epoch k r =>
      obtain rfl := Option.some.inj h
      exact .triggered r
    | _ => nomatch h
  · intro h
    cases h <;> rfl

def Action.call? (a : Action) : Option Request := a.request?.filter Request.isCall

def Turn.calls (t : Turn) : List Request := t.actions.filterMap Action.call?

theorem Turn.count_list_calls (t : Turn) (epoch seq : Nat) :
    t.calls.count (.list epoch seq) = (t.actions.filterMap Action.list?).count (epoch, seq) := by
  unfold calls
  induction t.actions with
  | nil => rfl
  | cons a as ih =>
    cases a <;> simp [List.filterMap_cons, Action.call?, Action.request?, Action.list?,
      Request.isCall, Option.filter, List.count_cons, ih]

theorem Turn.count_trigger_calls (t : Turn) (epoch : Nat) (k : Caller) :
    t.calls.count (.trigger epoch k) = (t.actions.filterMap Action.trigger?).count (epoch, k) := by
  unfold calls
  induction t.actions with
  | nil => rfl
  | cons a as ih =>
    cases a <;> simp [List.filterMap_cons, Action.call?, Action.request?, Action.trigger?,
      Request.isCall, Option.filter, List.count_cons, ih]

theorem Turn.list_mem_calls {t : Turn} {epoch seq : Nat} :
    .list epoch seq ∈ t.calls ↔ (epoch, seq) ∈ t.actions.filterMap Action.list? := by
  rw [← List.count_pos_iff, count_list_calls, List.count_pos_iff]

theorem Turn.trigger_mem_calls {t : Turn} {epoch : Nat} {k : Caller} :
    .trigger epoch k ∈ t.calls ↔ (epoch, k) ∈ t.actions.filterMap Action.trigger? := by
  rw [← List.count_pos_iff, count_trigger_calls, List.count_pos_iff]

theorem Controller.trigger_mem_calls_step {now : Nat} {c : Controller} {i : Input} {epoch : Nat}
    {k : Caller} : .trigger epoch k ∈ (c.step now i).calls ↔
      epoch = c.epoch ∧ i = .command k .start ∧ c.session.submitting = false := by
  rw [Turn.trigger_mem_calls, step_starts]
  constructor
  · intro h
    obtain ⟨rfl, rfl⟩ := mem_starts h
    cases hs : c.session.submitting with
    | false => exact ⟨rfl, rfl, rfl⟩
    | true => simp [starts, hs] at h
  · rintro ⟨rfl, rfl, hs⟩
    simp [starts, hs]

theorem Turn.wake_not_mem_calls (t : Turn) (due : Nat) : .wake due ∉ t.calls := by
  intro h
  obtain ⟨a, -, ha⟩ := List.mem_filterMap.1 h
  exact nomatch (Option.filter_eq_some_iff.1 ha).2

theorem Controller.count_calls_le (now : Nat) (c : Controller) (i : Input) (q : Request) :
    (c.step now i).calls.count q ≤ 1 := by
  cases q with
  | list epoch seq =>
    rw [Turn.count_list_calls]
    cases c.step_calls now i with
    | none _ ha => simp [ha]
    | one _ ha =>
      rw [ha]
      exact List.count_le_length
  | trigger epoch k =>
    rw [Turn.count_trigger_calls, step_starts]
    unfold starts
    split
    · split
      · exact Nat.zero_le 1
      · exact List.count_le_length
    · exact Nat.zero_le 1
  | wake due =>
    rw [List.count_eq_zero.2 (Turn.wake_not_mem_calls _ due)]
    exact Nat.zero_le 1

def Action.reply? : Action → Option (Caller × Reply)
  | .reply k r => some (k, r)
  | _ => none

theorem mem_replies {as : List Action} {k : Caller} {r : Reply} (h : .reply k r ∈ as) :
    k ∈ (as.filterMap Action.reply?).map Prod.fst :=
  List.mem_map.2 ⟨(k, r), List.mem_filterMap.2 ⟨_, h, rfl⟩, rfl⟩

theorem count_owed (as : List Action) (k : Caller) :
    (as.filterMap Action.owed?).count k = ((as.filterMap Action.reply?).map Prod.fst).count k +
      ((as.filterMap Action.call?).filterMap Request.starter?).count k := by
  induction as with
  | nil => rfl
  | cons a as ih =>
    cases a <;>
      simp only [List.filterMap_cons, List.map_cons, Action.owed?, Action.reply?, Action.call?,
        Action.request?, Option.filter, Request.isCall, Request.starter?, List.count_cons, if_true,
        Bool.false_eq_true, if_false] <;> omega

theorem count_starter_filter {l : List Request} {q : Request} (hq : q ∈ l) (k : Caller) :
    ((l.filter (some q ≠ some ·)).filterMap Request.starter?).count k +
        ([q].filterMap Request.starter?).count k ≤ (l.filterMap Request.starter?).count k := by
  induction l with
  | nil => nomatch hq
  | cons p l ih =>
    have hc (p : Request) : ((p :: l).filterMap Request.starter?).count k =
        ([p].filterMap Request.starter?).count k + (l.filterMap Request.starter?).count k := by
      rw [← List.count_append, ← List.filterMap_append, List.singleton_append]
    by_cases hp : p = q
    · subst hp
      have hs : ((l.filter (some p ≠ some ·)).filterMap Request.starter?).count k ≤
          (l.filterMap Request.starter?).count k :=
        (List.filter_sublist.filterMap Request.starter?).count_le k
      rw [List.filter_cons_of_neg (by simp), hc]
      omega
    · have := ih ((List.mem_cons.1 hq).resolve_left (Ne.symm hp))
      rw [List.filter_cons_of_pos (by simpa using Ne.symm hp), hc,
        ← List.singleton_append, List.filterMap_append, List.count_append]
      omega

namespace History

variable (timing : Timing)

def now : History → Nat
  | [] => 0
  | (t, _) :: _ => t

def commanders (past : History) : List Caller := past.flatMap fun e => e.2.commander

/-- The calls that were made and whose end has not been handled. -/
def pending : History → List Request
  | [] => []
  | (now, i) :: past => (pending past).filter (i.call? ≠ some ·) ++
      ((controller timing past).step now i).calls

/-- What may be handled next: a command of a caller who issued none before, the end of a call that
is pending, or a timer. -/
def Admits (past : History) : Input → Prop
  | .command k _ => k ∉ past.commanders
  | .listed epoch seq _ => .list epoch seq ∈ past.pending timing
  | .triggered epoch k _ => .trigger epoch k ∈ past.pending timing
  | .pollDue | .startingDue => True

instance (past : History) (i : Input) : Decidable (Admits timing past i) := by
  cases i <;> unfold Admits <;> infer_instance

/-- Whatever was handled could be handled at the time, and instants never run backwards. -/
def Orderly : History → Prop
  | [] => True
  | (t, i) :: past => Orderly past ∧ now past ≤ t ∧ Admits timing past i

instance decidableOrderly : (past : History) → Decidable (Orderly timing past)
  | [] => .isTrue trivial
  | (t, i) :: past =>
    have := decidableOrderly past
    inferInstanceAs (Decidable (_ ∧ now past ≤ t ∧ Admits timing past i))

theorem Orderly.of_append {since past : History} (h : Orderly timing (since ++ past)) :
    Orderly timing past := by
  induction since with
  | nil => exact h
  | cons e since ih => exact ih h.1

variable {timing}

theorem mem_pending_cons {past : History} {now : Nat} {i : Input} {q : Request} :
    q ∈ pending timing ((now, i) :: past) ↔
      q ∈ pending timing past ∧ i.call? ≠ some q ∨
        q ∈ ((controller timing past).step now i).calls := by
  simp [pending]

theorem mem_requests_of_mem_pending {past : History} {q : Request}
    (h : q ∈ pending timing past) : q ∈ requests timing past := by
  induction past with
  | nil => nomatch h
  | cons e past ih =>
    obtain ⟨now, i⟩ := e
    rw [requests, actions, List.filterMap_append, List.mem_append]
    rcases mem_pending_cons.1 h with ⟨h, -⟩ | h
    · exact .inl (ih h)
    · obtain ⟨a, ha, hq⟩ := List.mem_filterMap.1 h
      exact .inr (List.mem_filterMap.2 ⟨a, ha, Option.eq_some_of_filter_eq_some hq⟩)

theorem list_mem_actions_of_requests {past : History} {epoch seq : Nat}
    (h : .list epoch seq ∈ requests timing past) : .list epoch seq ∈ actions timing past := by
  obtain ⟨a, ha, hr⟩ := List.mem_filterMap.1 h
  cases a with
  | list epoch' seq' =>
    obtain ⟨rfl, rfl⟩ := Request.list.inj (Option.some.inj hr)
    exact ha
  | _ => nomatch hr

theorem list_mem_actions_of_pending {past : History} {epoch seq : Nat}
    (h : .list epoch seq ∈ pending timing past) : .list epoch seq ∈ actions timing past :=
  list_mem_actions_of_requests (mem_requests_of_mem_pending h)

theorem admits_iff_mem_pending {past : History} {i : Input} {q : Request} (hq : i.call? = some q) :
    Admits timing past i ↔ q ∈ pending timing past := by
  cases i with
  | listed epoch seq r =>
    obtain rfl := Option.some.inj hq
    exact Iff.rfl
  | triggered epoch k r =>
    obtain rfl := Option.some.inj hq
    exact Iff.rfl
  | _ => nomatch hq

theorem Orderly.count_commanders_le {past : History} (h : Orderly timing past) (k : Caller) :
    past.commanders.count k ≤ 1 := by
  induction past with
  | nil => exact Nat.zero_le 1
  | cons e past ih =>
    obtain ⟨t, i⟩ := e
    obtain ⟨hp, -, hi⟩ := h
    have ih := ih hp
    cases i with
    | command j cmd =>
      have hj : j ∉ commanders past := hi
      have hc : commanders ((t, .command j cmd) :: past) = j :: commanders past := rfl
      rw [hc, List.count_cons]
      by_cases hk : j = k
      · rw [← hk, List.count_eq_zero.2 hj]
        simp
      · simpa [hk] using ih
    | _ => exact ih

variable (timing)

/-- Those whose start has a pending call, and those who wait for a fetch. -/
def waitedFor (past : History) : List Caller :=
  (past.pending timing).filterMap Request.starter? ++ (past.controller timing).fetches.callers

variable {timing}

theorem count_waitedFor_cons {past : History} {i : Input} (hi : past.Admits timing i) (now : Nat)
    (k : Caller) :
    (waitedFor timing ((now, i) :: past)).count k +
        ((((past.controller timing).step now i).actions.filterMap Action.reply?).map
          Prod.fst).count k ≤
      i.commander.count k + (waitedFor timing past).count k := by
  have ho := (past.controller timing).step_owed now i k
  have hc := count_owed ((past.controller timing).step now i).actions k
  have hf : (((pending timing past).filter (i.call? ≠ some ·)).filterMap Request.starter?).count k +
      i.starter.count k ≤ ((pending timing past).filterMap Request.starter?).count k := by
    cases hq : i.call? with
    | none =>
      have hs : i.starter = [] := by
        cases i with
        | triggered epoch j r => nomatch hq
        | _ => rfl
      rw [hs, List.count_nil, Nat.add_zero]
      exact (List.filter_sublist.filterMap _).count_le k
    | some q =>
      rw [System.count_starter_of_ends (Input.call?_eq_some_iff.1 hq) k]
      exact count_starter_filter ((admits_iff_mem_pending hq).1 hi) k
  simp only [waitedFor, pending, controller, Turn.calls, List.filterMap_append,
    List.count_append] at hc ⊢
  omega

variable (timing) in
def replied (past : History) : List Caller :=
  ((past.actions timing).filterMap Action.reply?).map Prod.fst

theorem replied_cons (past : History) (now : Nat) (i : Input) :
    replied timing ((now, i) :: past) = replied timing past ++
      (((controller timing past).step now i).actions.filterMap Action.reply?).map Prod.fst := by
  simp [replied, actions]

/-- Nobody waits or is replied to who issued no command, and nobody twice. -/
theorem Orderly.count_replied_le {past : History} (h : Orderly timing past) (k : Caller) :
    (waitedFor timing past).count k + (replied timing past).count k ≤ past.commanders.count k := by
  induction past with
  | nil => exact Nat.le_refl 0
  | cons e past ih =>
    obtain ⟨now, i⟩ := e
    have hc := count_waitedFor_cons h.2.2 now k
    have hp := ih h.1
    simp only [commanders, replied_cons, List.flatMap_cons, List.count_append] at hp ⊢
    omega

theorem Orderly.count_waitedFor_le {past : History} (h : Orderly timing past) (k : Caller) :
    (waitedFor timing past).count k ≤ past.commanders.count k :=
  Nat.le_trans (Nat.le_add_right _ _) (h.count_replied_le k)

theorem mem_commanders_of_trigger {past : History} {epoch : Nat} {k : Caller}
    (h : .trigger epoch k ∈ requests timing past) : k ∈ past.commanders := by
  induction past with
  | nil => nomatch h
  | cons e past ih =>
    obtain ⟨t, i⟩ := e
    rw [requests, actions, List.filterMap_append, List.mem_append] at h
    rcases h with h | h
    · exact List.mem_append_right _ (ih h)
    · obtain ⟨a, ha, hq⟩ := List.mem_filterMap.1 h
      have hc : .trigger epoch k ∈ ((controller timing past).step t i).calls :=
        List.mem_filterMap.2 ⟨a, ha, by rw [Action.call?, hq]; rfl⟩
      obtain ⟨-, rfl, -⟩ := Controller.trigger_mem_calls_step.1 hc
      exact List.mem_cons_self

theorem not_mem_requests_of_calls {past : History} {t : Nat} {i : Input}
    (hi : Admits timing past i) {q : Request} (hq : q ∈ ((controller timing past).step t i).calls) :
    q ∉ requests timing past := by
  intro hp
  cases q with
  | list epoch seq =>
    have hle := seq_le_listCalls timing (list_mem_actions_of_requests hp)
    rw [Turn.list_mem_calls] at hq
    cases (controller timing past).step_calls t i with
    | none _ ha => simp [ha] at hq
    | one _ ha =>
      rw [ha, issued_controller] at hq
      obtain ⟨-, rfl⟩ := Prod.mk.inj (List.mem_singleton.1 hq)
      exact Nat.not_succ_le_self _ hle
  | trigger epoch k =>
    obtain ⟨-, rfl, -⟩ := Controller.trigger_mem_calls_step.1 hq
    exact hi (mem_commanders_of_trigger hp)
  | wake due => exact Turn.wake_not_mem_calls _ due hq

theorem not_pending_of_calls {past : History} {t : Nat} {i : Input}
    (hi : Admits timing past i) {q : Request} (hq : q ∈ ((controller timing past).step t i).calls) :
    q ∉ pending timing past := fun hp =>
  not_mem_requests_of_calls hi hq (mem_requests_of_mem_pending hp)

theorem count_pending_cons (past : History) (t : Nat) (i : Input) (q : Request) :
    (pending timing ((t, i) :: past)).count q =
      (if i.call? = some q then 0 else (pending timing past).count q) +
        ((controller timing past).step t i).calls.count q := by
  rw [pending, List.count_append]
  congr 1
  split
  · next hc => exact List.count_eq_zero.2 (by simp [hc])
  · next hc => exact List.count_filter (by simpa using hc)

theorem Orderly.count_pending_le {past : History} (h : Orderly timing past) (q : Request) :
    (pending timing past).count q ≤ 1 := by
  induction past with
  | nil => exact Nat.zero_le 1
  | cons e past ih =>
    obtain ⟨t, i⟩ := e
    have hle := (controller timing past).count_calls_le t i q
    have hp := ih h.1
    rw [count_pending_cons]
    by_cases hq : q ∈ ((controller timing past).step t i).calls
    · have := List.count_eq_zero.2 (not_pending_of_calls h.2.2 hq)
      split <;> omega
    · have := List.count_eq_zero.2 hq
      split <;> omega

theorem Orderly.admits_of_count {past : History} (h : Orderly timing past) {i : Input}
    {q : Request} (hi : i.call? = some q) {before after : List Request}
    (hb : ∀ p, before.count p = (pending timing past).count p)
    (ha : ∀ p, before.count p = after.count p + [q].count p) :
    Admits timing past i ∧
      ∀ p, after.count p = if i.call? = some p then 0 else (pending timing past).count p := by
  have hone := ha q
  have hle := h.count_pending_le q
  rw [List.count_singleton_self, hb] at hone
  refine ⟨(admits_iff_mem_pending hi).2 (List.count_pos_iff.1 (by omega)), fun p => ?_⟩
  rw [hi]
  split
  · next hp =>
    obtain rfl := Option.some.inj hp
    omega
  · next hp =>
    have hne := ha p
    rw [hb, List.count_singleton] at hne
    simpa [show q ≠ p from fun e => hp (congrArg some e)] using hne.symm

variable {past : History} {t : Nat} {i : Input} {k : Caller} {r : Reply}

theorem mem_replied_of_reply (h : .reply k r ∈ ((controller timing past).step t i).actions) :
    k ∈ replied timing ((t, i) :: past) := by
  rw [replied_cons]
  exact List.mem_append_right _ (mem_replies h)

theorem mem_replied_append (since : History) (h : k ∈ replied timing past) :
    k ∈ replied timing (since ++ past) := by
  induction since with
  | nil => exact h
  | cons e since ih =>
    obtain ⟨t, i⟩ := e
    rw [List.cons_append, replied_cons]
    exact List.mem_append_left _ ih

theorem Orderly.not_mem_replied (h : Orderly timing ((t, i) :: past))
    (hr : .reply k r ∈ ((controller timing past).step t i).actions) :
    k ∉ replied timing past := by
  intro hk
  have hle := h.count_replied_le k
  have hone := h.count_commanders_le k
  have hnew := List.count_pos_iff.2 (mem_replies hr)
  have hold := List.count_pos_iff.2 hk
  rw [replied_cons, List.count_append] at hle
  omega

theorem Orderly.not_mem_callers (h : Orderly timing past) {epoch : Nat}
    (hp : .trigger epoch k ∈ pending timing past) :
    k ∉ (controller timing past).fetches.callers := by
  intro hk
  have hle := h.count_waitedFor_le k
  have hone := h.count_commanders_le k
  have hcall : 0 < ((pending timing past).filterMap Request.starter?).count k :=
    List.count_pos_iff.2 (List.mem_filterMap.2 ⟨_, hp, rfl⟩)
  have hwait := List.count_pos_iff.2 hk
  rw [waitedFor, List.count_append] at hle
  omega

theorem Orderly.ended (h : Orderly timing past) {q : Request} (hq : i.call? = some q)
    (hm : (t, i) ∈ past) : q ∈ requests timing past ∧ q ∉ pending timing past := by
  induction past with
  | nil => nomatch hm
  | cons e past ih =>
    obtain ⟨t', i'⟩ := e
    have made : q ∈ requests timing past → q ∈ requests timing ((t', i') :: past) := fun hq => by
      rw [requests, actions, List.filterMap_append]
      exact List.mem_append_left _ hq
    rcases List.mem_cons.1 hm with he | hm
    · obtain ⟨rfl, rfl⟩ := Prod.mk.inj he
      have hp := (admits_iff_mem_pending hq).1 h.2.2
      refine ⟨made (mem_requests_of_mem_pending hp), fun hp' => ?_⟩
      rcases mem_pending_cons.1 hp' with ⟨-, hne⟩ | hc
      · exact hne hq
      · exact not_pending_of_calls h.2.2 hc hp
    · obtain ⟨hr, hn⟩ := ih h.1 hm
      refine ⟨made hr, fun hp' => ?_⟩
      rcases mem_pending_cons.1 hp' with ⟨hp, -⟩ | hc
      · exact hn hp
      · exact not_mem_requests_of_calls h.2.2 hc hr

/-- A call that was pending still is, unless its end has been handled since. -/
theorem pending_or_ended {q : Request} (since : History) (hq : q ∈ pending timing past) :
    q ∈ pending timing (since ++ past) ∨
      ∃ later t i earlier, i.call? = some q ∧ since = later ++ (t, i) :: earlier := by
  induction since with
  | nil => exact .inl hq
  | cons e since ih =>
    obtain ⟨t, i⟩ := e
    rcases ih with hp | ⟨later, t', i', earlier, hi, rfl⟩
    · by_cases hi : i.call? = some q
      · exact .inr ⟨[], t, i, since, hi, rfl⟩
      · exact .inl (mem_pending_cons.2 (.inl ⟨hp, hi⟩))
    · exact .inr ⟨(t, i) :: later, t', i', earlier, hi, rfl⟩

end History

end RunWatch
