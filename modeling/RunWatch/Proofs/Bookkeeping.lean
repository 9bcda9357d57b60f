import RunWatch.Proofs.Fetching
import RunWatch.Proofs.Orderly
/-!
The books of the list calls. Of each epoch one list call at most is pending, the one that was made
last, and the controller knows whether there is one. Whoever asks for a fetch meanwhile is noted
down, and all of them share the call that is made when the pending one has ended.
-/
set_option autoImplicit false

namespace RunWatch

theorem Input.isReset_iff {i : Input} : i.isReset = true ↔ ∃ k, i = .command k .reset := by
  constructor
  · intro h
    cases i with
    | command k cmd =>
      cases cmd with
      | reset => exact ⟨k, rfl⟩
      | _ => nomatch h
    | _ => nomatch h
  · rintro ⟨k, rfl⟩
    rfl

namespace Controller

/-- Whoever waits for a fetch from this input on: a caller who wants to know the latest run, or a
start that has met another run. -/
def asks? (c : Controller) : Input → Option Waiter
  | .command k .bootstrap | .command k .sync => some (.fetch k)
  | .triggered epoch k (.error (.conflict runId _ requestId)) =>
    if epoch = c.epoch then some (.conflict k runId requestId) else none
  | _ => none

theorem asks?_eq_some {c : Controller} {i : Input} {w : Waiter} (h : c.asks? i = some w) :
    (∀ seq, i.call? ≠ some (.list c.epoch seq)) ∧ i.isReset = false := by
  cases i with
  | command k cmd => cases cmd <;> first | exact ⟨fun _ hc => (nomatch hc), rfl⟩ | nomatch h
  | triggered epoch k r => exact ⟨fun _ hc => (nomatch hc), rfl⟩
  | _ => nomatch h

inductive Books (c : Controller) : Input → Fetches → Prop where
  | idle {i : Input} (ha : c.asks? i = none) (hl : ∀ seq, i.call? ≠ some (.list c.epoch seq))
      (hr : i.isReset = false) : c.Books i c.fetches
  | asked {i : Input} {w : Waiter} (ha : c.asks? i = some w) : c.Books i (c.fetches.enroll w)
  | polled (hf : c.fetches.inFlight = false) :
      c.Books .pollDue { c.fetches with inFlight := true, issued := c.fetches.issued + 1 }
  | ended (seq : Nat) (r : Except Failure Listing) :
      c.Books (.listed c.epoch seq r) c.fetches.advance
  | reset (k : Caller) : c.Books (.command k .reset) { issued := c.fetches.issued }

variable (now : Nat) (c : Controller)

theorem step_books (i : Input) : c.Books i (c.step now i).state.fetches := by
  induction i using input_cases now c with
  | fetch k cmd hc =>
    rw [step_fetch now c k hc]
    exact .asked (by rcases hc with rfl | rfl <;> rfl)
  | startRefused k hs =>
    rw [step_start_refused now c k hs]
    exact .idle rfl (fun _ h => nomatch h) rfl
  | start k hs =>
    rw [step_start now c k hs]
    exact .idle rfl (fun _ h => nomatch h) rfl
  | reset k =>
    rw [step_reset]
    exact .reset k
  | listedStale epoch seq r he =>
    rw [step_listed_stale now c seq r he]
    exact .idle rfl (fun _ h => he (Request.list.inj (Option.some.inj h)).1) rfl
  | listed seq r =>
    rw [step_listed]
    exact .ended seq r
  | triggeredStale epoch k r he =>
    rw [step_triggered_stale now c k r he]
    refine .idle ?_ (fun _ h => nomatch h) rfl
    unfold asks?
    split <;> simp_all
  | started k r =>
    rw [step_started]
    exact .idle rfl (fun _ h => nomatch h) rfl
  | conflict k runId message requestId =>
    rw [step_conflict]
    exact .asked (if_pos rfl)
  | refused k f hf =>
    rw [step_refused now c k hf]
    refine .idle ?_ (fun _ h => nomatch h) rfl
    cases f with
    | conflict runId message requestId => exact absurd rfl (hf runId message requestId)
    | _ => rfl
  | pollEarly hd =>
    rw [step_pollDue_early now c hd]
    exact .idle rfl (fun _ h => nomatch h) rfl
  | poll hd =>
    rw [step_pollDue now c hd]
    cases hf : c.fetches.inFlight with
    | true => exact .idle rfl (fun _ h => nomatch h) rfl
    | false => exact .polled hf
  | startingEarly hd =>
    rw [step_startingDue_early now c hd]
    exact .idle rfl (fun _ h => nomatch h) rfl
  | starting hd =>
    rw [step_startingDue now c hd]
    exact .idle rfl (fun _ h => nomatch h) rfl

theorem list_mem_calls_step {i : Input} {epoch seq : Nat} :
    .list epoch seq ∈ (c.step now i).calls ↔ epoch = c.epoch ∧ seq = c.fetches.issued + 1 ∧
      (c.step now i).state.fetches.issued = c.fetches.issued + 1 := by
  rw [Turn.list_mem_calls]
  cases c.step_calls now i with
  | none h ha => simp [h, ha]
  | one h ha => simp [h, ha]

theorem epoch_step_of_call {i : Input} {epoch seq : Nat}
    (h : .list epoch seq ∈ (c.step now i).calls) : (c.step now i).state.epoch = epoch := by
  obtain ⟨rfl, -, hi⟩ := (list_mem_calls_step now c).1 h
  cases hr : i.isReset with
  | false => rw [step_epoch, hr, if_neg Bool.false_ne_true]
  | true =>
    obtain ⟨k, rfl⟩ := Input.isReset_iff.1 hr
    rw [step_reset] at hi
    exact absurd hi (Nat.ne_of_lt (Nat.lt_succ_self _))

theorem epoch_step_of_mem_calls {i : Input} {q : Request} {epoch : Nat}
    (h : q ∈ (c.step now i).calls) (he : q.epoch? = some epoch) :
    (c.step now i).state.epoch = epoch := by
  cases q with
  | list epoch' seq =>
    obtain rfl := Option.some.inj he
    exact epoch_step_of_call now c h
  | trigger epoch' k =>
    obtain rfl := Option.some.inj he
    obtain ⟨rfl, rfl, -⟩ := trigger_mem_calls_step.1 h
    exact c.step_epoch now _
  | wake due => nomatch he

theorem list?_listed (seq : Nat) (r : Except Failure Listing) :
    (c.step now (.listed c.epoch seq r)).actions.filterMap Action.list? =
      if c.fetches.followUp = [] then [] else [(c.epoch, c.fetches.issued + 1)] := by
  have hs := congrArg (·.state.fetches.issued) (c.step_listed now seq r)
  cases c.step_calls now (.listed c.epoch seq r) with
  | none h ha =>
    rw [ha]
    cases hu : c.fetches.followUp with
    | nil => rfl
    | cons w ws => simp [Fetches.advance, hu, h] at hs
  | one h ha =>
    rw [ha]
    cases hu : c.fetches.followUp with
    | nil => simp [Fetches.advance, hu, h] at hs
    | cons w ws => rfl

theorem replies_listed (seq : Nat) (r : Except Failure Listing) :
    (c.step now (.listed c.epoch seq r)).actions.filterMap Action.reply? =
      c.fetches.current.map fun w => (w.caller,
        Turn.waiterReply (c.step now (.listed c.epoch seq r)).state.session w) := by
  rw [step_listed]
  simp only [List.filterMap_append, List.filterMap_cons, List.filterMap_map,
    filterMap_followActions (f := Action.reply?) (fun _ => rfl) (fun _ => rfl),
    filterMap_advanceCalls (f := Action.reply?) (fun _ _ => rfl)]
  simp [Function.comp_def, Action.reply?]

end Controller

namespace History

variable {timing : Timing}

theorem tidy (past : History) : (controller timing past).fetches.Tidy := by
  induction past with
  | nil => exact fun _ => rfl
  | cons e past ih => exact Controller.step_tidy ih

/-- A list call of the epoch is pending exactly if one is in flight, and then it is the newest. -/
theorem Orderly.list_mem_pending_iff {past : History} (h : Orderly timing past) (seq : Nat) :
    .list (controller timing past).epoch seq ∈ pending timing past ↔
      (controller timing past).fetches.inFlight = true ∧
        seq = (controller timing past).fetches.issued := by
  induction past generalizing seq with
  | nil => simp [pending, controller]
  | cons e past ih =>
    obtain ⟨now, i⟩ := e
    obtain ⟨hp, -, hi⟩ := h
    have ih := ih hp
    have he := (controller timing past).step_epoch now i
    have hb := (controller timing past).step_books now i
    rw [mem_pending_cons, Controller.list_mem_calls_step]
    simp only [controller]
    generalize ((controller timing past).step now i).state.epoch = epoch at he ⊢
    generalize ((controller timing past).step now i).state.fetches = f at hb ⊢
    generalize hc : controller timing past = c at ih he hb ⊢
    cases hb with
    | idle ha hl hr =>
      obtain rfl : epoch = c.epoch := by simpa [hr] using he
      simp [ih, hl]
    | @asked _ w ha =>
      obtain ⟨hl, hr⟩ := Controller.asks?_eq_some ha
      obtain rfl : epoch = c.epoch := by simpa [hr] using he
      cases hf : c.fetches.inFlight <;>
        simp [ih, hl, Fetches.enroll, hf]
    | polled hf =>
      obtain rfl : epoch = c.epoch := he
      simp [ih, hf]
    | ended seq' r =>
      obtain rfl : epoch = c.epoch := he
      subst hc
      obtain ⟨-, rfl⟩ := (ih seq').1 hi
      have ho : ¬ (.list (controller timing past).epoch seq ∈ pending timing past ∧
          (Input.listed (controller timing past).epoch (controller timing past).fetches.issued
            r).call? ≠ some (.list (controller timing past).epoch seq)) := by
        rintro ⟨hm, hne⟩
        obtain ⟨-, rfl⟩ := (ih seq).1 hm
        exact hne rfl
      cases hu : (controller timing past).fetches.followUp <;>
        simp [ho, Fetches.advance, hu]
    | reset k =>
      obtain rfl : epoch = c.epoch + 1 := he
      have hn : .list (c.epoch + 1) seq ∉ pending timing past := by
        intro hm
        have hle := epoch_le_of_mem timing (mem_requests_of_mem_pending hm) rfl
        rw [hc] at hle
        omega
      simp [hn]

theorem pending_of_epoch_ne {past : History} {t : Nat} {i : Input} {q : Request} {epoch : Nat}
    (hq : q ∈ pending timing ((t, i) :: past)) (he : q.epoch? = some epoch)
    (hne : epoch ≠ (controller timing ((t, i) :: past)).epoch) : q ∈ pending timing past := by
  rcases mem_pending_cons.1 hq with ⟨hq, -⟩ | hq
  · exact hq
  · exact absurd (Controller.epoch_step_of_mem_calls t _ hq he).symm hne

/-- Two list calls of one epoch are never pending together, even if a reset has come meanwhile. -/
theorem Orderly.list_pending_unique {past : History} (h : Orderly timing past)
    {epoch seq seq' : Nat} (hs : .list epoch seq ∈ pending timing past)
    (hs' : .list epoch seq' ∈ pending timing past) : seq = seq' := by
  induction past with
  | nil => nomatch hs
  | cons e past ih =>
    obtain ⟨now, i⟩ := e
    by_cases he : epoch = (controller timing ((now, i) :: past)).epoch
    · subst he
      rw [((h.list_mem_pending_iff _).1 hs).2, ((h.list_mem_pending_iff _).1 hs').2]
    · exact ih h.1 (pending_of_epoch_ne hs rfl he) (pending_of_epoch_ne hs' rfl he)

theorem numbered (past : History) :
    ((past.actions timing).filterMap Action.list?).map Prod.snd =
      List.range' 1 (past.listCalls timing) := by
  induction past with
  | nil => rfl
  | cons e past ih =>
    obtain ⟨now, i⟩ := e
    have hi := issued_controller timing past
    simp only [actions, listCalls, List.filterMap_append, List.map_append, List.length_append] at *
    cases (controller timing past).step_calls now i with
    | none _ ha => simp [ha, ih]
    | one _ ha =>
      rw [ih, ha, hi, List.length_singleton, List.range'_concat, Nat.one_mul, Nat.add_comm 1]
      rfl

theorem listCalls_le_append (since past : History) :
    past.listCalls timing ≤ (since ++ past).listCalls timing := by
  induction since with
  | nil => exact Nat.le_refl _
  | cons e since ih =>
    refine Nat.le_trans ih ?_
    simp [listCalls, actions]

def NoReset (since : History) : Prop := ∀ e ∈ since, e.2.isReset = false

instance (since : History) : Decidable (NoReset since) :=
  inferInstanceAs (Decidable (∀ e ∈ since, e.2.isReset = false))

theorem noReset_nil : NoReset [] := List.forall_mem_nil _

theorem NoReset.cons {since : History} (h : NoReset since) {i : Input} (hi : i.isReset = false)
    (t : Nat) : NoReset ((t, i) :: since) := List.forall_mem_cons.2 ⟨hi, h⟩

theorem noReset_iff_epoch_eq {since past : History} : NoReset since ↔
    (controller timing (since ++ past)).epoch = (controller timing past).epoch := by
  induction since with
  | nil => exact ⟨fun _ => rfl, fun _ => noReset_nil⟩
  | cons e since ih =>
    obtain ⟨t, i⟩ := e
    have hle := epoch_le_append timing since past
    rw [List.cons_append, controller, Controller.step_epoch]
    cases hr : i.isReset with
    | true =>
      constructor
      · exact fun h => absurd hr (by simp [h (t, i) List.mem_cons_self])
      · intro he
        rw [if_pos rfl] at he
        omega
    | false =>
      rw [if_neg Bool.false_ne_true, ← ih]
      exact ⟨fun h e he => h e (List.mem_cons_of_mem _ he), fun h => h.cons hr t⟩

theorem NoReset.epoch_eq {since : History} (h : NoReset since) (past : History) :
    (controller timing (since ++ past)).epoch = (controller timing past).epoch :=
  noReset_iff_epoch_eq.1 h

variable (timing) in
/-- Those who ask for a fetch during a stretch that follows a history, the first one first. -/
def askers (past : History) : History → List Waiter
  | [] => []
  | (_, i) :: since =>
    askers past since ++ ((controller timing (since ++ past)).asks? i).toList

/-- While a list call is pending no other is made, and whoever asks is noted down. -/
theorem fetches_while_pending {since past : History} (h : Orderly timing (since ++ past))
    (hn : NoReset since) {seq : Nat}
    (hp : .list (controller timing past).epoch seq ∈ pending timing past)
    (hs : .list (controller timing past).epoch seq ∈ pending timing (since ++ past)) :
    (controller timing (since ++ past)).fetches =
      { (controller timing past).fetches with
        followUp := (controller timing past).fetches.followUp ++ askers timing past since } := by
  induction since with
  | nil => simp [askers]
  | cons e since ih =>
    obtain ⟨now, i⟩ := e
    rw [List.cons_append] at h hs ⊢
    obtain ⟨ho, -, hi⟩ := h
    have hn' : NoReset since := fun e he => hn e (List.mem_cons_of_mem _ he)
    have he : (controller timing (since ++ past)).epoch = _ := hn'.epoch_eq past
    have hseq := ((ho.of_append.list_mem_pending_iff seq).1 hp).2
    obtain ⟨hm, hne⟩ : .list (controller timing past).epoch seq ∈ pending timing (since ++ past) ∧
        i.call? ≠ some (.list (controller timing past).epoch seq) := by
      refine (mem_pending_cons.1 hs).resolve_right fun hc => ?_
      have hnew := ((Controller.list_mem_calls_step now _).1 hc).2.1
      have hle : listCalls timing past ≤ listCalls timing (since ++ past) :=
        listCalls_le_append since past
      rw [issued_controller] at hseq hnew
      omega
    have ih := ih ho hn' hm
    rw [← he] at hm hne
    have hf := ((ho.list_mem_pending_iff seq).1 hm)
    have hb := (controller timing (since ++ past)).step_books now i
    simp only [controller]
    generalize ((controller timing (since ++ past)).step now i).state.fetches = f at hb ⊢
    cases hb with
    | idle ha => simp [ih, askers, ha]
    | asked ha =>
      rw [Fetches.enroll, if_pos hf.1, ih]
      simp [askers, ha]
    | polled hf' => simp [hf.1] at hf'
    | ended seq' r =>
      have hseq' := ((ho.list_mem_pending_iff seq').1 hi).2
      rw [← hf.2] at hseq'
      exact absurd (by rw [hseq']; rfl) hne
    | reset k => simpa [Input.isReset] using hn _ List.mem_cons_self

theorem followUp_eq_nil_of_call {past : History} {now : Nat} {i : Input} {epoch seq : Nat}
    (hc : .list epoch seq ∈ ((controller timing past).step now i).calls) :
    (controller timing ((now, i) :: past)).fetches.followUp = [] := by
  have hi := ((Controller.list_mem_calls_step now _).1 hc).2.2
  have ht : (controller timing past).fetches.inFlight = false →
      (controller timing past).fetches.followUp = [] := fun hf => by
    have := tidy past hf
    simp_all [Fetches.callers]
  have hb := (controller timing past).step_books now i
  simp only [controller]
  generalize ((controller timing past).step now i).state.fetches = f at hb hi ⊢
  cases hb with
  | idle => omega
  | asked =>
    cases hf : (controller timing past).fetches.inFlight with
    | true => simp [Fetches.enroll, hf] at hi
    | false => simpa [Fetches.enroll, hf] using ht hf
  | polled hf => exact ht hf
  | ended =>
    unfold Fetches.advance at hi ⊢
    split at hi
    · simp at hi
    · next hu => simp [hu]
  | reset => rfl

variable (timing)

structure OneAtATime (past : History) : Prop where
  inFlight_iff : (controller timing past).fetches.inFlight = true ↔
    ∃ seq, .list (controller timing past).epoch seq ∈ pending timing past ∧
      ∀ seq', .list (controller timing past).epoch seq' ∈ pending timing past → seq' = seq
  newest {seq : Nat} (h : .list (controller timing past).epoch seq ∈ pending timing past)
    {epoch seq' : Nat} (h' : .list epoch seq' ∈ past.actions timing) : seq' ≤ seq
  nobody (h : (controller timing past).fetches.inFlight = false) :
    (controller timing past).fetches.current = [] ∧
      (controller timing past).fetches.followUp = []
  increasing : ((past.actions timing).filterMap Action.list?).Pairwise (·.2 < ·.2)
  alone {epoch seq seq' : Nat} (h : .list epoch seq ∈ pending timing past)
    (h' : .list epoch seq' ∈ pending timing past) : seq = seq'
  poll {seq : Nat} (h : .list (controller timing past).epoch seq ∈ pending timing past)
    (now : Nat) : ((controller timing past).step now .pollDue).calls = []

theorem Orderly.oneAtATime {past : History} (h : Orderly timing past) :
    OneAtATime timing past where
  inFlight_iff := by
    constructor
    · intro hf
      exact ⟨_, (h.list_mem_pending_iff _).2 ⟨hf, rfl⟩, fun seq hs =>
        ((h.list_mem_pending_iff seq).1 hs).2⟩
    · rintro ⟨seq, hs, -⟩
      exact ((h.list_mem_pending_iff seq).1 hs).1
  newest hs epoch seq' hs' := by
    rw [((h.list_mem_pending_iff _).1 hs).2, issued_controller]
    exact seq_le_listCalls timing hs'
  nobody hf := by
    simpa [Fetches.callers] using tidy past hf
  increasing := by
    have hl := List.pairwise_lt_range' (s := 1) (n := past.listCalls timing)
    rw [← numbered, List.pairwise_map] at hl
    exact hl
  alone hs hs' := h.list_pending_unique hs hs'
  poll hs now := by
    have hf := ((h.list_mem_pending_iff _).1 hs).1
    cases hd : (controller timing past).poll.isDue now with
    | false =>
      rw [Controller.step_pollDue_early now _ hd]
      rfl
    | true =>
      rw [Controller.step_pollDue now _ hd]
      simp [Turn.calls, Fetches.enrollCalls, hf, Action.call?, Action.request?, Request.isCall]

/-- What becomes of those who ask for a fetch during a stretch at the beginning of which, at the end
of `past`, a list call was made, and at the end of which it ends. -/
structure SharesNext (past since : History) (epoch seq t : Nat) (r : Except Failure Listing) :
    Prop where
  quiet : (since ++ past).listCalls timing = past.listCalls timing
  next : ((controller timing (since ++ past)).step t (.listed epoch seq r)).actions.filterMap
    Action.list? = if askers timing past since = [] then [] else [(epoch, seq + 1)]
  shared (ha : askers timing past since ≠ []) (later : History) (hn : NoReset later) (t' : Nat)
    (r' : Except Failure Listing) (h : Orderly timing ((t', .listed epoch (seq + 1) r') ::
      (later ++ (t, .listed epoch seq r) :: (since ++ past)))) :
    let before := later ++ (t, .listed epoch seq r) :: (since ++ past)
    let last := (controller timing before).step t' (.listed epoch (seq + 1) r')
    before.listCalls timing = past.listCalls timing + 1 ∧
      last.actions.filterMap Action.reply? =
        (askers timing past since).map fun w =>
          (w.caller, Turn.waiterReply last.state.session w)

variable {timing}

theorem sharesNext_of_pending {past since : History} {seq t : Nat} {r : Except Failure Listing}
    (hu : (controller timing past).fetches.followUp = [])
    (hp : .list (controller timing past).epoch seq ∈ pending timing past) (hn : NoReset since)
    (h : Orderly timing
      ((t, .listed (controller timing past).epoch seq r) :: (since ++ past))) :
    SharesNext timing past since (controller timing past).epoch seq t r := by
  obtain ⟨ho, -, hi⟩ := id h
  have he : (controller timing (since ++ past)).epoch = _ := hn.epoch_eq past
  have hf := fetches_while_pending ho hn hp hi
  have hseq := ((ho.of_append.list_mem_pending_iff seq).1 hp).2
  rw [hu, List.nil_append] at hf
  have hquiet : (since ++ past).listCalls timing = past.listCalls timing := by
    rw [← issued_controller, ← issued_controller, hf]
  have hnext : ((controller timing (since ++ past)).step t
      (.listed (controller timing past).epoch seq r)).actions.filterMap Action.list? =
        if askers timing past since = [] then []
        else [((controller timing past).epoch, seq + 1)] := by
    rw [← he, Controller.list?_listed, hf, hseq]
  refine ⟨hquiet, hnext, fun ha later hl t' r' h' => ?_⟩
  obtain ⟨ho', -, hi'⟩ := h'
  -- the call that follows is made by the step that ends the first, so all of it holds once more
  have hc : .list (controller timing past).epoch (seq + 1) ∈
      ((controller timing (since ++ past)).step t
        (.listed (controller timing past).epoch seq r)).calls := by
    rw [Turn.list_mem_calls, hnext, if_neg ha]
    exact List.mem_singleton_self _
  have he₁ := Controller.epoch_step_of_call t _ hc
  have hp₁ := mem_pending_cons.2 (.inr hc)
  have he₂ : (controller timing (later ++ _)).epoch = _ := hl.epoch_eq
    ((t, .listed (controller timing past).epoch seq r) :: (since ++ past))
  have hf' := fetches_while_pending ho' hl (by rw [controller, he₁]; exact hp₁)
    (by rw [controller, he₁]; exact hi')
  have hadv : (controller timing ((t, .listed (controller timing past).epoch seq r) ::
      (since ++ past))).fetches = (controller timing (since ++ past)).fetches.advance := by
    rw [controller, ← he, Controller.step_listed]
  rw [hadv, hf, Fetches.advance, if_neg (by simpa using ha)] at hf'
  refine ⟨?_, ?_⟩
  · rw [← issued_controller, ← issued_controller, hf']
  · have hr := Controller.replies_listed t' (controller timing (later ++
      (t, .listed (controller timing past).epoch seq r) :: (since ++ past))) (seq + 1) r'
    rw [he₂, controller, he₁] at hr
    rw [hr, hf']

theorem sharesNext {before since : History} {t₀ t : Nat} {i : Input} {epoch seq : Nat}
    {r : Except Failure Listing}
    (hc : .list epoch seq ∈ ((controller timing before).step t₀ i).calls)
    (hn : NoReset since)
    (h : Orderly timing ((t, .listed epoch seq r) :: (since ++ (t₀, i) :: before))) :
    SharesNext timing ((t₀, i) :: before) since epoch seq t r := by
  obtain rfl : (controller timing ((t₀, i) :: before)).epoch = epoch :=
    Controller.epoch_step_of_call t₀ _ hc
  exact sharesNext_of_pending (followUp_eq_nil_of_call hc) (mem_pending_cons.2 (.inr hc)) hn h

/-- Of each epoch one list call at most is pending, and those who ask meanwhile share the next. -/
theorem one_list_call_at_a_time {past : History} (h : Orderly timing past) :
    OneAtATime timing past ∧
      ∀ (before since : History) (t₀ t : Nat) (i : Input) (epoch seq : Nat)
        (r : Except Failure Listing),
        past = (t, .listed epoch seq r) :: (since ++ (t₀, i) :: before) →
          .list epoch seq ∈ ((controller timing before).step t₀ i).calls → NoReset since →
            SharesNext timing ((t₀, i) :: before) since epoch seq t r := by
  refine ⟨h.oneAtATime timing, ?_⟩
  rintro before since t₀ t i epoch seq r rfl hc hn
  exact sharesNext hc hn h

/-- Two callers ask while a call is pending, which then fails, and the next answers both. -/
theorem two_askers_share_next_call :
    let before : History := [(0, .command 0 .sync)]
    let since : History := [(5, .command 2 .sync), (3, .command 1 .bootstrap)]
    let failed : Except Failure Listing := .error (.transport "lost")
    let past : History := (9, .listed 0 1 failed) :: (since ++ before)
    Orderly {} ((20, .listed 0 2 failed) :: past) ∧ OneAtATime {} past ∧
      ((controller {} past).step 20 (.listed 0 2 failed)).actions.filterMap Action.reply? =
        [(1, .done), (2, .done)] := by
  intro before since failed past
  have h : Orderly {} ((20, .listed 0 2 failed) :: past) := by decide
  have hn : NoReset since := by decide
  obtain ⟨ho, hs⟩ := one_list_call_at_a_time h.1
  have hc : .list 0 1 ∈ ((controller {} []).step 0 (.command 0 .sync)).calls := by decide
  obtain ⟨-, -, hshared⟩ := hs [] since 0 9 (.command 0 .sync) 0 1 failed rfl hc hn
  exact ⟨h, ho, (hshared (by decide) [] nofun 20 failed h).2⟩

end History

end RunWatch
