import Mathlib.Data.List.Nodup
import RunWatch.Proofs.Cadence
import RunWatch.Proofs.Phase
import RunWatch.Proofs.Showing
set_option autoImplicit false

namespace RunWatch

def Input.order? : Input → Option (Caller × Command)
  | .command k cmd => some (k, cmd)
  | _ => none

def Action.event? : Action → Option Event
  | .emit e => some e
  | _ => none

def events (as : List Action) : List Event := as.filterMap Action.event?

@[simp] theorem events_nil : events [] = [] := rfl

@[simp] theorem events_append (as bs : List Action) : events (as ++ bs) = events as ++ events bs :=
  List.filterMap_append

theorem Action.event?_of_isAnswer {a : Action} (h : a.isAnswer = true) : a.event? = none := by
  cases a with
  | emit e => cases h
  | _ => rfl

namespace History

variable {timing : Timing} {past : History} {t : Nat} {i : Input}

def orders (past : History) : List (Caller × Command) := past.filterMap fun e => e.2.order?

theorem orders_cons_of_none (h : i.order? = none) : orders ((t, i) :: past) = past.orders := by
  simp [orders, h]

theorem orders_cons_command (k : Caller) (cmd : Command) :
    orders ((t, .command k cmd) :: past) = (k, cmd) :: past.orders := by
  simp [orders, Input.order?]

theorem commanders_eq (past : History) : past.commanders = past.orders.map Prod.fst := by
  induction past with
  | nil => rfl
  | cons e past ih =>
    obtain ⟨t, i⟩ := e
    cases i with
    | command k cmd =>
      rw [orders_cons_command, List.map_cons, ← ih]
      rfl
    | _ => exact ih

theorem Orderly.mem_orders (h : Orderly timing past) {k : Caller} {r : Reply}
    (hr : .reply k r ∈ past.actions timing) : k ∈ past.orders.map Prod.fst := by
  have hle := h.count_replied_le k
  have hpos := List.count_pos_iff.2 (mem_replies hr)
  rw [commanders_eq] at hle
  simp only [replied] at hle
  exact List.count_pos_iff.1 (by omega)

theorem Orderly.nodup_replied (h : Orderly timing past) : (replied timing past).Nodup :=
  List.nodup_iff_count.2 fun k => by
    have hle := h.count_replied_le k
    have hone := h.count_commanders_le k
    omega

theorem Orderly.reply_unique (h : Orderly timing past) {k : Caller} {r r' : Reply}
    (hr : .reply k r ∈ past.actions timing) (hr' : .reply k r' ∈ past.actions timing) :
    r = r' := by
  have mem {r : Reply} (hr : .reply k r ∈ past.actions timing) :
      (k, r) ∈ (past.actions timing).filterMap Action.reply? := List.mem_filterMap.2 ⟨_, hr, rfl⟩
  exact (Prod.mk.inj (List.inj_on_of_nodup_map h.nodup_replied (mem hr) (mem hr') rfl)).2

variable (timing past) in
/-- No timer is set, and no call of the epoch is pending. -/
structure Quiet : Prop where
  poll : (controller timing past).poll.due = none
  starting : (controller timing past).starting.due = none
  calls {q : Request} (h : q ∈ pending timing past) :
    q.epoch? ≠ some (controller timing past).epoch

/-- All that a quiet controller does without a command is to refuse starts of an earlier epoch. -/
theorem Quiet.step (h : Quiet timing past) (hi : Admits timing past i) (ho : i.order? = none) :
    ((controller timing past).step t i).state = controller timing past ∧
      ∀ a ∈ ((controller timing past).step t i).actions, ∃ k r, a = .reply k r := by
  have unmoved {as : List Action}
      (hs : (controller timing past).step t i = ⟨controller timing past, as⟩)
      (has : ∀ a ∈ as, ∃ k r, a = .reply k r) :
      ((controller timing past).step t i).state = controller timing past ∧
        ∀ a ∈ ((controller timing past).step t i).actions, ∃ k r, a = .reply k r := by
    rw [hs]
    exact ⟨rfl, has⟩
  have notDue {due : Option Nat} (hn : due = none) (hd : due.any (· ≤ t) = true) : False := by
    simp [hn] at hd
  induction i using Controller.input_cases t (controller timing past) with
  | fetch k cmd hc => nomatch ho
  | startRefused k hs => nomatch ho
  | start k hs => nomatch ho
  | reset k => nomatch ho
  | listedStale epoch seq r he =>
    exact unmoved (Controller.step_listed_stale t _ seq r he) (by simp)
  | listed seq r => exact absurd rfl (h.calls hi)
  | triggeredStale epoch k r he =>
    exact unmoved (Controller.step_triggered_stale t _ k r he) (by simp)
  | started k r => exact absurd rfl (h.calls hi)
  | conflict k runId message requestId => exact absurd rfl (h.calls hi)
  | refused k f hf => exact absurd rfl (h.calls hi)
  | pollEarly hd => exact unmoved (Controller.step_pollDue_early t _ hd) (by simp)
  | poll hd => exact (notDue h.poll hd).elim
  | startingEarly hd => exact unmoved (Controller.step_startingDue_early t _ hd) (by simp)
  | starting hd => exact (notDue h.starting hd).elim

theorem Quiet.cons (h : Quiet timing past) (hi : Admits timing past i) (ho : i.order? = none) :
    Quiet timing ((t, i) :: past) := by
  obtain ⟨hs, ha⟩ := h.step (t := t) hi ho
  have hc : controller timing ((t, i) :: past) = controller timing past := hs
  refine ⟨hc ▸ h.poll, hc ▸ h.starting, fun hq => ?_⟩
  rw [hc]
  rcases mem_pending_cons.1 hq with ⟨hq, -⟩ | hq
  · exact h.calls hq
  · obtain ⟨a, hm, hq⟩ := List.mem_filterMap.1 hq
    obtain ⟨k, r, rfl⟩ := ha a hm
    nomatch hq

theorem Quiet.answers (h : Quiet timing past) (hi : Admits timing past i) (ho : i.order? = none) :
    ∀ a ∈ ((controller timing past).step t i).actions, a.isAnswer = true := by
  intro a ha
  obtain ⟨k, r, rfl⟩ := (h.step hi ho).2 a ha
  rfl

theorem quiet_reset (k : Caller) : Quiet timing ((t, .command k .reset) :: past) := by
  have hc : controller timing ((t, .command k .reset) :: past) = _ :=
    congrArg Turn.state (Controller.step_reset t (controller timing past) k)
  refine ⟨by rw [hc]; rfl, by rw [hc]; rfl, fun {q} hq he => ?_⟩
  have hepoch : (controller timing ((t, .command k .reset) :: past)).epoch =
      (controller timing past).epoch + 1 := by rw [hc]
  have hr : q ∈ requests timing past := by
    rcases mem_pending_cons.1 hq with ⟨hq, -⟩ | hq
    · exact mem_requests_of_mem_pending hq
    · rw [Controller.step_reset] at hq
      simp [Turn.calls, Action.call?, Action.request?, Function.comp_def] at hq
  have hle := epoch_le_of_mem timing hr he
  omega

theorem Orderly.quiet_of_reset (h : Orderly timing past) {k : Caller}
    {earlier : List (Caller × Command)} (ho : past.orders = (k, .reset) :: earlier) :
    Quiet timing past := by
  induction past with
  | nil => nomatch ho
  | cons e past ih =>
    obtain ⟨t, i⟩ := e
    cases hn : i.order? with
    | none =>
      rw [orders_cons_of_none hn] at ho
      exact (ih h.1 ho).cons h.2.2 hn
    | some p =>
      cases i with
      | command j cmd =>
        rw [orders_cons_command] at ho
        obtain ⟨-, rfl⟩ := Prod.mk.inj (List.cons.inj ho).1
        exact quiet_reset j
      | _ => nomatch hn

theorem Orderly.untouched (h : Orderly timing past) (ho : past.orders = []) :
    controller timing past = { timing } ∧ Quiet timing past := by
  induction past with
  | nil => exact ⟨rfl, rfl, rfl, by simp [pending]⟩
  | cons e past ih =>
    obtain ⟨t, i⟩ := e
    obtain ⟨hp, -, hi⟩ := h
    cases hc : i.order? with
    | some o => simp [orders, hc] at ho
    | none =>
      rw [orders_cons_of_none hc] at ho
      obtain ⟨hs, hq⟩ := ih hp ho
      exact ⟨(hq.step hi hc).1.trans hs, hq.cons hi hc⟩

end History

namespace Controller

/-- A controller that serves one command only: it polls and fetches for nobody while a submission
is open, and it fetches without polling only if someone waits for that. -/
structure Lone (c : Controller) : Prop where
  epoch : c.epoch = 0
  submitting (h : c.session.submitting = true) :
    c.session.polling = false ∧ c.fetches.inFlight = false
  fetching (h : c.fetches.inFlight = true) (hp : c.session.polling = false) :
    c.fetches.current ≠ []

variable {c : Controller} {timing : Timing} {now : Nat} {i : Input}

theorem lone_of_first {cmd : Command} (hc : cmd ≠ .reset) (k : Caller) :
    (({ timing } : Controller).step now (.command k cmd)).state.Lone := by
  cases cmd with
  | bootstrap =>
    rw [step_fetch now _ k (.inl rfl)]
    exact ⟨rfl, fun h => absurd h Bool.false_ne_true, fun _ _ => by simp [Fetches.enroll]⟩
  | sync =>
    rw [step_fetch now _ k (.inr rfl)]
    exact ⟨rfl, fun h => absurd h Bool.false_ne_true, fun _ _ => by simp [Fetches.enroll]⟩
  | start =>
    rw [step_start now _ k rfl]
    exact ⟨rfl, fun _ => ⟨rfl, rfl⟩, fun h => absurd h Bool.false_ne_true⟩
  | reset => exact absurd rfl hc

theorem reply_not_mem_first {cmd : Command} (hc : cmd ≠ .reset) (j k : Caller) (r : Reply) :
    .reply k r ∉ (({ timing } : Controller).step now (.command j cmd)).actions := by
  cases cmd with
  | bootstrap => exact not_reply_of_asks rfl k r
  | sync => exact not_reply_of_asks rfl k r
  | start =>
    rw [step_start now _ j rfl]
    simp
  | reset => exact absurd rfl hc

theorem Lone.step (h : c.Lone) (hc : c.Settled) (ho : i.order? = none)
    (hl : ∀ seq, i.call? = some (.list c.epoch seq) → c.fetches.inFlight = true)
    (ht : ∀ k, i.call? = some (.trigger c.epoch k) → c.session.submitting = true) :
    (c.step now i).state.Lone := by
  induction i using input_cases now c with
  | fetch k cmd hc => nomatch ho
  | startRefused k hs => nomatch ho
  | start k hs => nomatch ho
  | reset k => nomatch ho
  | listedStale epoch seq r he =>
    rw [step_listed_stale now c seq r he]
    exact h
  | listed seq r =>
    rw [step_listed]
    have hs : c.session.submitting = false := by
      cases hs : c.session.submitting with
      | false => rfl
      | true => exact absurd (hl seq rfl) (by simp [(h.submitting hs).2])
    refine ⟨h.epoch, by simp [hs], fun hf _ => ?_⟩
    unfold Fetches.advance at hf ⊢
    split
    · next hu => simp [hu] at hf
    · next hu => simpa using hu
  | triggeredStale epoch k r he =>
    rw [step_triggered_stale now c k r he]
    exact h
  | started k r =>
    have hf := (h.submitting (ht k rfl)).2
    rw [step_started]
    exact ⟨h.epoch, by simp [Session.endSubmission], by simp [hf]⟩
  | conflict k runId message requestId =>
    have hf := (h.submitting (ht k rfl)).2
    rw [step_conflict]
    exact ⟨h.epoch, by simp [Session.endSubmission, Session.markConflict],
      by simp [Fetches.enroll, hf]⟩
  | refused k f hf =>
    have hf' := (h.submitting (ht k rfl)).2
    rw [step_refused now c k hf]
    exact ⟨h.epoch, by simp [Session.endSubmission], by simp [hf']⟩
  | pollEarly hd =>
    rw [step_pollDue_early now c hd]
    exact h
  | poll hd =>
    have hp : c.session.polling = true := by
      rw [hc.polling, ← hc.armed]
      exact Ticker.isArmed_of_isDue hd
    rw [step_pollDue now c hd]
    exact ⟨h.epoch, fun hs => by simp [(h.submitting hs).1] at hp, fun _ hn => by simp [hp] at hn⟩
  | startingEarly hd =>
    rw [step_startingDue_early now c hd]
    exact h
  | starting hd =>
    rw [step_startingDue now c hd]
    exact ⟨h.epoch, fun hs => by simpa using h.submitting (by simpa using hs),
      fun hf hp => h.fetching hf (by simpa using hp)⟩

theorem Lone.polling_of_error (h : c.Lone) (ho : i.order? = none)
    (ht : ∀ epoch k, i.call? = some (.trigger epoch k) →
      epoch = c.epoch ∧ c.session.submitting = true) {k : Caller} {o : Outcome}
    (he : o.isError = true) (hr : .reply k (.outcome o) ∈ (c.step now i).actions) :
    (c.step now i).state.session.polling = false := by
  induction i using input_cases now c with
  | fetch k cmd hc => nomatch ho
  | startRefused k hs => nomatch ho
  | start k hs => nomatch ho
  | reset k => nomatch ho
  | listedStale epoch seq r hs =>
    rw [step_listed_stale now c seq r hs] at hr
    nomatch hr
  | listed seq r =>
    rw [step_listed] at hr
    obtain ⟨w, -, -, hw⟩ : ∃ w ∈ c.fetches.current, w.caller = k ∧ Turn.waiterReply
        ((c.session.afterListed seq r).follow c.poll) w = .outcome o := by
      simpa [reply_not_mem_followActions, reply_not_mem_advanceCalls] using hr
    cases w with
    | fetch caller => nomatch hw
    | conflict caller runId requestId =>
      obtain rfl := Reply.outcome.inj hw
      nomatch he
  | triggeredStale epoch k r hs => exact absurd (ht epoch k rfl).1 hs
  | started k r =>
    rw [step_started] at hr
    obtain ⟨-, rfl⟩ : _ ∧ o = .started r.runId r.reused := by
      simpa [reply_not_mem_followActions] using hr
    nomatch he
  | conflict k runId message requestId =>
    rw [step_conflict] at hr
    simp [reply_not_mem_followActions, reply_not_mem_enrollCalls] at hr
  | refused k f hf =>
    rw [step_refused now c k hf]
    simpa using (h.submitting (ht _ k rfl).2).1
  | pollEarly hd =>
    rw [step_pollDue_early now c hd] at hr
    nomatch hr
  | poll hd =>
    rw [step_pollDue now c hd] at hr
    simp [reply_not_mem_enrollCalls] at hr
  | startingEarly hd =>
    rw [step_startingDue_early now c hd] at hr
    nomatch hr
  | starting hd =>
    rw [step_startingDue now c hd] at hr
    split at hr <;> simp at hr

end Controller

namespace History

variable {timing : Timing} {past : History} {t : Nat} {i : Input} {cmd : Command}

theorem first_of_orders {p : Caller × Command} (hi : i.order? = some p)
    (ho : orders ((t, i) :: past) <:+ [(0, cmd)]) : i = .command 0 cmd ∧ past.orders = [] := by
  cases i with
  | command k c =>
    rw [orders_cons_command] at ho
    rcases List.suffix_cons_iff.1 ho with ho | ho
    · obtain ⟨hk, hnone⟩ := List.cons.inj ho
      obtain ⟨rfl, rfl⟩ := Prod.mk.inj hk
      exact ⟨rfl, hnone⟩
    · nomatch List.suffix_nil.1 ho
  | _ => nomatch hi

theorem Orderly.lone (h : Orderly timing past) (ho : past.orders <:+ [(0, cmd)])
    (hc : cmd ≠ .reset) : (controller timing past).Lone := by
  induction past with
  | nil => exact ⟨rfl, nofun, nofun⟩
  | cons e past ih =>
    obtain ⟨t, i⟩ := e
    obtain ⟨hp, -, hi⟩ := h
    cases hn : i.order? with
    | none =>
      rw [orders_cons_of_none hn] at ho
      refine (ih hp ho).step (settled timing past) hn (fun seq hq => ?_) fun k hq => ?_
      · exact ((hp.list_mem_pending_iff seq).1 ((admits_iff_mem_pending hq).1 hi)).1
      · exact hp.submission.open_iff.2 ⟨k, (admits_iff_mem_pending hq).1 hi⟩
    | some o =>
      obtain ⟨rfl, hnone⟩ := first_of_orders hn ho
      rw [controller, (hp.untouched hnone).1]
      exact Controller.lone_of_first hc 0

theorem Orderly.waitedFor_eq_nil (h : Orderly timing past) (ho : past.orders <:+ [(0, cmd)])
    (hr : 0 ∈ replied timing past) : waitedFor timing past = [] := by
  refine List.eq_nil_iff_forall_not_mem.2 fun k hk => ?_
  have hle := h.count_replied_le k
  have hone := h.count_commanders_le k
  have hpos := List.count_pos_iff.2 hk
  have hcom : k ∈ past.commanders := List.count_pos_iff.1 (by omega)
  rw [commanders_eq] at hcom
  obtain ⟨o, hm, rfl⟩ := List.mem_map.1 hcom
  obtain rfl := List.mem_singleton.1 (ho.subset hm)
  have hrep := List.count_pos_iff.2 hr
  simp only at hle hone hpos
  omega

/-- Once its only command has been answered and polling is off, a controller is quiet. -/
theorem Orderly.quiet (h : Orderly timing past) (ho : past.orders <:+ [(0, cmd)])
    (hc : cmd ≠ .reset) (hr : 0 ∈ replied timing past)
    (hp : (controller timing past).session.polling = false) : Quiet timing past := by
  have hw := h.waitedFor_eq_nil ho hr
  have hcurrent : (controller timing past).fetches.current = [] := by
    have hcallers := List.map_eq_nil_iff.1 (List.append_eq_nil_iff.1 hw).2
    exact (List.append_eq_nil_iff.1 hcallers).1
  have hnone (k : Caller) (epoch : Nat) : .trigger epoch k ∉ pending timing past := fun hq => by
    have := List.filterMap_eq_nil_iff.1 (List.append_eq_nil_iff.1 hw).1 _ hq
    nomatch this
  refine ⟨?_, ?_, fun {q} hq he => ?_⟩
  · have hd : (controller timing past).poll.due.isSome = _ := due_isSome past
    rwa [hp, Option.isSome_eq_false_iff, Option.isNone_iff_eq_none] at hd
  · obtain ⟨p, hphase⟩ := h.phase
    cases p with
    | idle => exact congrArg Standing.due hphase.1
    | submitted =>
      obtain ⟨k, _, hcall, -⟩ := hphase
      exact absurd hcall.mem (hnone k _)
    | starting =>
      obtain ⟨k, _, hcall, -⟩ := hphase
      exact absurd hcall.mem (hnone k _)
  · cases q with
    | list epoch seq =>
      obtain rfl := Option.some.inj he
      exact (h.lone ho hc).fetching ((h.list_mem_pending_iff seq).1 hq).1 hp hcurrent
    | trigger epoch k => exact hnone k epoch hq
    | wake due => nomatch he

theorem Orderly.quiet_of_error (h : Orderly timing past) (ho : past.orders <:+ [(0, cmd)])
    (hc : cmd ≠ .reset) {o : Outcome} (he : o.isError = true)
    (hr : .reply 0 (.outcome o) ∈ past.actions timing) : Quiet timing past := by
  have hreplied : 0 ∈ replied timing past := mem_replies hr
  induction past with
  | nil => nomatch hr
  | cons e past ih =>
    obtain ⟨t, i⟩ := e
    obtain ⟨hp, -, hi⟩ := id h
    cases hn : i.order? with
    | some p =>
      obtain ⟨rfl, hnone⟩ := first_of_orders hn ho
      rcases List.mem_append.1 hr with hr | hr
      · have hk := hp.mem_orders hr
        rw [hnone] at hk
        nomatch hk
      · rw [(hp.untouched hnone).1] at hr
        exact absurd hr (Controller.reply_not_mem_first hc 0 0 _)
    | none =>
      have ho' := ho
      rw [orders_cons_of_none hn] at ho'
      rcases List.mem_append.1 hr with hr | hr
      · exact (ih hp ho' hr (mem_replies hr)).cons hi hn
      · have hl := hp.lone ho' hc
        refine h.quiet ho hc hreplied (hl.polling_of_error hn (fun epoch k hq => ?_) he hr)
        have hq := (admits_iff_mem_pending hq).1 hi
        have hle := epoch_le_of_mem timing (mem_requests_of_mem_pending hq) rfl
        rw [hl.epoch] at hle
        obtain rfl : epoch = (controller timing past).epoch := by rw [hl.epoch]; omega
        exact ⟨rfl, hp.submission.open_iff.2 ⟨k, hq⟩⟩

end History

end RunWatch
