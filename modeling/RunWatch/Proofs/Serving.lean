import RunWatch.Proofs.Quiet
import RunWatch.Proofs.Report
set_option autoImplicit false

namespace RunWatch

namespace Controller

variable {now : Nat} {c : Controller} {i : Input}

/-- No failure stops polling, so no error is kept when it stops. -/
theorem lastError_of_polling_stops (h : c.Settled) (hp : c.session.polling = true)
    (hs : (c.step now i).state.session.polling = false) :
    (c.step now i).state.session.lastError = none := by
  have ha : c.session.polling = c.poll.isArmed := h.polling.trans h.armed.symm
  have hactive : c.session.runActive = true := h.polling.symm.trans hp
  induction i using input_cases now c with
  | fetch k cmd hc =>
    rw [step_fetch now c k hc] at hs
    simp [hp] at hs
  | startRefused k hb =>
    rw [step_start_refused now c k hb] at hs
    simp [hp] at hs
  | start k hb =>
    rw [step_start now c k hb] at hs
    simp [Session.beginSubmission, hp] at hs
  | reset k => simp [step_reset]
  | listedStale epoch seq r he =>
    rw [step_listed_stale now c seq r he] at hs
    simp [hp] at hs
  | listed seq r =>
    cases r with
    | ok l =>
      have hreport := congrArg Prod.snd (c.session.report_applyListing l seq)
      rw [step_listed, Session.follow_eq]
      exact hreport
    | error f =>
      rw [step_listed, Session.polling_follow (by simpa using ha)] at hs
      simp [Session.afterListed, Session.recordFailure, Session.runActive] at hs hactive
      simp [hs] at hactive
  | triggeredStale epoch k r he =>
    rw [step_triggered_stale now c k r he] at hs
    simp [hp] at hs
  | started k r =>
    have hreport := congrArg Prod.snd (c.session.endSubmission.report_applyStarted r)
    rw [step_started, Session.follow_eq]
    exact hreport
  | conflict k runId message requestId =>
    rw [step_conflict, Session.polling_follow (by simpa using ha)] at hs
    simp at hs
  | refused k f hf =>
    rw [step_refused now c k hf] at hs
    simp [hp] at hs
  | pollEarly hd =>
    rw [step_pollDue_early now c hd] at hs
    simp [hp] at hs
  | poll hd =>
    rw [step_pollDue now c hd] at hs
    simp [hp] at hs
  | startingEarly hd =>
    rw [step_startingDue_early now c hd] at hs
    simp [hp] at hs
  | starting hd =>
    rw [step_startingDue now c hd] at hs
    simp [hp] at hs

def asking (timing : Timing) : Controller where
  timing
  fetches := { inFlight := true, issued := 1, current := [.fetch 0] }

def firstSession (timing : Timing) (r : Except Failure Listing) : Session :=
  (({} : Session).afterListed 1 r).follow { interval := timing.pollInterval }

def opened (timing : Timing) (t : Nat) (r : Except Failure Listing) : Controller where
  timing
  session := firstSession timing r
  poll := ({ interval := timing.pollInterval } : Ticker).follow t (firstSession timing r).runActive
  fetches := { issued := 1 }

variable {timing : Timing} {t : Nat} {r : Except Failure Listing}

theorem step_bootstrap : (({ timing } : Controller).step t (.command 0 .bootstrap)).state =
    asking timing := by
  rw [step_fetch t _ 0 (.inl rfl)]
  rfl

theorem step_asking : ((asking timing).step t (.listed 0 1 r)).state = opened timing t r := by
  have hs := step_listed t (asking timing) 1 r
  simp only [opened, firstSession, Session.runActive_follow]
  exact congrArg Turn.state hs

theorem reply_mem_step_asking :
    .reply 0 .done ∈ ((asking timing).step t (.listed 0 1 r)).actions := by
  have hs := step_listed t (asking timing) 1 r
  rw [show (0 : Nat) = (asking timing).epoch from rfl, hs]
  simp [asking, Waiter.caller, Turn.waiterReply]

theorem lastError_firstSession : (firstSession timing r).lastError.isSome = !r.isOk := by
  rw [firstSession, Session.follow_eq]
  cases r with
  | ok l =>
    have hreport := congrArg Prod.snd (({} : Session).report_applyListing l 1)
    exact congrArg Option.isSome hreport
  | error f => rfl

theorem polling_firstSession :
    (firstSession timing r).polling = (firstSession timing r).runActive := by
  rw [firstSession, Session.polling_follow (by simp [Ticker.isArmed]), Session.runActive_follow]

theorem isOk_of_polling (h : (firstSession timing r).polling = true) : r.isOk = true := by
  cases r with
  | ok l => rfl
  | error f =>
    rw [polling_firstSession, firstSession, Session.runActive_follow] at h
    cases h

end Controller

namespace History

open Controller

variable {timing : Timing} {past : History} {t : Nat} {i : Input} {k : Caller}
  {r : Except Failure Listing}

/-- While nothing is submitted, only a list call that ends and a poll that is due do anything. -/
inductive Idles (timing : Timing) (past : History) (t : Nat) : Input → Prop where
  | kept {i : Input} (h : controller timing ((t, i) :: past) = controller timing past) :
      Idles timing past t i
  | listed (h : (controller timing past).fetches.inFlight = true) (r : Except Failure Listing) :
      Idles timing past t
        (.listed (controller timing past).epoch (controller timing past).fetches.issued r)
  | polled (h : (controller timing past).poll.isDue t = true) : Idles timing past t .pollDue

theorem Orderly.idles (h : Orderly timing ((t, i) :: past)) (hn : i.order? = none)
    (hs : (controller timing past).session.submitting = false)
    (hd : (controller timing past).starting.due = none) : Idles timing past t i := by
  obtain ⟨hp, -, hi⟩ := h
  have closed {k : Caller} (hk : .trigger (controller timing past).epoch k ∈ pending timing past) :
      False := by
    have hopen := hp.submission.open_iff.2 ⟨k, hk⟩
    simp [hs] at hopen
  induction i using input_cases t (controller timing past) with
  | fetch k cmd hc => cases hn
  | startRefused k hb => cases hn
  | start k hb => cases hn
  | reset k => cases hn
  | listedStale epoch seq r he => exact .kept (by rw [controller, step_listed_stale t _ seq r he])
  | listed seq r =>
    obtain ⟨hf, rfl⟩ := (hp.list_mem_pending_iff seq).1 hi
    exact .listed hf r
  | triggeredStale epoch k r he =>
    exact .kept (by rw [controller, step_triggered_stale t _ k r he])
  | started k r => exact (closed hi).elim
  | conflict k runId message requestId => exact (closed hi).elim
  | refused k f hf => exact (closed hi).elim
  | pollEarly hb => exact .kept (by rw [controller, step_pollDue_early t _ hb])
  | poll hb => exact .polled hb
  | startingEarly hb => exact .kept (by rw [controller, step_startingDue_early t _ hb])
  | starting hb => simp [Deadline.isDue, hd] at hb

/-- How far a controller has come whose first list call ended like this at an instant: no other has
been made, or polls have begun, an interval later at the earliest. -/
inductive Fetched (timing : Timing) (past : History) (t : Nat) (r : Except Failure Listing) :
    Prop where
  | only (h : controller timing past = opened timing t r)
  | polled (hr : r.isOk = true) (hc : 1 < past.listCalls timing)
      (ht : t + timing.pollInterval.nanos ≤ past.now)
      (hs : (controller timing past).session.polling = false →
        (controller timing past).session.lastError = none)

variable {t₀ : Nat}

theorem Fetched.cons (h : Fetched timing past t₀ r) (hy : Orderly timing ((t, i) :: past))
    (ho : past.orders <:+ [(0, .bootstrap)]) (hr : 0 ∈ replied timing past) (hn : i.order? = none) :
    Fetched timing ((t, i) :: past) t₀ r := by
  obtain ⟨hp, hle, hi⟩ := id hy
  cases h with
  | only h =>
    cases hy.idles hn (by simp [h, opened, firstSession]) (by simp [h, opened]) with
    | kept hk => exact .only (hk.trans h)
    | listed hf => simp [h, opened] at hf
    | polled hd =>
      have hstep := step_pollDue t (controller timing past) hd
      have hactive : (firstSession timing r).polling = true := by
        rw [polling_firstSession]
        simpa [h, opened] using Ticker.isArmed_of_isDue hd
      refine .polled (isOk_of_polling hactive) ?_ ?_ fun hoff => ?_
      · rw [← issued_controller, controller, hstep, h]
        simp [opened]
      · show t₀ + timing.pollInterval.nanos ≤ t
        simpa [h, opened, Ticker.isDue, Ticker.follow, ← polling_firstSession, hactive, Ticker.arm,
          Ticker.isArmed] using hd
      · rw [controller, hstep, h] at hoff
        simp [opened, hactive] at hoff
  | polled hok hc ht hs =>
    refine .polled hok (Nat.lt_of_lt_of_le hc (listCalls_le_append [(t, i)] past))
      (Nat.le_trans ht hle) fun hoff => ?_
    cases hpolling : (controller timing past).session.polling with
    | true => exact lastError_of_polling_stops (settled timing past) hpolling hoff
    | false =>
      have hquiet := hp.quiet ho (by simp) hr hpolling
      rw [controller, (hquiet.step hi hn).1]
      exact hs hpolling

inductive Bootstraps (timing : Timing) (past : History) : Prop where
  | idle (ho : past.orders = [])
  | asking (h : controller timing past = Controller.asking timing)
  | fetched {t : Nat} {r : Except Failure Listing} (hm : (t, .listed 0 1 r) ∈ past)
      (hr : 0 ∈ replied timing past) (h : Fetched timing past t r)

theorem Bootstraps.cons (h : Bootstraps timing past) (hy : Orderly timing ((t, i) :: past))
    (ho : orders ((t, i) :: past) <:+ [(0, .bootstrap)]) : Bootstraps timing ((t, i) :: past) := by
  cases hn : i.order? with
  | some p =>
    obtain ⟨rfl, hnone⟩ := first_of_orders hn ho
    refine .asking ?_
    rw [controller, (hy.1.untouched hnone).1]
    exact step_bootstrap
  | none =>
    rw [orders_cons_of_none hn] at ho
    cases h with
    | idle hnone => exact .idle ((orders_cons_of_none hn).trans hnone)
    | asking h =>
      cases hy.idles hn (by simp [h, Controller.asking]) (by simp [h, Controller.asking]) with
      | kept hk => exact .asking (hk.trans h)
      | listed hf r =>
        simp only [h]
        refine .fetched List.mem_cons_self (mem_replied_of_reply (r := .done) ?_) (.only ?_)
        · rw [h]
          exact reply_mem_step_asking
        · rw [controller, h]
          exact step_asking
      | polled hd => simp [h, Controller.asking, Ticker.isDue] at hd
    | fetched hm hr h =>
      exact .fetched (.tail _ hm) (mem_replied_append [(t, i)] hr) (h.cons hy ho hr hn)

theorem orders_suffix_cons (e : Nat × Input) (past : History) :
    past.orders <:+ orders (e :: past) := by
  cases hn : e.2.order? <;> simp [orders, hn]

theorem Orderly.bootstraps (h : Orderly timing past) (ho : past.orders <:+ [(0, .bootstrap)]) :
    Bootstraps timing past := by
  induction past with
  | nil => exact .idle rfl
  | cons e past ih => exact (ih h.1 ((orders_suffix_cons e past).trans ho)).cons h ho

/-- A bootstrap is answered when its first list call has ended, however that was. -/
theorem Orderly.fetched (h : Orderly timing past) (ho : past.orders <:+ [(0, .bootstrap)])
    (hr : 0 ∈ replied timing past) :
    ∃ t r, (t, .listed 0 1 r) ∈ past ∧ Fetched timing past t r := by
  cases h.bootstraps ho with
  | idle hnone =>
    have hle := h.count_replied_le 0
    have hpos := List.count_pos_iff.2 hr
    rw [commanders_eq, hnone, List.map_nil, List.count_nil] at hle
    omega
  | asking hc =>
    have hw := h.waitedFor_eq_nil ho hr
    simp [waitedFor, hc, Controller.asking, Fetches.callers] at hw
  | @fetched t r hm _ h => exact ⟨t, r, hm, h⟩

theorem Fetched.lastError_of_polling (h : Fetched timing past t r)
    (hp : (controller timing past).session.polling = false) :
    (controller timing past).session.lastError.isSome = !r.isOk := by
  cases h with
  | only h => simpa [h, opened] using lastError_firstSession
  | polled hr _ _ hs => simp [hs hp, hr]

theorem Fetched.isOk (h : Fetched timing past t r)
    (hp : (controller timing past).session.polling = true) : r.isOk = true := by
  cases h with
  | only h => exact isOk_of_polling (by simpa [h, opened] using hp)
  | polled hr => exact hr

theorem Fetched.listCalls_eq_one (h : Fetched timing past t r)
    (ht : r.isOk = false ∨ past.now < t + timing.pollInterval.nanos) :
    past.listCalls timing = 1 := by
  cases h with
  | only h => rw [← issued_controller, h, opened]
  | polled hr _ hle =>
    simp [hr] at ht
    omega

theorem Fetched.lastError_of_listCalls (h : Fetched timing past t r)
    (hc : past.listCalls timing = 1) :
    (controller timing past).session.lastError.isSome = !r.isOk := by
  cases h with
  | only h => simpa [h, opened] using lastError_firstSession
  | polled _ hlt => omega

theorem Orderly.session_of_reset (h : Orderly timing past) {earlier : List (Caller × Command)}
    (ho : past.orders = (k, .reset) :: earlier) : (controller timing past).session = {} := by
  induction past with
  | nil => cases ho
  | cons e past ih =>
    obtain ⟨t, i⟩ := e
    cases hn : i.order? with
    | none =>
      rw [orders_cons_of_none hn] at ho
      rw [controller, ((h.1.quiet_of_reset ho).step h.2.2 hn).1]
      exact ih h.1 ho
    | some p =>
      cases i with
      | command j cmd =>
        rw [orders_cons_command] at ho
        obtain ⟨-, rfl⟩ := Prod.mk.inj (List.cons.inj ho).1
        rw [controller, step_reset]
      | _ => cases hn

variable (timing) in
def startCalls (past : History) : List (Nat × Caller) :=
  (past.actions timing).filterMap Action.trigger?

theorem startCalls_cons (past : History) (t : Nat) (i : Input) :
    startCalls timing ((t, i) :: past) =
      startCalls timing past ++ (controller timing past).starts i := by
  simp [startCalls, actions, step_starts]

theorem starts_eq_nil {c : Controller} (h : ∀ k, i.order? ≠ some (k, .start)) :
    c.starts i = [] := by
  unfold starts
  split
  · next k => exact absurd rfl (h k)
  · rfl

theorem startCalls_eq_nil (h : ∀ p ∈ past.orders, p.2 ≠ .start) : startCalls timing past = [] := by
  induction past with
  | nil => rfl
  | cons e past ih =>
    obtain ⟨t, i⟩ := e
    have hpast : startCalls timing past = [] :=
      ih fun p hp => h p ((orders_suffix_cons (t, i) past).subset hp)
    rw [startCalls_cons, hpast, starts_eq_nil fun k hk => ?_, List.append_nil]
    exact h (k, .start) (by simp [orders, hk]) rfl

theorem Orderly.startCalls_eq (h : Orderly timing past) {later : List (Caller × Command)}
    (hl : ∀ p ∈ later, p.2 ≠ .start) (ho : past.orders = later ++ [(k, .start)]) :
    startCalls timing past = [(0, k)] := by
  induction past generalizing later with
  | nil => simp [orders] at ho
  | cons e past ih =>
    obtain ⟨t, i⟩ := e
    rw [startCalls_cons]
    cases hn : i.order? with
    | none =>
      rw [orders_cons_of_none hn] at ho
      rw [ih h.1 hl ho, starts_eq_nil (by simp [hn]), List.append_nil]
    | some p =>
      have hcons : orders ((t, i) :: past) = p :: orders past := by simp [orders, hn]
      rw [hcons] at ho
      cases later with
      | nil =>
        obtain ⟨rfl, hnone⟩ := List.cons.inj ho
        rw [startCalls_eq_nil (by simp [hnone]), (h.1.untouched hnone).1]
        cases i with
        | command j cmd =>
          obtain ⟨rfl, rfl⟩ := Prod.mk.inj (Option.some.inj hn)
          rfl
        | _ => cases hn
      | cons q later =>
        obtain ⟨rfl, hpast⟩ := List.cons.inj ho
        have hq := hl p List.mem_cons_self
        rw [ih h.1 (fun p hp => hl p (.tail _ hp)) hpast, starts_eq_nil fun k hk => ?_,
          List.append_nil]
        obtain rfl := Option.some.inj (hn.symm.trans hk)
        exact hq rfl

end History

end RunWatch
