import Mathlib.Algebra.Group.Nat.Defs
import RunWatch.Proofs.Cadence
set_option autoImplicit false

namespace RunWatch

namespace Controller

/-- The instants for which a step sets a timer: the next poll, when one is taken or polling is
turned on, and the end of the starting phase, when a start is accepted. -/
inductive Sets (now : Nat) (c : Controller) (i : Input) : Nat → Prop where
  | polled (h : c.polls now i = true) : Sets now c i (now + c.poll.interval.nanos)
  | turnedOn (hoff : c.poll.isArmed = false) (hon : (c.step now i).state.poll.isArmed = true) :
      Sets now c i (now + c.poll.interval.nanos)
  | started {k : Caller} (hi : i = .command k .start) (h : c.session.submitting = false) :
      Sets now c i (now + c.timing.startingPhase.nanos)

variable {now due : Nat} {c : Controller} {i : Input}

theorem wakeAt_mem_followActions {p : Ticker} {active : Bool} :
    .wakeAt due ∈ p.followActions now active ↔
      p.isArmed = false ∧ active = true ∧ due = now + p.interval.nanos := by
  unfold Ticker.followActions
  cases active <;> cases p.isArmed <;> simp

theorem wakeAt_not_mem_of_isAnswer {as : List Action} (h : ∀ a ∈ as, a.isAnswer = true) :
    .wakeAt due ∉ as := fun hm => nomatch h _ hm

theorem sets_iff_of_idle {c' : Controller} {as : List Action} (hstep : c.step now i = ⟨c', as⟩)
    (hstart : ∀ k, i = .command k .start → c.session.submitting = true)
    (hpolls : c.polls now i = false) (hpoll : c'.poll.isArmed = true → c.poll.isArmed = true)
    (hidle : .wakeAt due ∉ as) : .wakeAt due ∈ (c.step now i).actions ↔ c.Sets now i due := by
  rw [hstep]
  refine iff_of_false hidle ?_
  rintro (h | ⟨hoff, hon⟩ | ⟨hi, h⟩)
  · rw [hpolls] at h
    cases h
  · rw [hstep] at hon
    rw [hpoll hon] at hoff
    cases hoff
  · rw [hstart _ hi] at h
    cases h

theorem sets_iff_of_follow {c' : Controller} {as : List Action} (active : Bool)
    (hstep : c.step now i = ⟨c', as⟩) (hstart : ∀ k, i ≠ .command k .start)
    (hpolls : c.polls now i = false) (hpoll : c'.poll = c.poll.follow now active)
    (hwake : .wakeAt due ∈ as ↔ .wakeAt due ∈ c.poll.followActions now active) :
    .wakeAt due ∈ (c.step now i).actions ↔ c.Sets now i due := by
  have harmed : (c.step now i).state.poll.isArmed = active := by
    rw [hstep, hpoll, Ticker.isArmed_follow]
  have hactions : (c.step now i).actions = as := congrArg Turn.actions hstep
  rw [hactions, hwake, wakeAt_mem_followActions]
  constructor
  · rintro ⟨hoff, hon, rfl⟩
    exact .turnedOn hoff (harmed.trans hon)
  · rintro (h | ⟨hoff, hon⟩ | ⟨hi, -⟩)
    · rw [hpolls] at h
      cases h
    · exact ⟨hoff, harmed.symm.trans hon, rfl⟩
    · exact absurd hi (hstart _)

/-- What a step asks to be woken for are the timers that it sets. -/
theorem wakeAt_mem_step :
    .wakeAt due ∈ (c.step now i).actions ↔ c.Sets now i due := by
  have hlists : .wakeAt due ∉ c.fetches.enrollCalls c.epoch :=
    wakeAt_not_mem_of_isAnswer (isAnswer_enrollCalls _ _)
  induction i using input_cases now c with
  | fetch k cmd hc =>
    exact sets_iff_of_idle (step_fetch now c k hc) (by rcases hc with rfl | rfl <;> simp) rfl id
      hlists
  | startRefused k hs =>
    exact sets_iff_of_idle (step_start_refused now c k hs) (fun _ _ => hs) rfl id (by simp)
  | start k hs =>
    rw [step_start now c k hs]
    constructor
    · intro h
      obtain rfl : due = now + c.timing.startingPhase.nanos := by simpa using h
      exact .started rfl hs
    · rintro (h | ⟨hoff, hon⟩ | ⟨-, -⟩)
      · cases h
      · rw [step_start now c k hs] at hon
        cases hoff.symm.trans hon
      · exact List.mem_cons_self
  | reset k =>
    exact sets_iff_of_idle (step_reset now c k) (by simp) rfl (by simp) (by simp)
  | listedStale epoch seq r he =>
    exact sets_iff_of_idle (step_listed_stale now c seq r he) (by simp) rfl id (by simp)
  | listed seq r =>
    have hadvance : .wakeAt due ∉ c.fetches.advanceCalls c.epoch :=
      wakeAt_not_mem_of_isAnswer (isAnswer_advanceCalls _ _)
    exact sets_iff_of_follow _ (step_listed now c seq r) (by simp) rfl rfl (by simp [hadvance])
  | triggeredStale epoch k r he =>
    exact sets_iff_of_idle (step_triggered_stale now c k r he) (by simp) rfl id (by simp)
  | started k r =>
    exact sets_iff_of_follow _ (step_started now c k r) (by simp) rfl rfl (by simp)
  | conflict k runId message requestId =>
    exact sets_iff_of_follow true (step_conflict now c k runId message requestId) (by simp) rfl
      rfl (by simp [hlists])
  | refused k f hf =>
    exact sets_iff_of_idle (step_refused now c k hf) (by simp) rfl id (by simp)
  | pollEarly hd =>
    exact sets_iff_of_idle (step_pollDue_early now c hd) (by simp) hd id (by simp)
  | poll hd =>
    rw [step_pollDue now c hd]
    constructor
    · intro h
      obtain rfl : due = now + c.poll.interval.nanos := by simpa [hlists] using h
      exact .polled hd
    · rintro (- | ⟨hoff, -⟩ | ⟨hi, -⟩)
      · exact List.mem_cons_self
      · exact List.mem_cons_self
      · cases hi
  | startingEarly hd =>
    exact sets_iff_of_idle (step_startingDue_early now c hd) (by simp) rfl id (by simp)
  | starting hd =>
    exact sets_iff_of_idle (step_startingDue now c hd) (by simp) rfl id (by split <;> simp)

end Controller

namespace Executor

variable {x : Executor}

theorem perform_eq_none_iff (hx : x.controller.isSome) {a : Action} :
    (x.perform a).controller = none ↔ ∃ due, a = .wakeAt due ∧ Instant.isCounted due = false := by
  have hsome : x.controller ≠ none := Option.isSome_iff_ne_none.1 hx
  cases a with
  | wakeAt due =>
    simp only [perform, Action.wakeAt.injEq, exists_eq_left']
    split
    · next hd =>
      rw [hd]
      exact iff_of_false hsome Bool.noConfusion
    · next hd =>
      rw [stop_eq]
      exact iff_of_true rfl (Bool.eq_false_iff.2 hd)
  | _ =>
    refine iff_of_false hsome ?_
    rintro ⟨_, h, -⟩
    cases h

theorem exists_of_performAll_stopped {as : List Action} (hx : x.controller.isSome)
    (h : (x.performAll as).controller = none) : ∃ before due after,
      as = before ++ .wakeAt due :: after ∧ Instant.isCounted due = false ∧
      (x.performAll as).shown = (before.filterMap Action.shown?).getLast?.getD x.shown := by
  induction as generalizing x with
  | nil =>
    rw [performAll] at h
    rw [h] at hx
    cases hx
  | cons a as ih =>
    by_cases ha : (x.perform a).controller.isSome
    · have hall : x.performAll (a :: as) = (x.perform a).performAll as := if_pos ha
      rw [hall] at h ⊢
      obtain ⟨before, due, after, rfl, hdue, hshown⟩ := ih ha h
      refine ⟨a :: before, due, after, rfl, hdue, ?_⟩
      rw [hshown, shown_perform]
      cases hs : a.shown? with
      | none => simp [hs]
      | some s => cases hl : (before.filterMap Action.shown?).getLast? <;>
          simp [hs, List.getLast?_cons, hl]
    · have hall : x.performAll (a :: as) = x.perform a := if_neg ha
      rw [hall]
      obtain ⟨due, rfl, hdue⟩ := (perform_eq_none_iff hx).1 (by simpa using ha)
      exact ⟨[], due, as, rfl, hdue, shown_perform x _⟩

theorem performAll_eq_none {as : List Action} {due : Nat} (hx : x.controller.isSome)
    (hmem : .wakeAt due ∈ as) (hdue : Instant.isCounted due = false) :
    (x.performAll as).controller = none := by
  induction as generalizing x with
  | nil => cases hmem
  | cons a as ih =>
    by_cases ha : (x.perform a).controller.isSome
    · have hall : x.performAll (a :: as) = (x.perform a).performAll as := if_pos ha
      rw [hall]
      rcases List.mem_cons.1 hmem with rfl | hmem
      · rw [(perform_eq_none_iff hx).2 ⟨due, rfl, hdue⟩] at ha
        cases ha
      · exact ih ha hmem
    · have hall : x.performAll (a :: as) = x.perform a := if_neg ha
      rw [hall]
      simpa using ha

/-- A controller stops on an input exactly if it sets a timer beyond the clock. -/
theorem handle_eq_none_iff {c : Controller} (hc : x.controller = some c) {now : Nat} {i : Input} :
    (x.handle now i).controller = none ↔
      ∃ due, c.Sets now i due ∧ Instant.isCounted due = false := by
  rw [handle_some hc]
  constructor
  · intro h
    obtain ⟨before, due, after, hsplit, hdue, -⟩ := exists_of_performAll_stopped rfl h
    refine ⟨due, Controller.wakeAt_mem_step.1 ?_, hdue⟩
    rw [hsplit]
    exact List.mem_append_right _ List.mem_cons_self
  · rintro ⟨due, hsets, hdue⟩
    exact performAll_eq_none rfl (Controller.wakeAt_mem_step.2 hsets) hdue

theorem shown_of_stopped {c : Controller} (hc : x.controller = some c) {now : Nat} {i : Input}
    (h : (x.handle now i).controller = none) : (x.handle now i).shown = x.shown := by
  rw [handle_some hc] at h ⊢
  obtain ⟨before, due, after, hsplit, -, hshown⟩ := exists_of_performAll_stopped rfl h
  have hnone : before.filterMap Action.shown? = [] := by
    refine List.filterMap_eq_nil_iff.2 fun a ha => ?_
    cases a with
    | publish s =>
      obtain ⟨first, last, rfl⟩ := List.append_of_mem ha
      have hp : (c.step now i).actions = first ++ .publish s :: (last ++ .wakeAt due :: after) := by
        rw [hsplit, List.append_assoc, List.cons_append]
      obtain ⟨-, hanswers⟩ := (c.step_showing now i).of_publish hp
      cases hanswers (.wakeAt due) (List.mem_append_right _ List.mem_cons_self)
    | _ => rfl
  rw [hshown, hnone]
  rfl

theorem Reachable.timing_eq {timing : Timing} (h : x.Reachable timing) {c : Controller}
    (hc : x.controller = some c) : c.timing = timing ∧ c.poll.interval = timing.pollInterval := by
  have step {y : Executor} {now : Nat} {i : Input} {c : Controller}
      (ih : ∀ {c}, y.controller = some c →
        c.timing = timing ∧ c.poll.interval = timing.pollInterval)
      (hc : (y.handle now i).controller = some c) :
      c.timing = timing ∧ c.poll.interval = timing.pollInterval := by
    obtain ⟨d, hd, rfl, -⟩ := handle_alive hc
    obtain ⟨htiming, hinterval⟩ := d.step_timing now i
    rw [htiming, hinterval]
    exact ih hd
  induction h generalizing c with
  | start =>
    cases hc
    exact ⟨rfl, rfl⟩
  | handle now i _ ih => exact step ih hc
  | @issue x now command _ ih =>
    cases hx : x.controller with
    | none =>
      rw [issue_none hx] at hc
      cases hx.symm.trans hc
    | some d =>
      rw [issue_some (by simp [hx])] at hc
      exact step (y := x.enlist command) ih hc
  | take _ ih => exact ih hc
  | @kill x _ ih => cases x.controller_kill.symm.trans hc

theorem isCounted_eq_false_iff {t : Nat} :
    Instant.isCounted t = false ↔ 2 ^ 63 * Span.nanosPerSecond ≤ t := by
  have hsize : UInt64.size / 2 = 2 ^ 63 := rfl
  rw [Instant.isCounted, decide_eq_false_iff_not, Nat.not_lt, hsize,
    Nat.le_div_iff_mul_le (by decide)]

/-- Whatever the settings are, an input stops the controller exactly if it takes a poll, or finds a
run active when none was, and the next poll lies 2⁶³ seconds or more from the start of the clock, or
if it is a start that is accepted and the starting phase ends so late. What is shown stays as it
was. The settings bound the interval of the polls from below and not from above. -/
theorem stops_exactly_beyond_clock {o : Overrides} {file : Option SettingsFile} {s : Settings}
    (hs : Settings.resolve o file = .ok s) (hx : x.Reachable s.timing) {c : Controller}
    (hc : x.controller = some c) (now : Nat) (i : Input) :
    250 * Instant.nanosPerMilli ≤ s.timing.pollInterval.nanos ∧
    ((x.handle now i).controller = none ↔
      ((c.polls now i = true ∨
          c.session.runActive = false ∧ (c.step now i).state.session.runActive = true) ∧
        2 ^ 63 * Span.nanosPerSecond ≤ now + s.timing.pollInterval.nanos) ∨
      ((∃ k, i = .command k .start) ∧ c.session.submitting = false ∧
        2 ^ 63 * Span.nanosPerSecond ≤ now + s.timing.startingPhase.nanos)) ∧
    ((x.handle now i).controller = none → (x.handle now i).shown = x.shown) := by
  obtain ⟨htiming, hinterval⟩ := hx.timing_eq hc
  have hsettled := (hx.shown_eq hc).1
  have hafter := hsettled.step now i
  refine ⟨Settings.le_pollInterval_of_resolve hs, ?_, shown_of_stopped hc⟩
  rw [handle_eq_none_iff hc]
  simp only [isCounted_eq_false_iff]
  constructor
  · rintro ⟨due, hsets, hdue⟩
    cases hsets with
    | polled h => exact .inl ⟨.inl h, hinterval ▸ hdue⟩
    | turnedOn hoff hon =>
      exact .inl ⟨.inr ⟨hsettled.armed.symm.trans hoff, hafter.armed.symm.trans hon⟩,
        hinterval ▸ hdue⟩
    | started hi h => exact .inr ⟨⟨_, hi⟩, h, htiming ▸ hdue⟩
  · rintro (⟨h | ⟨hoff, hon⟩, hdue⟩ | ⟨⟨k, hi⟩, h, hdue⟩)
    · exact ⟨_, .polled h, hinterval ▸ hdue⟩
    · exact ⟨_, .turnedOn (hsettled.armed.trans hoff) (hafter.armed.trans hon), hinterval ▸ hdue⟩
    · exact ⟨_, .started hi h, htiming ▸ hdue⟩

def greatestInterval : Overrides := { pollInterval := some (.ofSeconds 18446744073709551615) }

def activeListing : Except Failure Listing :=
  .ok ⟨[⟨7, .manual, .running, none, none, 0, 0, 0, 0⟩], .null⟩

theorem stops_at_first_active_run :
    let s := Settings.merge greatestInterval {}
    let x := (Executor.start s.timing).issue 0 .bootstrap
    (x.handle 1000000 (.listed 0 1 activeListing)).controller = none ∧
      (x.handle 1000000 (.listed 0 1 activeListing)).shown = Session.snapshot {} := by
  intro s x
  have hx : x.Reachable s.timing := .issue 0 .bootstrap .start
  have hs : Settings.resolve greatestInterval none = .ok s := rfl
  obtain ⟨-, hstops, hshown⟩ :=
    stops_exactly_beyond_clock hs hx rfl 1000000 (.listed 0 1 activeListing)
  have hnone := hstops.2 (.inl ⟨.inr ⟨rfl, by decide⟩, by decide⟩)
  exact ⟨hnone, (hshown hnone).trans rfl⟩

def admitted (args : List String) : Option Timing :=
  ((CommandLine.parse {} args).toOption.bind fun i => (Program.prepare i none).toOption).map
    (·.timing)

/-- Command lines are carried out whose spans stop the controller: at the first answer that reports
an active run, and at the first start. -/
theorem admitted_spans_stop_controller :
    (∃ timing ∈ admitted ["status", "--poll-interval", "300000000000years"],
      (((Executor.start timing).issue 0 .bootstrap).handle 0
        (.listed 0 1 activeListing)).controller = none) ∧
    ∃ timing ∈ admitted ["start", "--starting-phase", "300000000000years"],
      ((Executor.start timing).issue 0 .start).controller = none := by
  refine ⟨⟨⟨.ofSeconds 9467280000000000000, .ofMillis 1500⟩, ?_, ?_⟩,
    ⟨⟨.ofSeconds 5, .ofSeconds 9467280000000000000⟩, ?_, ?_⟩⟩ <;> decide +kernel

end Executor

end RunWatch
