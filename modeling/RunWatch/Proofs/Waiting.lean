import RunWatch.Timer
/-!
Waiting for timers. A timer is told to go off or not to, and waited for, one thing after the other
under a clock of whole milliseconds; a wait ends when the timer fires or is given up. Main
statement: a wait that is given up is as good as none, and a wait fires at the later of its own
beginning and the instant at which the timer is due, which can be read off what happened before.
-/
set_option autoImplicit false

namespace RunWatch

namespace Instant

theorem ofMillis_le_iff {m n : Nat} : ofMillis m ≤ ofMillis n ↔ m ≤ n := by
  simp only [ofMillis, nanosPerMilli]
  omega

theorem max_ofMillis (m n : Nat) : max (ofMillis m) (ofMillis n) = ofMillis (max m n) := by
  simp only [ofMillis, nanosPerMilli]
  omega

@[simp] theorem millis_ofMillis (n : Nat) : millis (ofMillis n) = n := by
  simp only [millis, ofMillis, nanosPerMilli]
  omega

theorem ofMillis_add_nanos (t n : Nat) :
    ofMillis t + (Span.ofMillis n).nanos = ofMillis (t + n) := by
  simp only [Span.ofMillis, ofMillis, nanosPerMilli]
  omega

theorem firing?_later {due : Option Nat} {now soon : Nat} (h : firing? due now soon = none)
    (hle : now ≤ soon) (limit : Nat) : firing? due soon limit = firing? due now limit := by
  cases due with
  | none => rfl
  | some d =>
    have hd : soon < max now (ceilMillis d) := by
      simpa [firing?, Option.filter_eq_none_iff] using h
    have hmax : max soon (ceilMillis d) = max now (ceilMillis d) := by omega
    simp only [firing?, Option.map_some, hmax]

end Instant

/-- A kind of timer: what becomes of it when it is told something and when it fires, and how it is
waited for. -/
structure Timer (τ ω : Type) where
  tell : τ → Nat → ω → τ
  due : τ → Option Nat
  fired : τ → Nat → τ
  wait : τ → Nat → Nat → τ × Option Nat
  wait_eq : ∀ s now limit, wait s now limit =
    match Instant.firing? (due s) now limit with
    | some f => (fired s f, some f)
    | none => (s, none)

namespace Timer

structure Clocked (τ : Type) where
  timer : τ
  now : Nat

inductive Move (ω : Type) where
  | tell (order : ω)
  | wait (most : Nat)
  | idle (time : Nat)

/-- What a move brings: the timer is told something, with whether it was set before, or it fires. -/
inductive Result (ω : Type) where
  | told (order : ω) (wasSet : Bool)
  | fired
  deriving DecidableEq

variable {τ ω : Type} (k : Timer τ ω)

def step (c : Clocked τ) : Move ω → Clocked τ × Option (Nat × Result ω)
  | .tell order =>
    ({ c with timer := k.tell c.timer (Instant.ofMillis c.now) order },
      some (c.now, .told order (k.due c.timer).isSome))
  | .wait most =>
    match k.wait c.timer (Instant.ofMillis c.now) (Instant.ofMillis (c.now + most)) with
    | (timer, some f) => (⟨timer, Instant.millis f⟩, some (Instant.millis f, .fired))
    | (timer, none) => (⟨timer, c.now + most⟩, none)
  | .idle time => ({ c with now := c.now + time }, none)

def after (c : Clocked τ) (ms : List (Move ω)) : Clocked τ := ms.foldl (fun c m => (k.step c m).1) c

def record (c : Clocked τ) : List (Move ω) → List (Nat × Result ω)
  | [] => []
  | m :: ms => (k.step c m).2.toList ++ record (k.step c m).1 ms

def firing? : Nat × Result ω → Option Nat
  | (t, .fired) => some t
  | (_, .told ..) => none

def firings (c : Clocked τ) (ms : List (Move ω)) : List Nat := (k.record c ms).filterMap firing?

def firing (due : Option Nat) (now most : Nat) : Option Nat :=
  (due.map (max now)).filter (· ≤ now + most)

variable {k} {c : Clocked τ}

@[simp] theorem step_idle (time : Nat) :
    k.step c (.idle time) = ({ c with now := c.now + time }, none) := rfl

theorem step_tell (order : ω) :
    k.step c (.tell order) = ({ c with timer := k.tell c.timer (Instant.ofMillis c.now) order },
      some (c.now, .told order (k.due c.timer).isSome)) := rfl

theorem record_append (ms ns : List (Move ω)) :
    k.record c (ms ++ ns) = k.record c ms ++ k.record (k.after c ms) ns := by
  induction ms generalizing c with
  | nil => rfl
  | cons m ms ih => simp [record, after, ih, List.append_assoc]

/-- What is kept of a timer beside what has happened, step by step. -/
theorem after_invariant {σ : Type} {Inv : Clocked τ → σ → Prop} {f : σ → Nat × Result ω → σ}
    (hstep : ∀ c s m, Inv c s → Inv (k.step c m).1 ((k.step c m).2.toList.foldl f s)) {s : σ}
    (h : Inv c s) (ms : List (Move ω)) : Inv (k.after c ms) ((k.record c ms).foldl f s) := by
  induction ms generalizing c s with
  | nil => exact h
  | cons m ms ih =>
    rw [record, List.foldl_append]
    exact ih (hstep c s m h)

theorem firing?_ofMillis (due : Option Nat) (now most : Nat) :
    Instant.firing? (due.map Instant.ofMillis) (Instant.ofMillis now)
      (Instant.ofMillis (now + most)) = (firing due now most).map Instant.ofMillis := by
  cases due with
  | none => rfl
  | some d =>
    by_cases h : max now d ≤ now + most <;>
      simp [Instant.firing?, firing, Instant.max_ofMillis, Instant.ofMillis_le_iff,
        Option.filter_some, h]

theorem step_wait {due : Option Nat} (h : k.due c.timer = due.map Instant.ofMillis) (most : Nat) :
    k.step c (.wait most) =
      match firing due c.now most with
      | some f => (⟨k.fired c.timer (Instant.ofMillis f), f⟩, some (f, .fired))
      | none => (⟨c.timer, c.now + most⟩, none) := by
  simp only [step, k.wait_eq, h, firing?_ofMillis]
  cases firing due c.now most <;> simp

theorem firings_cons (m : Move ω) (ms : List (Move ω)) : k.firings c (m :: ms) =
    (k.step c m).2.toList.filterMap firing? ++ k.firings (k.step c m).1 ms :=
  List.filterMap_append

theorem le_of_firing {due : Option Nat} {now most f : Nat} (h : firing due now most = some f) :
    now ≤ f ∧ ∃ d, due = some d ∧ d ≤ f := by
  obtain ⟨hf, -⟩ := Option.filter_eq_some_iff.1 h
  obtain ⟨d, hd, rfl⟩ := Option.map_eq_some_iff.1 hf
  exact ⟨Nat.le_max_left now d, d, hd, Nat.le_max_right now d⟩

theorem step_wait_cases (c : Clocked τ) (most : Nat) :
    k.step c (.wait most) = k.step c (.idle most) ∨
      ∃ t f, k.step c (.wait most) = (⟨k.fired c.timer t, f⟩, some (f, .fired)) := by
  simp only [step, k.wait_eq]
  cases Instant.firing? (k.due c.timer) (Instant.ofMillis c.now)
    (Instant.ofMillis (c.now + most)) with
  | none => exact .inl rfl
  | some f => exact .inr ⟨f, _, rfl⟩

theorem firing?_of_given_up {a : Nat} (h : (k.step c (.wait a)).2 = none) :
    Instant.firing? (k.due c.timer) (Instant.ofMillis c.now) (Instant.ofMillis (c.now + a)) =
      none := by
  simp only [step, k.wait_eq] at h
  split at h
  · cases h
  · next heq =>
    split at heq
    · cases heq
    · assumption

theorem step_of_given_up {a : Nat} (h : (k.step c (.wait a)).2 = none) :
    k.step c (.wait a) = k.step c (.idle a) := by
  rcases step_wait_cases (k := k) c a with hs | ⟨t, f, hs⟩
  · exact hs
  · rw [hs] at h
    cases h

theorem step_wait_of_given_up {a : Nat} (h : (k.step c (.wait a)).2 = none) (b : Nat) :
    k.step (k.step c (.wait a)).1 (.wait b) = k.step c (.wait (a + b)) := by
  have hfiring := Instant.firing?_later (firing?_of_given_up h)
    (Instant.ofMillis_le_iff.2 (Nat.le_add_right c.now a))
  rw [step_of_given_up h]
  simp only [step, k.wait_eq, hfiring, Nat.add_assoc]

/-- What is left to do after a wait of some time has been put in: the time is taken from idling or
from another wait, unless it is none. -/
inductive Yields (a : Nat) : List (Move ω) → List (Move ω) → Prop where
  | idle (b : Nat) (ms : List (Move ω)) : Yields a (.idle (a + b) :: ms) (.idle b :: ms)
  | wait (b : Nat) (ms : List (Move ω)) : Yields a (.wait (a + b) :: ms) (.wait b :: ms)
  | none (ms : List (Move ω)) (h : a = 0) : Yields a ms ms

theorem record_of_given_up {a : Nat} {ms ns : List (Move ω)} (h : (k.step c (.wait a)).2 = none)
    (hy : Yields a ms ns) : k.record c (.wait a :: ns) = k.record c ms := by
  cases hy with
  | idle b ms => simp [record, step_of_given_up h, Nat.add_assoc]
  | wait b ms => simp [record, h, step_wait_of_given_up h]
  | none ms h0 =>
    subst h0
    simp [record, step_of_given_up h]

theorem firings_eq_nil {ms : List (Move ω)} (h : k.due c.timer = none)
    (hunset : ∀ order, .tell order ∈ ms →
      ∀ s now, k.due s = none → k.due (k.tell s now order) = none) :
    k.firings c ms = [] := by
  induction ms generalizing c with
  | nil => rfl
  | cons m ms ih =>
    have hrest : ∀ order, .tell order ∈ ms →
        ∀ s now, k.due s = none → k.due (k.tell s now order) = none :=
      fun order ho => hunset order (List.mem_cons_of_mem _ ho)
    cases m with
    | tell order => exact ih (hunset order List.mem_cons_self _ _ h) hrest
    | wait most =>
      have hdue : k.due c.timer = (none : Option Nat).map Instant.ofMillis := h
      rw [firings_cons, step_wait hdue]
      exact ih h hrest
    | idle time => exact ih h hrest

end Timer

inductive Ticker.Order where
  | arm
  | disarm
  deriving DecidableEq

inductive Deadline.Order where
  | set (after : Nat)
  | clear
  deriving DecidableEq

namespace Timer

def ticker : Timer Ticker Ticker.Order where
  tell s now
    | .arm => s.arm now
    | .disarm => s.disarm
  due := Ticker.due
  fired := Ticker.fire
  wait := Ticker.wait
  wait_eq _ _ _ := rfl

def deadline : Timer Deadline Deadline.Order where
  tell s now
    | .set after => s.set now (.ofMillis after)
    | .clear => s.clear
  due := Deadline.due
  fired s _ := s.clear
  wait := Deadline.wait
  wait_eq _ _ _ := rfl

def newTicker (interval : Nat) : Clocked Ticker := ⟨{ interval := .ofMillis interval }, 0⟩

def newDeadline : Clocked Deadline := ⟨{}, 0⟩

/-- When the next tick is due: an interval after the ticker was armed or ticked last, unless it was
disarmed since. Arming it once more changes nothing. -/
def tickDue (interval : Nat) (due : Option Nat) : Nat × Result Ticker.Order → Option Nat
  | (t, .told .arm false) | (t, .fired) => some (t + interval)
  | (_, .told .arm true) => due
  | (_, .told .disarm _) => none

/-- When a deadline is due: as it was set last, unless it was cleared or has fired since. -/
def deadlineDue : Nat × Result Deadline.Order → Option Nat
  | (t, .told (.set after) _) => some (t + after)
  | (_, .told .clear _) | (_, .fired) => none

theorem tickDue_step {interval : Nat} (c : Clocked Ticker) (due : Option Nat)
    (m : Move Ticker.Order) (h : c.timer = ⟨.ofMillis interval, due.map Instant.ofMillis⟩) :
    (ticker.step c m).1.timer = ⟨.ofMillis interval,
      ((ticker.step c m).2.toList.foldl (tickDue interval) due).map Instant.ofMillis⟩ := by
  cases m with
  | tell order =>
    cases order with
    | arm => cases due <;> simp [step_tell, ticker, h, Ticker.arm, Ticker.isArmed, tickDue,
        Instant.ofMillis_add_nanos]
    | disarm => simp [step_tell, ticker, h, Ticker.disarm, tickDue]
  | wait most =>
    have hdue : ticker.due c.timer = due.map Instant.ofMillis := congrArg Ticker.due h
    rw [step_wait hdue]
    cases firing due c.now most with
    | none => exact h
    | some f => simp [ticker, h, Ticker.fire, tickDue, Instant.ofMillis_add_nanos]
  | idle time => exact h

theorem deadlineDue_step (c : Clocked Deadline) (due : Option Nat) (m : Move Deadline.Order)
    (h : c.timer = ⟨due.map Instant.ofMillis⟩) : (deadline.step c m).1.timer =
      ⟨((deadline.step c m).2.toList.foldl (fun _ => deadlineDue) due).map Instant.ofMillis⟩ := by
  cases m with
  | tell order =>
    cases order <;> simp [step_tell, deadline, Deadline.set, Deadline.clear, deadlineDue,
      Instant.ofMillis_add_nanos]
  | wait most =>
    have hdue : deadline.due c.timer = due.map Instant.ofMillis := congrArg Deadline.due h
    rw [step_wait hdue]
    cases firing due c.now most with
    | none => exact h
    | some f => simp [deadline, Deadline.clear, deadlineDue]
  | idle time => exact h

theorem le_of_mem_firings {interval t : Nat} {c : Clocked Ticker} {due : Option Nat}
    (h : c.timer = ⟨.ofMillis interval, due.map Instant.ofMillis⟩) (hdue : ∀ d ∈ due, t ≤ d)
    (hnow : t ≤ c.now + interval) (ms : List (Move Ticker.Order)) :
    ∀ f ∈ ticker.firings c ms, t ≤ f := by
  induction ms generalizing c due with
  | nil => simp [firings, record]
  | cons m ms ih =>
    have hnext := ih (tickDue_step c due m h)
    rw [firings_cons]
    cases m with
    | tell order =>
      refine hnext ?_ hnow
      cases order with
      | arm =>
        cases hs : (ticker.due c.timer).isSome with
        | true => simpa [step_tell, tickDue, hs] using hdue
        | false => simpa [step_tell, tickDue, hs] using hnow
      | disarm => simp [step_tell, tickDue]
    | wait most =>
      have hw : ticker.due c.timer = due.map Instant.ofMillis := congrArg Ticker.due h
      rw [step_wait hw] at hnext ⊢
      cases hf : firing due c.now most with
      | none =>
        rw [hf] at hnext
        exact hnext hdue (by simp only; omega)
      | some f =>
        obtain ⟨hle, d, hd, hdf⟩ := le_of_firing hf
        have htf : t ≤ f := Nat.le_trans (hdue d hd) hdf
        rw [hf] at hnext
        have hrest := hnext (by simp [tickDue]; omega) (by simp only; omega)
        simpa [firing?, htf] using hrest
    | idle time => exact hnext hdue (by simp only [step_idle]; omega)

theorem pairwise_ticks {interval : Nat} {c : Clocked Ticker} (due : Option Nat)
    (h : c.timer = ⟨.ofMillis interval, due.map Instant.ofMillis⟩)
    (ms : List (Move Ticker.Order)) :
    (ticker.firings c ms).Pairwise fun f f' => f + interval ≤ f' := by
  induction ms generalizing c due with
  | nil => exact .nil
  | cons m ms ih =>
    have hafter := tickDue_step c due m h
    have hrest := ih _ hafter
    rw [firings_cons]
    cases m with
    | tell order => exact hrest
    | wait most =>
      have hw : ticker.due c.timer = due.map Instant.ofMillis := congrArg Ticker.due h
      rw [step_wait hw] at hafter hrest ⊢
      cases hf : firing due c.now most with
      | none =>
        rw [hf] at hrest
        exact hrest
      | some f =>
        -- the next tick is due an interval after this one, and no order can bring it forward
        rw [hf] at hafter hrest
        refine .cons (le_of_mem_firings hafter ?_ (Nat.le_refl _) ms) hrest
        simp [tickDue]
    | idle time => exact hrest

theorem length_firings_le_one {c : Clocked Deadline} {ms : List (Move Deadline.Order)}
    (h : ∀ time, .tell (.set time) ∉ ms) : (deadline.firings c ms).length ≤ 1 := by
  induction ms generalizing c with
  | nil => exact Nat.zero_le 1
  | cons m ms ih =>
    have hms : ∀ time, .tell (.set time) ∉ ms :=
      fun time hm => h time (List.mem_cons_of_mem _ hm)
    rw [firings_cons]
    cases m with
    | tell order => exact ih hms
    | wait most =>
      rcases step_wait_cases (k := deadline) c most with hs | ⟨t, f, hs⟩
      · rw [hs]
        exact ih hms
      · -- once it has fired it is not due again, as no order sets it
        have hnone : deadline.firings ⟨deadline.fired c.timer t, f⟩ ms = [] := by
          refine firings_eq_nil rfl fun order ho => ?_
          cases order with
          | set time => exact absurd ho (hms time)
          | clear => exact fun _ _ _ => rfl
        rw [hs, hnone]
        exact Nat.le_refl 1
    | idle time => exact ih hms

/-- A wait that is given up before the timer is due leaves no trace: to wait for some time and then
to go on, be it idling or with another wait, is to idle or to wait for all of the time at once. A
wait fires at the later of its beginning and the instant at which the timer is due, if it is not
given up by then; that instant follows from what happened before. So ticks keep their interval, a
ticker that is disarmed and a deadline that is cleared do not fire, and a deadline fires once at
most for each time that it is set. -/
theorem waits_leave_no_trace (interval : Nat) :
    (∀ (c : Clocked Ticker) pre ms ns a, (ticker.step (ticker.after c pre) (.wait a)).2 = none →
      Yields a ms ns → ticker.record c (pre ++ .wait a :: ns) = ticker.record c (pre ++ ms)) ∧
    (∀ (c : Clocked Deadline) pre ms ns a,
      (deadline.step (deadline.after c pre) (.wait a)).2 = none →
      Yields a ms ns → deadline.record c (pre ++ .wait a :: ns) = deadline.record c (pre ++ ms)) ∧
    (∀ pre most,
      let c := ticker.after (newTicker interval) pre
      let due := (ticker.record (newTicker interval) pre).foldl (tickDue interval) none
      (ticker.step c (.wait most)).2 = (firing due c.now most).map (·, .fired)) ∧
    (∀ pre most,
      let c := deadline.after newDeadline pre
      let due := (deadline.record newDeadline pre).foldl (fun _ => deadlineDue) none
      (deadline.step c (.wait most)).2 = (firing due c.now most).map (·, .fired)) ∧
    (∀ ms, (ticker.firings (newTicker interval) ms).Pairwise fun f f' => f + interval ≤ f') ∧
    (∀ c since, .tell .arm ∉ since → ticker.firings c (.tell .disarm :: since) = []) ∧
    (∀ c since, (∀ time, .tell (.set time) ∉ since) →
      deadline.firings c (.tell .clear :: since) = [] ∧
        (deadline.firings c since).length ≤ 1) := by
  refine ⟨fun c pre ms ns a h hy => ?_, fun c pre ms ns a h hy => ?_, fun pre most => ?ticks,
    fun pre most => ?deadline, pairwise_ticks none rfl, fun c since h => ?disarmed,
    fun c since h => ⟨?cleared, length_firings_le_one h⟩⟩
  · rw [record_append, record_append, record_of_given_up h hy]
  · rw [record_append, record_append, record_of_given_up h hy]
  case ticks =>
    intro c due
    have hdue : ticker.due c.timer = due.map Instant.ofMillis :=
      congrArg Ticker.due <|
        after_invariant tickDue_step (c := newTicker interval) (s := none) rfl pre
    rw [step_wait hdue]
    cases firing due c.now most <;> rfl
  case deadline =>
    intro c due
    have hdue : deadline.due c.timer = due.map Instant.ofMillis :=
      congrArg Deadline.due <|
        after_invariant deadlineDue_step (c := newDeadline) (s := none) rfl pre
    rw [step_wait hdue]
    cases firing due c.now most <;> rfl
  case disarmed =>
    refine firings_eq_nil (c := (ticker.step c (.tell .disarm)).1) rfl fun order ho => ?_
    cases order with
    | arm => exact absurd ho h
    | disarm => exact fun _ _ _ => rfl
  case cleared =>
    refine firings_eq_nil (c := (deadline.step c (.tell .clear)).1) rfl fun order ho => ?_
    cases order with
    | set time => exact absurd ho (h time)
    | clear => exact fun _ _ _ => rfl

/-- A ticker of ten milliseconds is armed and waited for in two pieces, and its second tick is taken
late; a deadline is set twice before it fires. -/
theorem waits_leave_no_trace_in_pieces :
    let pieces : List (Move Ticker.Order) :=
      [.tell .arm, .wait 4, .wait 6, .idle 25, .wait 0, .wait 9]
    let whole : List (Move Ticker.Order) := [.tell .arm, .wait 10, .idle 25, .wait 0, .wait 9]
    let set : List (Move Deadline.Order) := [.tell (.set 5), .wait 3, .tell (.set 5)]
    (ticker.step (ticker.after (newTicker 10) [.tell .arm]) (.wait 4)).2 = none ∧
      ticker.record (newTicker 10) pieces = ticker.record (newTicker 10) whole ∧
      ticker.firings (newTicker 10) whole = [10, 35] ∧
      (deadline.step (deadline.after newDeadline set) (.wait 7)).2 = some (8, .fired) ∧
      deadline.firings newDeadline [.tell .clear, .wait 7] = [] := by
  intro pieces whole set
  obtain ⟨hticker, -, -, hdeadline, -, -, hunset⟩ := waits_leave_no_trace 10
  have hgiven : (ticker.step (ticker.after (newTicker 10) [.tell .arm]) (.wait 4)).2 = none := by
    decide
  refine ⟨hgiven, ?_, by decide, ?_, ?_⟩
  · exact hticker _ [.tell .arm] (.wait (4 + 6) :: [.idle 25, .wait 0, .wait 9]) _ 4 hgiven
      (.wait 6 _)
  · rw [hdeadline set 7]
    decide
  · exact (hunset newDeadline [.wait 7] (by simp)).1

end Timer

end RunWatch
