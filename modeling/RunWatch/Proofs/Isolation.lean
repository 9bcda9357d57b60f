import RunWatch.Proofs.History
import RunWatch.Proofs.Shift
/-!
A reset leaves nothing behind. A controller that has been reset is a new one whose counts begin
elsewhere: it answers whatever comes later as a new one would, in the same order, and a call made
before the reset does nothing when it ends, except that a start that was under way is told.
-/
set_option autoImplicit false

namespace RunWatch

/-- What is seen of an action, whoever it is for. Replies are for their callers, and waking up is
nobody's business. -/
def Action.effect? : Action → Option Happening
  | .emit e => some (.told e)
  | .publish s => some (.shown s)
  | .list .. => some .listCalled
  | .trigger .. => some .triggerCalled
  | .reply .. | .wakeAt _ => none

theorem Action.effect?_shift (p : Shift) (a : Action) : (a.shift p).effect? = a.effect? := by
  cases a <;> rfl

def Input.epoch? : Input → Option Nat
  | .listed epoch _ _ | .triggered epoch _ _ => some epoch
  | _ => none

/-- All that comes of the end of a call that was made before a reset. -/
def Input.aftermath : Input → List Action
  | .triggered _ k _ => [.reply k (Controller.localError Controller.resetMeanwhile)]
  | _ => []

inductive Later where
  /-- Something new, some time after the reset, with all its counts starting there. -/
  | fresh (offset : Nat) (i : Input)
  | late (now : Nat) (i : Input)

def Later.onReset (p : Shift) : Later → Nat × Input
  | .fresh offset i => (p.clock + offset, i.shift p)
  | .late now i => (now, i)

def Later.onNew? (p : Shift) : Later → Option (Nat × Input)
  | .fresh offset i => some (p.clock + offset, i.shift p)
  | .late .. => none

/-- Two controllers answer alike if they answer all that is new with the same actions, counts apart,
and the first of them answers the end of an earlier call as it has to. -/
inductive Alike (p q : Shift) : List Later → List (List Action) → List (List Action) → Prop where
  | nil : Alike p q [] [] []
  | fresh {offset : Nat} {i : Input} {later : List Later} {xs ys : List (List Action)}
      (as : List Action) (h : Alike p q later xs ys) :
      Alike p q (.fresh offset i :: later) (as.map (·.shift p) :: xs) (as.map (·.shift q) :: ys)
  | late {now : Nat} {i : Input} {later : List Later} {xs ys : List (List Action)}
      (h : Alike p q later xs ys) : Alike p q (.late now i :: later) (i.aftermath :: xs) ys

theorem Alike.effects {p q : Shift} {later : List Later} {xs ys : List (List Action)}
    (h : Alike p q later xs ys) :
    xs.flatten.filterMap Action.effect? = ys.flatten.filterMap Action.effect? := by
  induction h with
  | nil => rfl
  | fresh as h ih =>
    have hs (p : Shift) : (as.map (·.shift p)).filterMap Action.effect? =
        as.filterMap Action.effect? := by
      rw [List.filterMap_map]
      exact congrArg (as.filterMap ·) (funext fun a => a.effect?_shift p)
    simp only [List.flatten_cons, List.filterMap_append, hs, ih]
  | @late now i later xs ys h ih =>
    have hi : i.aftermath.filterMap Action.effect? = [] := by cases i <;> rfl
    simp only [List.flatten_cons, List.filterMap_append, hi, ih, List.nil_append]

namespace Controller

def run (c : Controller) : List (Nat × Input) → List (List Action)
  | [] => []
  | (now, i) :: rest => (c.step now i).actions :: (c.step now i).state.run rest

theorem step_late {now : Nat} {c : Controller} {i : Input} {epoch : Nat}
    (hi : i.epoch? = some epoch) (he : epoch ≠ c.epoch) : c.step now i = ⟨c, i.aftermath⟩ := by
  cases i with
  | listed e seq r =>
    obtain rfl := Option.some.inj hi
    exact step_listed_stale now c seq r he
  | triggered e k r =>
    obtain rfl := Option.some.inj hi
    exact step_triggered_stale now c k r he
  | _ => nomatch hi

theorem run_alike (p q : Shift) (c : Controller) {later : List Later}
    (hlate : ∀ now i, .late now i ∈ later → ∃ epoch, i.epoch? = some epoch ∧ epoch < p.epoch) :
    Alike p q later ((c.shift p).run (later.map (·.onReset p)))
      ((c.shift q).run (later.filterMap (·.onNew? q))) := by
  -- both runs are shifts of the run of `c`, which only what is new moves on
  induction later generalizing c with
  | nil => exact .nil
  | cons l later ih =>
    have ih (c : Controller) := ih c fun now i h => hlate now i (List.mem_cons_of_mem _ h)
    cases l with
    | fresh offset i =>
      simp only [List.map_cons, Later.onReset, Later.onNew?, run,
        List.filterMap_cons, step_shift]
      exact .fresh (c.step offset i).actions (ih (c.step offset i).state)
    | late now i =>
      obtain ⟨epoch, hi, hlt⟩ := hlate now i List.mem_cons_self
      have he : epoch ≠ (c.shift p).epoch := by
        rw [epoch_shift]
        omega
      have hs : (c.shift p).step now i = ⟨c.shift p, i.aftermath⟩ := step_late hi he
      simp only [List.map_cons, Later.onReset, Later.onNew?, run,
        List.filterMap_cons, hs]
      exact .late (ih c)

end Controller

namespace History

variable (timing : Timing)

/-- How far the counts of a controller that has been reset are ahead of those of a new one, if
further callers are numbered from `callers` on. -/
def lead (past : History) (now : Nat) (callers : Caller) : Shift where
  clock := now
  epoch := (past.controller timing).epoch + 1
  seq := (past.controller timing).fetches.issued
  caller := callers

/-- A controller that has been reset is a new one, shifted. -/
theorem reset_eq (past : History) (now : Nat) (k callers : Caller) :
    ((past.controller timing).step now (.command k .reset)).state =
      ({ timing } : Controller).shift (past.lead timing now callers) := by
  obtain ⟨ht, hi⟩ := timing_controller timing past
  rw [Controller.step_reset]
  simp [Controller.shift, lead, Session.shift, Ticker.shift, Ticker.disarm, Deadline.shift,
    Deadline.clear, Fetches.shift, ht, hi]

/-- After a reset a controller answers alike with a new one, whatever it did before and whichever
calls from before end when, and so the same is seen of both. -/
theorem reset_isolates (past : History) (now since : Nat) (k callers others : Caller)
    {later : List Later}
    (hlate : ∀ now i, .late now i ∈ later → ∃ r ∈ past.requests timing, i.Ends r) :
    let p := past.lead timing now callers
    let q : Shift := { clock := since, caller := others }
    let told := ((past.controller timing).step now (.command k .reset)).state.run
      (later.map (·.onReset p))
    let told' := ({ timing } : Controller).run (later.filterMap (·.onNew? q))
    Alike p q later told told' ∧
      told.flatten.filterMap Action.effect? = told'.flatten.filterMap Action.effect? := by
  intro p q told told'
  have hq : ({ timing } : Controller) = ({ timing } : Controller).shift q := rfl
  have h : Alike p q later told told' := by
    simp only [told, told']
    rw [reset_eq timing past now k callers, hq]
    refine Controller.run_alike p q _ fun now i hi => ?_
    obtain ⟨r, hr, hend⟩ := hlate now i hi
    cases hend with
    | listed => exact ⟨_, rfl, Nat.lt_succ_of_le (epoch_le_of_mem timing hr rfl)⟩
    | triggered => exact ⟨_, rfl, Nat.lt_succ_of_le (epoch_le_of_mem timing hr rfl)⟩
  exact ⟨h, h.effects⟩

/-- A start and a listing are under way when the reset comes, and both end while a new listing with
the same number is. -/
theorem reset_isolates_calls_under_way :
    let past : History := [(5, .command 1 .start), (0, .command 0 .sync)]
    let old : Run := ⟨7, .manual, .running, none, none, 0, 0, 0, 0⟩
    let later : List Later := [
      .fresh 1 (.command 0 .sync),
      .late 120 (.triggered 0 1 (.error (.conflict (some 8) "busy" none))),
      .late 130 (.listed 0 1 (.ok ⟨[old], .null⟩)),
      .fresh 40 (.listed 0 1 (.ok ⟨[], .null⟩))]
    (∀ now i, .late now i ∈ later → ∃ r ∈ past.requests {}, i.Ends r) ∧
      Alike (past.lead {} 100 3) { clock := 50 } later
        (((past.controller {}).step 100 (.command 2 .reset)).state.run
          (later.map (·.onReset (past.lead {} 100 3))))
        (({ timing := {} } : Controller).run (later.filterMap (·.onNew? { clock := 50 }))) := by
  intro past old later
  have hlate : ∀ now i, .late now i ∈ later → ∃ r ∈ past.requests {}, i.Ends r := by
    intro now i h
    have ht : .trigger 0 1 ∈ past.requests {} := by decide
    have hl : .list 0 1 ∈ past.requests {} := by decide
    simp only [later, List.mem_cons, Later.late.injEq, reduceCtorEq, false_or, List.not_mem_nil,
      or_false] at h
    rcases h with ⟨-, rfl⟩ | ⟨-, rfl⟩
    · exact ⟨_, ht, .triggered _⟩
    · exact ⟨_, hl, .listed _⟩
  exact ⟨hlate, (reset_isolates {} past 100 50 2 3 0 hlate).1⟩

end History

end RunWatch
