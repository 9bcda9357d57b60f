import RunWatch.Proofs.Step
set_option autoImplicit false

namespace RunWatch

namespace Session

def holding (held : Option Run) (run : Run) : Option Run :=
  if changeTo held run = .stale then held else some run

/-- The run that came to its end between two moments at which runs were held. -/
def completion? : Option Run → Option Run → Option Run
  | some held, some run =>
    if held.id = run.id ∧ held.isTerminal = false ∧ run.isTerminal = true then some run else none
  | _, _ => none

theorem completion?_self (held : Option Run) : completion? held held = none := by
  cases held with
  | none => rfl
  | some run => cases h : run.isTerminal <;> simp [completion?, h]

theorem completion?_none (held : Option Run) : completion? held none = none := by
  cases held <;> rfl

theorem changeTo_eq_completed_iff (held : Option Run) (run : Run) :
    changeTo held run = .completed ↔ completion? held (some run) = some run := by
  cases held with
  | none => simp [changeTo, completion?]
  | some h =>
    simp only [changeTo, completion?]
    by_cases hlt : run.id < h.id
    · have hne : h.id ≠ run.id := fun he => UInt64.lt_irrefl _ (he ▸ hlt)
      simp [hlt, hne]
    · by_cases heq : h = run
      · subst heq
        cases ht : h.isTerminal <;> simp
      · by_cases hc : h.id = run.id ∧ h.isTerminal = false ∧ run.isTerminal = true <;>
          simp [hlt, heq, hc]

theorem eq_of_unchanged {held : Option Run} {run : Run} (h : changeTo held run = .unchanged) :
    held = some run := by
  unfold changeTo at h
  split at h
  · nomatch h
  · split at h
    · nomatch h
    · split at h
      · next he => rw [he]
      · split at h <;> nomatch h

theorem completion?_holding (held : Option Run) (run : Run) :
    completion? held (holding held run) =
      if changeTo held run = .completed then some run else none := by
  by_cases hs : changeTo held run = .stale
  · simp [holding, hs, completion?_self]
  · rw [holding, if_neg hs]
    split
    · next hc => exact (changeTo_eq_completed_iff held run).1 hc
    · next hc =>
      rw [changeTo_eq_completed_iff] at hc
      cases held with
      | none => rfl
      | some h =>
        simp only [completion?] at hc ⊢
        split at hc
        · exact absurd rfl hc
        · next hn => rw [if_neg hn]

variable (s : Session)

@[simp] theorem latestRun_hold (run : Run) : (s.hold run).latestRun = holding s.latestRun run := by
  unfold hold holding
  split <;> rfl

theorem latestRun_applyListing (l : Listing) (seq : Nat) :
    (s.applyListing l seq).1.latestRun =
      (l.runs.head?.map (holding s.latestRun)).getD s.latestRun := by
  unfold applyListing
  cases l.runs with
  | nil => rfl
  | cons run rest =>
    dsimp only
    split <;> simp

theorem change_applyListing (l : Listing) (seq : Nat) :
    (s.applyListing l seq).2 = (l.runs.head?.map (changeTo s.latestRun)).getD .unchanged := by
  unfold applyListing
  cases l.runs with
  | nil => rfl
  | cons run rest =>
    dsimp only
    split <;> rfl

theorem latestRun_applyStarted (r : Started) :
    (s.applyStarted r).1.latestRun = holding s.latestRun r.run := by
  unfold applyStarted
  dsimp only
  split <;> simp

theorem change_applyStarted (r : Started) :
    (s.applyStarted r).2 = changeTo s.latestRun r.run := by
  unfold applyStarted
  dsimp only
  split <;> rfl

@[simp] theorem latestRun_follow (p : Ticker) : (s.follow p).latestRun = s.latestRun := by
  rw [follow_eq]
  rfl

@[simp] theorem latestRun_endSubmission : s.endSubmission.latestRun = s.latestRun := rfl

@[simp] theorem latestRun_markConflict (issued : Nat) :
    (s.markConflict issued).latestRun = s.latestRun := rfl

@[simp] theorem latestRun_afterRefusal (f : Failure) :
    (s.afterRefusal f).latestRun = s.latestRun := by cases f <;> rfl

@[simp] theorem latestRun_markLikelyRunning : s.markLikelyRunning.latestRun = s.latestRun := by
  unfold markLikelyRunning
  split <;> rfl

end Session

namespace Controller

/-- The run that an input brings: the first of a listing, or the one that a start has started, in an
answer of this epoch. -/
def brings? (c : Controller) : Input → Option Run
  | .listed epoch _ (.ok l) => if epoch = c.epoch then l.runs.head? else none
  | .triggered epoch _ (.ok r) => if epoch = c.epoch then some r.run else none
  | _ => none

/-- Nothing but a reset and a run that is brought changes the run that is held. -/
theorem step_latestRun (now : Nat) (c : Controller) (i : Input) :
    (c.step now i).state.session.latestRun = if i.isReset then none
      else ((c.brings? i).map (Session.holding c.session.latestRun)).getD c.session.latestRun := by
  induction i using input_cases now c with
  | fetch k cmd hc =>
    rw [step_fetch now c k hc]
    rcases hc with rfl | rfl <;> rfl
  | startRefused k hs =>
    rw [step_start_refused now c k hs]
    rfl
  | start k hs =>
    rw [step_start now c k hs]
    rfl
  | reset k =>
    rw [step_reset]
    rfl
  | listedStale epoch seq r he =>
    rw [step_listed_stale now c seq r he]
    cases r <;> simp [brings?, he, Input.isReset]
  | listed seq r =>
    rw [step_listed]
    cases r with
    | ok l => simp [brings?, Input.isReset, Session.afterListed, Session.latestRun_applyListing]
    | error f => simp [brings?, Input.isReset, Session.afterListed, Session.recordFailure]
  | triggeredStale epoch k r he =>
    rw [step_triggered_stale now c k r he]
    cases r <;> simp [brings?, he, Input.isReset]
  | started k r =>
    rw [step_started]
    simp [brings?, Input.isReset, Session.latestRun_applyStarted]
  | conflict k runId message requestId =>
    rw [step_conflict]
    simp [brings?, Input.isReset]
  | refused k f hf =>
    rw [step_refused now c k hf]
    simp [brings?, Input.isReset]
  | pollEarly hd =>
    rw [step_pollDue_early now c hd]
    rfl
  | poll hd =>
    rw [step_pollDue now c hd]
    rfl
  | startingEarly hd =>
    rw [step_startingDue_early now c hd]
    rfl
  | starting hd =>
    rw [step_startingDue now c hd]
    simp [brings?, Input.isReset]

theorem brings?_of_completion {now : Nat} {c : Controller} {i : Input} {run : Run}
    (h : Session.completion? c.session.latestRun (c.step now i).state.session.latestRun =
      some run) :
    c.brings? i = some run ∧ Session.changeTo c.session.latestRun run = .completed := by
  rw [step_latestRun] at h
  split at h
  · simp [Session.completion?_none] at h
  · cases hb : c.brings? i with
    | none => simp [hb, Session.completion?_self] at h
    | some run' =>
      rw [hb, Option.map_some, Option.getD_some, Session.completion?_holding] at h
      split at h
      · next hc =>
        obtain rfl := Option.some.inj h
        exact ⟨rfl, hc⟩
      · nomatch h

end Controller

end RunWatch
