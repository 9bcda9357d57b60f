import RunWatch.Proofs.History
import RunWatch.Proofs.Holding
import RunWatch.Proofs.Polling
/-!
Events say all there is to say of the run and of polling. Whoever puts together the events told so
far knows, whenever a snapshot is shown, the run and the polling flag that it shows. Polling is told
to start or to stop only if that has not been told already, and the end of a run is told exactly
when the run that is held comes to its end, right after the run itself.
-/
set_option autoImplicit false

namespace RunWatch

/-- What someone knows of the run and of polling who is told of events only. -/
structure Heard where
  run : Option Run := none
  polling : Bool := false
  deriving DecidableEq, Repr

def Session.heard (s : Session) : Heard := ⟨s.latestRun, s.polling⟩

def Snapshot.heard (s : Snapshot) : Heard := ⟨s.latestRun, s.polling⟩

def Action.isPlain : Action → Bool
  | .publish _ | .emit (.runUpdated _) | .emit (.runCompleted _) | .emit .pollingStarted
  | .emit .pollingStopped | .emit (.notice .reset) => false
  | _ => true

theorem Action.isPlain_of_isAnswer {a : Action} (h : a.isAnswer = true) : a.isPlain = true := by
  cases a with
  | emit e => nomatch h
  | publish s => nomatch h
  | _ => rfl

def Action.completed? : Action → Option Run
  | .emit (.runCompleted run) => some run
  | _ => none

@[simp] theorem Action.completed?_notice (n : Notice) :
    (Action.emit (.notice n)).completed? = none := rfl

@[simp] theorem Action.completed?_publish (s : Snapshot) :
    (Action.publish s).completed? = none := rfl

@[simp] theorem Action.completed?_reply (k : Caller) (r : Reply) :
    (Action.reply k r).completed? = none := rfl

namespace Heard

def event (h : Heard) : Event → Heard
  | .runUpdated run => { h with run := some run }
  | .pollingStarted => { h with polling := true }
  | .pollingStopped => { h with polling := false }
  | .notice .reset => {}
  | _ => h

def action (h : Heard) : Action → Heard
  | .emit e => h.event e
  | _ => h

def after (h : Heard) (as : List Action) : Heard := as.foldl action h

theorem after_append (h : Heard) (as bs : List Action) :
    h.after (as ++ bs) = (h.after as).after bs := List.foldl_append

theorem action_of_isPlain {a : Action} (ha : a.isPlain = true) (h : Heard) : h.action a = h := by
  cases a with
  | emit e =>
    cases e with
    | notice n => cases n <;> first | rfl | nomatch ha
    | cooldownBlocked safety => rfl
    | _ => nomatch ha
  | _ => rfl

/-- What must have been told before an action, when `sent` was carried out since `h` was known. -/
structure Fits (h : Heard) (sent : List Action) (a : Action) : Prop where
  shown {s : Snapshot} (ha : a = .publish s) : h.after sent = s.heard
  started (ha : a = .emit .pollingStarted) : (h.after sent).polling = false
  stopped (ha : a = .emit .pollingStopped) : (h.after sent).polling = true
  completed {run : Run} (ha : a = .emit (.runCompleted run)) :
    ∃ before, sent = before ++ [.emit (.runUpdated run)]

theorem Fits.of_isPlain {a : Action} (ha : a.isPlain = true) (h : Heard) (sent : List Action) :
    h.Fits sent a := by
  constructor <;> intros <;> subst a <;> nomatch ha

/-- Actions that take someone from what was known to what is known then, with nothing done before
what must be told first. -/
structure Tells (h : Heard) (as : List Action) (h' : Heard) : Prop where
  after_eq : h.after as = h'
  fits {sent rest : List Action} {a : Action} (ha : as = sent ++ a :: rest) : h.Fits sent a

variable {h h' h'' : Heard} {as bs : List Action}

theorem Tells.append (ha : h.Tells as h') (hb : h'.Tells bs h'') : h.Tells (as ++ bs) h'' := by
  refine ⟨by rw [after_append, ha.after_eq, hb.after_eq], fun {sent rest a} he => ?_⟩
  have second (cs : List Action) (hs : sent = as ++ cs) (hc : bs = cs ++ a :: rest) :
      h.Fits sent a := by
    have hf := hb.fits hc
    have heq : h.after sent = h'.after cs := by rw [hs, after_append, ha.after_eq]
    refine ⟨fun e => heq ▸ hf.shown e, fun e => heq ▸ hf.started e, fun e => heq ▸ hf.stopped e,
      fun e => ?_⟩
    obtain ⟨before, rfl⟩ := hf.completed e
    exact ⟨as ++ before, by rw [hs, List.append_assoc]⟩
  rcases List.append_eq_append_iff.1 he with ⟨cs, hs, hc⟩ | ⟨cs, hs, hc⟩
  · exact second cs hs hc
  · cases cs with
    | nil => exact second [] (by simpa using hs.symm) hc.symm
    | cons c cs =>
      obtain ⟨rfl, -⟩ := List.cons.inj hc
      exact ha.fits hs

theorem tells_nil (h : Heard) : h.Tells [] h := ⟨rfl, fun he => by simp at he⟩

theorem tells_singleton {a : Action} (ha : h.Fits [] a) : h.Tells [a] (h.action a) := by
  refine ⟨rfl, fun {sent rest b} he => ?_⟩
  cases sent with
  | nil =>
    obtain ⟨rfl, -⟩ := List.cons.inj he
    exact ha
  | cons c sent => simp at he

theorem Tells.cons {a : Action} (ha : h.Fits [] a) (hb : (h.action a).Tells bs h') :
    h.Tells (a :: bs) h' := (tells_singleton ha).append hb

theorem tells_of_isPlain (h : Heard) (hp : ∀ a ∈ as, a.isPlain = true) : h.Tells as h := by
  induction as with
  | nil => exact tells_nil h
  | cons a as ih =>
    have ha := hp a List.mem_cons_self
    refine .cons (.of_isPlain ha h []) ?_
    rw [action_of_isPlain ha]
    exact ih fun b hb => hp b (List.mem_cons_of_mem _ hb)

theorem tells_publish {s : Snapshot} (hp : ∀ a ∈ as, a.isPlain = true) :
    s.heard.Tells (.publish s :: as) s.heard := by
  refine .cons ⟨fun e => ?_, nofun, nofun, nofun⟩ (tells_of_isPlain _ hp)
  rw [← Action.publish.inj e]
  rfl

theorem tells_reset (h : Heard) : h.Tells [.emit (.notice .reset)] {} :=
  tells_singleton ⟨nofun, nofun, nofun, nofun⟩

theorem tells_updated (h : Heard) (run : Run) :
    h.Tells [.emit (.runUpdated run)] { h with run := some run } :=
  tells_singleton ⟨nofun, nofun, nofun, nofun⟩

theorem tells_completed (h : Heard) (run : Run) :
    h.Tells [.emit (.runUpdated run), .emit (.runCompleted run)] { h with run := some run } := by
  refine ⟨rfl, fun {sent rest a} he => ?_⟩
  cases sent with
  | nil =>
    obtain ⟨rfl, -⟩ := List.cons.inj he
    exact ⟨nofun, nofun, nofun, nofun⟩
  | cons b sent =>
    obtain ⟨rfl, hs⟩ := List.cons.inj he
    cases sent with
    | nil =>
      obtain ⟨rfl, -⟩ := List.cons.inj hs
      exact ⟨nofun, nofun, nofun, fun e => ⟨[], by cases e; rfl⟩⟩
    | cons c sent => simp at hs

theorem tells_followActions (held : Option Run) (p : Ticker) (now : Nat) (active : Bool) :
    Tells ⟨held, p.isArmed⟩ (p.followActions now active) ⟨held, active⟩ := by
  unfold Ticker.followActions
  split
  · next he =>
    rw [he]
    exact tells_nil _
  · next hne =>
    cases hp : p.isArmed with
    | false =>
      obtain rfl : active = true := by simpa [hp] using hne
      exact .cons (.of_isPlain rfl _ _) (tells_singleton ⟨nofun, fun _ => rfl, nofun, nofun⟩)
    | true =>
      obtain rfl : active = false := by simpa [hp] using hne
      exact tells_singleton ⟨nofun, nofun, fun _ => rfl, nofun⟩

theorem tells_heldEvents {s s' : Session} {change : RunChange} (brought : Option Run)
    (hp : s'.polling = s.polling)
    (hl : s'.latestRun = (brought.map (Session.holding s.latestRun)).getD s.latestRun)
    (hc : change = (brought.map (Session.changeTo s.latestRun)).getD .unchanged) :
    s.heard.Tells ((Turn.heldEvents s' change).map .emit) s'.heard := by
  have hs' : s'.heard = { s.heard with run := s'.latestRun } := by simp [Session.heard, hp]
  have silent (hs : s'.latestRun = s.latestRun) : s'.heard = s.heard := by rw [hs', hs]; rfl
  have none_told (hn : change = .unchanged ∨ change = .stale) : Turn.heldEvents s' change = [] := by
    unfold Turn.heldEvents
    rcases hn with rfl | rfl <;> cases s'.latestRun <;> rfl
  cases brought with
  | none =>
    rw [none_told (.inl hc), silent hl]
    exact tells_nil _
  | some run =>
    simp only [Option.map_some, Option.getD_some] at hl hc
    rw [Session.holding, ← hc] at hl
    cases change with
    | stale =>
      rw [none_told (.inr rfl), silent (by simpa using hl)]
      exact tells_nil _
    | unchanged =>
      have hrun : s.latestRun = some run := Session.eq_of_unchanged hc.symm
      rw [none_told (.inl rfl), silent (by simpa [hrun] using hl)]
      exact tells_nil _
    | updated =>
      have hrun : s'.latestRun = some run := by simpa using hl
      rw [hs', Turn.heldEvents, hrun]
      exact tells_updated _ run
    | completed =>
      have hrun : s'.latestRun = some run := by simpa using hl
      rw [hs', Turn.heldEvents, hrun]
      exact tells_completed _ run

theorem tells_followed {s : Session} {p : Ticker} (hp : s.polling = p.isArmed) (now : Nat)
    (has : ∀ a ∈ as, a.isPlain = true) :
    s.heard.Tells (p.followActions now s.runActive ++ .publish (s.follow p).snapshot :: as)
      (s.follow p).heard := by
  have hf : (s.follow p).snapshot.heard = ⟨s.latestRun, s.runActive⟩ := by
    simp [Snapshot.heard, Session.snapshot, Session.polling_follow hp]
  have hs : s.heard = ⟨s.latestRun, p.isArmed⟩ := by rw [Session.heard, hp]
  have ht := tells_publish (s := (s.follow p).snapshot) has
  rw [hf] at ht
  rw [hs]
  exact (tells_followActions _ p now _).append (hf ▸ ht)

end Heard

theorem completed?_followActions (p : Ticker) (now : Nat) (active : Bool) :
    (p.followActions now active).filterMap Action.completed? = [] := by
  unfold Ticker.followActions
  split
  · rfl
  · split <;> rfl

theorem completed?_heldEvents {s s' : Session} {change : RunChange} (brought : Option Run)
    (hl : s'.latestRun = (brought.map (Session.holding s.latestRun)).getD s.latestRun)
    (hc : change = (brought.map (Session.changeTo s.latestRun)).getD .unchanged) :
    ((Turn.heldEvents s' change).map .emit).filterMap Action.completed? =
      (Session.completion? s.latestRun s'.latestRun).toList := by
  cases brought with
  | none =>
    rw [Option.map_none, Option.getD_none] at hl hc
    rw [hc, hl, Session.completion?_self, Turn.heldEvents]
    cases s'.latestRun <;> rfl
  | some run =>
    simp only [Option.map_some, Option.getD_some] at hl hc
    rw [hl, Session.completion?_holding, ← hc, Turn.heldEvents, hl, Session.holding, ← hc]
    cases change with
    | stale => cases s.latestRun <;> rfl
    | _ => rfl

namespace Controller

/-- What a step tells, to someone who knows what was so before it, is what is so after it. -/
theorem Settled.step_tells {c : Controller} (h : c.Settled) (now : Nat) (i : Input) :
    c.session.heard.Tells (c.step now i).actions (c.step now i).state.session.heard := by
  have hp : c.session.polling = c.poll.isArmed := h.polling.trans h.armed.symm
  induction i using input_cases now c with
  | fetch k cmd hc =>
    rw [step_fetch now c k hc]
    exact Heard.tells_of_isPlain _ fun a ha =>
      Action.isPlain_of_isAnswer (isAnswer_enrollCalls _ _ a ha)
  | startRefused k hs =>
    rw [step_start_refused now c k hs]
    exact Heard.tells_of_isPlain _ (by simp [Action.isPlain])
  | start k hs =>
    rw [step_start now c k hs]
    exact .append (Heard.tells_of_isPlain _ (by simp [Action.isPlain]))
      (Heard.tells_publish (s := c.session.beginSubmission.snapshot) (by simp [Action.isPlain]))
  | reset k =>
    rw [step_reset]
    refine .append (.append (Heard.tells_of_isPlain _ ?_) (Heard.tells_reset _))
      (Heard.tells_publish (s := Session.snapshot {}) (by simp [Action.isPlain]))
    simp only [List.mem_map]
    rintro _ ⟨w, -, rfl⟩
    rfl
  | listedStale epoch seq r he =>
    rw [step_listed_stale now c seq r he]
    exact Heard.tells_nil _
  | listed seq r =>
    -- first what the answer changes, then polling, and the snapshot after both
    rw [step_listed, List.append_assoc]
    have ht : c.session.heard.Tells ((c.session.listedEvents seq r).map .emit)
        (c.session.afterListed seq r).heard := by
      cases r with
      | ok l =>
        exact Heard.tells_heldEvents l.runs.head? (Session.polling_applyListing _ l seq)
          (Session.latestRun_applyListing _ l seq) (Session.change_applyListing _ l seq)
      | error f => exact Heard.tells_of_isPlain _ (by simp [Session.listedEvents, Action.isPlain])
    refine ht.append (Heard.tells_followed (by simpa using hp) now fun a ha => ?_)
    rcases List.mem_append.1 ha with ha | ha
    · obtain ⟨w, -, rfl⟩ := List.mem_map.1 ha
      rfl
    · exact Action.isPlain_of_isAnswer (isAnswer_advanceCalls _ _ a ha)
  | triggeredStale epoch k r he =>
    rw [step_triggered_stale now c k r he]
    exact Heard.tells_of_isPlain _ (by simp [Action.isPlain])
  | started k r =>
    rw [step_started, List.append_assoc]
    have hs : c.session.heard = c.session.endSubmission.heard := rfl
    rw [hs]
    exact .append
      (Heard.tells_heldEvents (some r.run) (Session.polling_applyStarted _ r)
        (Session.latestRun_applyStarted _ r) (Session.change_applyStarted _ r))
      (Heard.tells_followed (by simpa using hp) now (by simp [Action.isPlain]))
  | conflict k runId message requestId =>
    rw [step_conflict, List.append_assoc]
    refine .append (Heard.tells_of_isPlain _ (by simp [Action.isPlain])) ?_
    exact Heard.tells_followed (s := c.session.endSubmission.markConflict c.fetches.issued) hp now
      fun a ha => Action.isPlain_of_isAnswer (isAnswer_enrollCalls _ _ a ha)
  | refused k f hf =>
    rw [step_refused now c k hf]
    have hs : (c.session.endSubmission.afterRefusal f).snapshot.heard = c.session.heard := by
      simp [Snapshot.heard, Session.heard, Session.snapshot]
    refine .append (Heard.tells_of_isPlain _ ?_)
      (hs ▸ Heard.tells_publish (by simp [Action.isPlain]))
    cases f <;> simp [Session.refusalEvent, Action.isPlain]
  | pollEarly hd =>
    rw [step_pollDue_early now c hd]
    exact Heard.tells_nil _
  | poll hd =>
    rw [step_pollDue now c hd]
    refine .append (Heard.tells_of_isPlain _ (by simp [Action.isPlain])) ?_
    exact Heard.tells_of_isPlain _ fun a ha =>
      Action.isPlain_of_isAnswer (isAnswer_enrollCalls _ _ a ha)
  | startingEarly hd =>
    rw [step_startingDue_early now c hd]
    exact Heard.tells_nil _
  | starting hd =>
    rw [step_startingDue now c hd]
    have hs : c.session.markLikelyRunning.snapshot.heard = c.session.heard := by
      simp [Snapshot.heard, Session.heard, Session.snapshot]
    have hs' : c.session.markLikelyRunning.heard = c.session.heard := hs
    rw [hs']
    split
    · exact .append (Heard.tells_of_isPlain _ (by simp [Action.isPlain]))
        (hs ▸ Heard.tells_publish (by simp))
    · exact Heard.tells_nil _

theorem step_completed (now : Nat) (c : Controller) (i : Input) :
    (c.step now i).actions.filterMap Action.completed? =
      (Session.completion? c.session.latestRun
        (c.step now i).state.session.latestRun).toList := by
  have hcalls (epoch : Nat) : (c.fetches.enrollCalls epoch).filterMap Action.completed? = [] :=
    filterMap_enrollCalls (fun _ _ => rfl) _ _
  induction i using input_cases now c with
  | fetch k cmd hc =>
    rw [step_fetch now c k hc, Session.completion?_self]
    exact hcalls _
  | startRefused k hs =>
    rw [step_start_refused now c k hs, Session.completion?_self]
    rfl
  | start k hs =>
    rw [step_start now c k hs]
    exact congrArg Option.toList (Session.completion?_self c.session.latestRun).symm
  | reset k =>
    rw [step_reset]
    simp [Session.completion?_none, Function.comp_def, List.filterMap_cons]
  | listedStale epoch seq r he =>
    rw [step_listed_stale now c seq r he, Session.completion?_self]
    rfl
  | listed seq r =>
    rw [step_listed]
    have hreplies (f : Waiter → Reply) : (c.fetches.current.map fun w =>
        Action.reply w.caller (f w)).filterMap Action.completed? = [] := by simp
    simp only [List.filterMap_append, List.filterMap_cons, Action.completed?_publish,
      Session.latestRun_follow, completed?_followActions, hreplies, List.append_nil,
      filterMap_advanceCalls (f := Action.completed?) (fun _ _ => rfl)]
    cases r with
    | ok l =>
      exact completed?_heldEvents l.runs.head? (Session.latestRun_applyListing c.session l seq)
        (Session.change_applyListing c.session l seq)
    | error f =>
      exact congrArg Option.toList (Session.completion?_self c.session.latestRun).symm
  | triggeredStale epoch k r he =>
    rw [step_triggered_stale now c k r he, Session.completion?_self]
    rfl
  | started k r =>
    rw [step_started]
    have hl := completed?_heldEvents (some r.run)
      (Session.latestRun_applyStarted c.session.endSubmission r)
      (Session.change_applyStarted c.session.endSubmission r)
    simpa [completed?_followActions, List.filterMap_cons] using hl
  | conflict k runId message requestId =>
    rw [step_conflict]
    simp only [List.filterMap_append, List.filterMap_cons, Action.completed?_publish,
      Action.completed?_notice, completed?_followActions, hcalls, Session.latestRun_follow]
    exact congrArg Option.toList (Session.completion?_self c.session.latestRun).symm
  | refused k f hf =>
    rw [step_refused now c k hf, Session.latestRun_afterRefusal, Session.latestRun_endSubmission,
      Session.completion?_self]
    cases f <;> rfl
  | pollEarly hd =>
    rw [step_pollDue_early now c hd, Session.completion?_self]
    rfl
  | poll hd =>
    rw [step_pollDue now c hd, List.filterMap_append, hcalls, Session.completion?_self]
    rfl
  | startingEarly hd =>
    rw [step_startingDue_early now c hd, Session.completion?_self]
    rfl
  | starting hd =>
    rw [step_startingDue now c hd, Session.latestRun_markLikelyRunning, Session.completion?_self]
    split <;> rfl

end Controller

namespace History

variable (timing : Timing)

theorem settled (past : History) : (controller timing past).Settled := by
  induction past with
  | nil => exact ⟨rfl, rfl⟩
  | cons e past ih => exact ih.step e.1 e.2

theorem tells (past : History) :
    Heard.Tells {} (past.actions timing) (past.controller timing).session.heard := by
  induction past with
  | nil => exact Heard.tells_nil {}
  | cons e past ih =>
    exact ih.append ((settled timing past).step_tells e.1 e.2)

/-- Events alone tell of the run and of polling: of each as it is whenever a snapshot is shown, of
polling only when it changes, and of the end of a run exactly when an answer brings it ended that
was held as still going on. -/
theorem events_tell_run_and_polling (past : History) :
    (∀ (sent rest : List Action) (a : Action), past.actions timing = sent ++ a :: rest →
      Heard.Fits {} sent a) ∧
    Heard.after {} (past.actions timing) = (past.controller timing).session.heard ∧
    ∀ (now : Nat) (i : Input),
      let c := past.controller timing
      let completion := Session.completion? c.session.latestRun
        (c.step now i).state.session.latestRun
      (c.step now i).actions.filterMap Action.completed? = completion.toList ∧
        ∀ run ∈ completion, c.brings? i = some run := by
  refine ⟨fun _ _ _ => (tells timing past).fits, (tells timing past).after_eq, fun now i => ?_⟩
  exact ⟨(controller timing past).step_completed now i, fun run hr =>
    (Controller.brings?_of_completion hr).1⟩

theorem events_tell_end_of_started_run :
    let run (status : RunStatus) : Run := ⟨7, .manual, status, none, none, 0, 0, 0, 0⟩
    let started : Started := ⟨7, .running, 0, 0, 0, 0, 0, false, "key", .null⟩
    let past : History := [(30, .listed 0 1 (.ok ⟨[run .success], .null⟩)), (20, .command 1 .sync),
      (9, .triggered 0 0 (.ok started)), (0, .command 0 .start)]
    (past.actions {})[10]? = some (.emit (.runCompleted (run .success))) ∧
      ∃ before, (past.actions {}).take 10 = before ++ [.emit (.runUpdated (run .success))] := by
  intro run started past
  have ha : past.actions {} = (past.actions {}).take 10 ++
      .emit (.runCompleted (run .success)) :: (past.actions {}).drop 11 := by decide
  exact ⟨by decide, ((events_tell_run_and_polling {} past).1 _ _ _ ha).completed rfl⟩

end History

end RunWatch
