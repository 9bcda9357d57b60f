import RunWatch.Proofs.Telling
set_option autoImplicit false

namespace RunWatch

/-- A failure that tells of itself only: neither of another run nor of the cooldown. -/
def Failure.isBare : Failure → Bool
  | .refused .. | .transport _ => true
  | .conflict .. | .cooldown .. => false

theorem Failure.ne_conflict_of_isBare {f : Failure} (h : f.isBare = true)
    (runId : Option UInt64) (message : String) (requestId : Option String) :
    f ≠ .conflict runId message requestId := by
  rintro rfl
  cases h

theorem Ticker.follow_isArmed (p : Ticker) (now : Nat) : p.follow now p.isArmed = p := by
  cases h : p.isArmed with
  | false => exact Ticker.disarm_of_not_isArmed h
  | true => simp [Ticker.follow, Ticker.arm, h]

theorem Ticker.followActions_isArmed (p : Ticker) (now : Nat) :
    p.followActions now p.isArmed = [] := if_pos rfl

namespace Session

theorem follow_of_runActive {s : Session} {p : Ticker} (h : s.runActive = p.isArmed) :
    s.follow p = s := if_pos h

theorem afterRefusal_of_isBare {f : Failure} (s : Session) (h : f.isBare = true) :
    s.afterRefusal f = s.recordFailure f.message ∧
      s.refusalEvent f = .notice (.requestFailed f.message) := by
  cases f with
  | conflict runId message requestId => cases h
  | cooldown safety message requestId => cases h
  | _ => exact ⟨rfl, rfl⟩

end Session

namespace Controller

theorem Settled.step_listed_error {c : Controller} (h : c.Settled) (now seq : Nat) (f : Failure) :
    c.step now (.listed c.epoch seq (.error f)) =
      ⟨{ c with
          session := c.session.recordFailure f.message
          fetches := c.fetches.advance },
        [.emit (.notice (.requestFailed f.message)),
          .publish (c.session.recordFailure f.message).snapshot] ++
          (c.fetches.current.map fun w =>
            .reply w.caller (Turn.waiterReply (c.session.recordFailure f.message) w)) ++
          c.fetches.advanceCalls c.epoch⟩ := by
  have hactive : (c.session.recordFailure f.message).runActive = c.poll.isArmed := h.armed.symm
  have hsession := Session.follow_of_runActive hactive
  rw [step_listed]
  simp only [Session.afterListed, Session.listedEvents, hsession, hactive,
    Ticker.follow_isArmed, Ticker.followActions_isArmed]
  simp

end Controller

namespace History

variable (timing : Timing)

/-- A list call that fails, for whatever reason, changes the error that is kept and ends the call;
it is told as one event, everyone who waited for it is answered, and those who came meanwhile have
theirs made. A start that is refused changes that error, ends the submission with its timer and
answers its caller; a cooldown brings its safety state as well, and is told instead. Nothing else
changes: the run, polling and its ticker, an open conflict and the epoch stay. -/
theorem failure_leaves_intact (past : History) (now : Nat) :
    let c := controller timing past
    (∀ seq f,
      c.step now (.listed c.epoch seq (.error f)) =
        ⟨{ c with
            session := { c.session with lastError := some f.message }
            fetches :=
              if c.fetches.followUp = [] then { c.fetches with inFlight := false, current := [] }
              else
                { inFlight := true
                  issued := c.fetches.issued + 1
                  current := c.fetches.followUp
                  followUp := [] } },
          [.emit (.notice (.requestFailed f.message)),
            .publish { c.session with lastError := some f.message }.snapshot] ++
            (c.fetches.current.map fun w => .reply w.caller (Turn.waiterReply c.session w)) ++
            if c.fetches.followUp = [] then [] else [.list c.epoch (c.fetches.issued + 1)]⟩) ∧
    (∀ k f, f.isBare = true →
      let session := { c.session with
        lastError := some f.message
        submitting := false
        likelyRunning := false }
      c.step now (.triggered c.epoch k (.error f)) =
        ⟨{ c with session, starting := { due := none } },
          [.emit (.notice (.requestFailed f.message)), .publish session.snapshot,
            .reply k (.outcome (.ofFailure f))]⟩) ∧
    (∀ k raw message requestId,
      let safety := { SafetyState.normalize raw with cooldownActive := true }
      let session := { c.session with
        lastError := some message
        submitting := false
        likelyRunning := false
        safety }
      c.step now (.triggered c.epoch k (.error (.cooldown raw message requestId))) =
        ⟨{ c with session, starting := { due := none } },
          [.emit (.cooldownBlocked safety), .publish session.snapshot,
            .reply k (.outcome (.ofFailure (.cooldown raw message requestId)))]⟩) := by
  intro c
  refine ⟨fun seq f => ?listed, fun k f hf => ?refused, fun k raw message requestId => ?cooldown⟩
  case listed =>
    have hreply : Turn.waiterReply (c.session.recordFailure f.message) =
        Turn.waiterReply c.session := by
      funext w
      cases w <;> rfl
    rw [(settled timing past).step_listed_error now seq f, hreply]
    cases hu : c.fetches.followUp <;>
      simp [Fetches.advance, Fetches.advanceCalls, hu, Session.recordFailure, c]
  case refused =>
    obtain ⟨hsession, hevent⟩ := c.session.endSubmission.afterRefusal_of_isBare hf
    rw [Controller.step_refused now c k (Failure.ne_conflict_of_isBare hf), hsession, hevent]
    rfl
  case cooldown =>
    rw [Controller.step_refused now c k (by simp)]
    rfl

/-- A start is under way while the run that another start has met is looked up, and someone waits
for the listing after that. The listing fails as a refused start does, then the start is lost. -/
theorem failure_leaves_intact_during_conflict :
    let past : History := [(7, .command 2 .sync), (6, .command 1 .start),
      (5, .triggered 0 0 (.error (.conflict none "busy" none))), (0, .command 0 .start)]
    let c := controller {} past
    let failed := c.step 9 (.listed 0 1 (.error (.cooldown .null "too soon" none)))
    let lost := c.step 9 (.triggered 0 1 (.error (.transport "lost")))
    failed.state.session = { c.session with lastError := some "too soon" } ∧
      failed.actions.drop 2 = [.reply 0 (.outcome (.alreadyRunning none none)), .list 0 2] ∧
      Failure.isBare (.transport "lost") = true ∧
      lost.state = { c with
        session := { c.session with
          lastError := some "lost", submitting := false, likelyRunning := false }
        starting := { due := none } } ∧
      c.session.submitting = true ∧ c.session.polling = true := by
  intro past c failed lost
  obtain ⟨hlisted, hrefused, -⟩ := failure_leaves_intact {} past 9
  have hfailed := hlisted 1 (.cooldown .null "too soon" none)
  have hlost := hrefused 1 (.transport "lost") rfl
  refine ⟨congrArg (·.state.session) hfailed, ?_, rfl, congrArg (·.state) hlost, by decide,
    by decide⟩
  exact congrArg (·.actions.drop 2) hfailed

end History

end RunWatch
