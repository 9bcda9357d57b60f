import RunWatch.Proofs.Freshness
/-!
What a start is told. Whatever else is handled meanwhile, the reply to a start that was accepted is
settled by how its call ended: at once, or, if it has met another run, by the listing that is
fetched for it. If a reset comes before the reply, the start is told so and nothing else.
-/
set_option autoImplicit false

namespace RunWatch

namespace Fetches

variable {f : Fetches} {v w : Waiter} {seq : Nat}

/-- Someone waits for a list call by its number, which is in flight or follows the one in flight. -/
structure Awaits (f : Fetches) (w : Waiter) (seq : Nat) : Prop where
  inFlight : f.inFlight = true
  place : w ∈ f.current ∧ f.issued = seq ∨ w ∈ f.followUp ∧ f.issued + 1 = seq

theorem Awaits.mem (h : f.Awaits w seq) : w ∈ f.current ++ f.followUp := by
  rcases h.place with ⟨hw, -⟩ | ⟨hw, -⟩
  · exact List.mem_append_left _ hw
  · exact List.mem_append_right _ hw

theorem Awaits.mem_current (h : f.Awaits w seq) (hs : f.issued = seq) : w ∈ f.current := by
  rcases h.place with ⟨hw, -⟩ | ⟨-, hn⟩
  · exact hw
  · omega

theorem awaits_enroll_self (f : Fetches) (w : Waiter) : (f.enroll w).Awaits w (f.issued + 1) := by
  refine ⟨f.inFlight_enroll w, ?_⟩
  unfold enroll
  split
  · exact .inr ⟨List.mem_append_right _ (List.mem_singleton_self _), rfl⟩
  · exact .inl ⟨List.mem_append_right _ (List.mem_singleton_self _), rfl⟩

theorem Awaits.enroll (h : f.Awaits w seq) : (f.enroll v).Awaits w seq := by
  rw [Fetches.enroll, if_pos h.inFlight]
  exact ⟨h.inFlight, h.place.imp_right (And.imp_left (List.mem_append_left _))⟩

theorem Awaits.advance (h : f.Awaits w seq) (hne : f.issued ≠ seq) : f.advance.Awaits w seq := by
  obtain ⟨hw, hs⟩ := h.place.resolve_left fun hc => hne hc.2
  have hf : f.followUp ≠ [] := List.ne_nil_of_mem hw
  rw [Fetches.advance, if_neg (by simpa using hf)]
  exact ⟨rfl, .inl ⟨hw, hs⟩⟩

end Fetches

namespace Controller

variable (now : Nat) (c : Controller)

/-- What a start is told as soon as its call has ended; nothing yet if it has met another run. -/
def settles (epoch : Nat) (result : Except Failure Started) : Option Reply :=
  if epoch = c.epoch then
    match result with
    | .ok s => some (.outcome (.started s.runId s.reused))
    | .error (.conflict ..) => none
    | .error f => some (.outcome (.ofFailure f))
  else some (localError resetMeanwhile)

theorem reply_mem_triggered {epoch : Nat} {k : Caller} {result : Except Failure Started}
    {r : Reply} : .reply k r ∈ (c.step now (.triggered epoch k result)).actions ↔
      c.settles epoch result = some r := by
  by_cases he : epoch = c.epoch
  · subst he
    unfold settles
    rw [if_pos rfl]
    cases result with
    | ok s =>
      rw [step_started]
      simp [reply_not_mem_followActions, eq_comm]
    | error f =>
      cases f with
      | conflict runId message requestId =>
        rw [step_conflict]
        simp [reply_not_mem_followActions, reply_not_mem_enrollCalls]
      | _ =>
        rw [step_refused now c k (by simp)]
        simp [eq_comm]
  · unfold settles
    rw [step_triggered_stale now c k result he, if_neg he]
    simp [eq_comm]

theorem conflict_of_settles_eq_none {epoch : Nat} {result : Except Failure Started}
    (h : c.settles epoch result = none) :
    ∃ runId message requestId, result = .error (.conflict runId message requestId) ∧
      epoch = c.epoch := by
  unfold settles at h
  split at h
  · next he =>
    split at h
    · nomatch h
    · exact ⟨_, _, _, rfl, he⟩
    · nomatch h
  · nomatch h

theorem asks?_conflict {epoch : Nat} (he : epoch = c.epoch) (k : Caller) (runId : Option UInt64)
    (message : String) (requestId : Option String) :
    c.asks? (.triggered epoch k (.error (.conflict runId message requestId))) =
      some (.conflict k runId requestId) := if_pos he

theorem reply_mem_listed {w : Waiter} (hw : w ∈ c.fetches.current) (seq : Nat)
    (result : Except Failure Listing) :
    .reply w.caller (Turn.waiterReply
        (c.step now (.listed c.epoch seq result)).state.session w) ∈
      (c.step now (.listed c.epoch seq result)).actions := by
  rw [step_listed]
  refine List.mem_append_right _ (List.mem_cons_of_mem _ (List.mem_append_left _ ?_))
  exact List.mem_map_of_mem (f := fun w => Action.reply w.caller (Turn.waiterReply _ w)) hw

theorem reply_mem_reset {w : Waiter} (hw : w ∈ c.fetches.current ++ c.fetches.followUp)
    (k : Caller) :
    .reply w.caller (resetReply w) ∈ (c.step now (.command k .reset)).actions := by
  rw [step_reset]
  refine List.mem_append_left _ (List.mem_append_left _ ?_)
  exact List.mem_map_of_mem (f := fun w => Action.reply w.caller (resetReply w)) hw

end Controller

namespace History

variable {timing : Timing} {past : History} {t : Nat} {i : Input} {k : Caller} {r : Reply}

/-- Whoever asks waits for the list call that is the next one to be made when they ask, until a
reset comes or that call has ended; by then they have been replied to. -/
theorem Orderly.awaits {before : History} (later : History) {w : Waiter}
    (h : Orderly timing (later ++ (t, i) :: before))
    (hw : (controller timing before).asks? i = some w) :
    (NoReset later ∧ (controller timing (later ++ (t, i) :: before)).fetches.Awaits w
        (before.listCalls timing + 1)) ∨
      w.caller ∈ replied timing (later ++ (t, i) :: before) ∧
        (¬ NoReset later ∨ ∃ t₁ result, (t₁, .listed (controller timing before).epoch
          (before.listCalls timing + 1) result) ∈ later) := by
  induction later with
  | nil =>
    refine .inl ⟨noReset_nil, ?_⟩
    have hf : (controller timing ((t, i) :: before)).fetches =
        (controller timing before).fetches.enroll w := Controller.fetches_of_asks hw t
    rw [List.nil_append, hf, ← issued_controller]
    exact Fetches.awaits_enroll_self _ w
  | cons e later ih =>
    obtain ⟨t', i'⟩ := e
    obtain ⟨ho, -, hi⟩ := h
    rcases ih ho with ⟨hn, ha⟩ | ⟨hr, hwhy⟩
    · have hepoch : (controller timing (later ++ (t, i) :: before)).epoch =
          (controller timing before).epoch :=
        (hn.epoch_eq _).trans (epoch_cons (Controller.asks?_eq_some hw).2)
      have hb := (controller timing (later ++ (t, i) :: before)).step_books t' i'
      simp only [List.cons_append, controller]
      generalize ((controller timing (later ++ (t, i) :: before)).step t' i').state.fetches = f
        at hb ⊢
      cases hb with
      | idle _ _ hr => exact .inl ⟨hn.cons hr t', ha⟩
      | asked hv => exact .inl ⟨hn.cons (Controller.asks?_eq_some hv).2 t', ha.enroll⟩
      | polled hfree => exact absurd ha.inFlight (by simp [hfree])
      | ended seq result =>
        obtain ⟨-, rfl⟩ := (ho.list_mem_pending_iff seq).1 hi
        by_cases hs : (controller timing (later ++ (t, i) :: before)).fetches.issued =
            before.listCalls timing + 1
        · refine .inr ⟨mem_replied_of_reply (Controller.reply_mem_listed t' _
            (ha.mem_current hs) _ result), .inr ⟨t', result, ?_⟩⟩
          rw [← hepoch, ← hs]
          exact List.mem_cons_self
        · exact .inl ⟨hn.cons rfl t', ha.advance hs⟩
      | reset j =>
        refine .inr ⟨mem_replied_of_reply (Controller.reply_mem_reset t' _ ha.mem j), .inl ?_⟩
        exact fun hn' => Bool.false_ne_true (hn' _ List.mem_cons_self).symm
    · refine .inr ⟨mem_replied_append [_] hr, ?_⟩
      rcases hwhy with hn | ⟨t₁, result, hm⟩
      · exact .inl fun hn' => hn fun e he => hn' e (List.mem_cons_of_mem _ he)
      · exact .inr ⟨t₁, result, List.mem_cons_of_mem _ hm⟩

theorem mem_commanders_of_start {before : History} {t₀ : Nat} (after : History) :
    k ∈ commanders (after ++ (t₀, .command k .start) :: before) :=
  List.mem_flatMap.2 ⟨_, List.mem_append_right _ List.mem_cons_self, List.mem_singleton_self k⟩

theorem Orderly.epoch_of_trigger {before : History} {t₀ : Nat} (after : History) {epoch : Nat}
    (h : Orderly timing (after ++ (t₀, .command k .start) :: before))
    (hp : .trigger epoch k ∈ pending timing (after ++ (t₀, .command k .start) :: before)) :
    epoch = (controller timing before).epoch := by
  induction after with
  | nil =>
    rcases mem_pending_cons.1 hp with ⟨hp, -⟩ | hc
    · exact absurd (mem_commanders_of_trigger (mem_requests_of_mem_pending hp)) h.2.2
    · exact (Controller.trigger_mem_calls_step.1 hc).1
  | cons e after ih =>
    obtain ⟨t, i⟩ := e
    obtain ⟨ho, -, hi⟩ := h
    rcases mem_pending_cons.1 hp with ⟨hp, -⟩ | hc
    · exact ih ho hp
    · obtain ⟨-, rfl, -⟩ := Controller.trigger_mem_calls_step.1 hc
      exact absurd (mem_commanders_of_start after) hi

section

variable (timing) (base after : History) (k : Caller)

/-- After a start, at the end of `base`, its call has met another run, when `earlier` had been
handled since and `seq` was the number of the next list call. No reset has come, and after the
meeting `later` has been handled. -/
structure Met (runId : Option UInt64) (requestId : Option String) (later earlier : History)
    (seq : Nat) : Prop where
  ended : ∃ t message, after = later ++ (t, .triggered (controller timing base).epoch k
    (.error (.conflict runId message requestId))) :: earlier
  next : seq = (earlier ++ base).listCalls timing + 1
  noReset : NoReset after

/-- The reply that a start gets by an input at an instant, if `after` has been handled since. -/
inductive Verdict (t : Nat) : Input → Reply → Prop where
  | started (hn : NoReset after) (s : Started) :
      Verdict t (.triggered (controller timing base).epoch k (.ok s))
        (.outcome (.started s.runId s.reused))
  | refused (hn : NoReset after) (f : Failure)
      (hf : ∀ runId message requestId, f ≠ .conflict runId message requestId) :
      Verdict t (.triggered (controller timing base).epoch k (.error f))
        (.outcome (.error f.message f.status f.code f.requestId))
  | alreadyRunning {runId : Option UInt64} {requestId : Option String} {later earlier : History}
      {seq : Nat} (h : Met timing base after k runId requestId later earlier seq)
      (result : Except Failure Listing) {held : Option Run}
      (hh : held = (controller timing ((t, .listed (controller timing base).epoch seq result) ::
        (after ++ base))).session.latestRun) :
      Verdict t (.listed (controller timing base).epoch seq result)
        (.outcome (.alreadyRunning (runId.or (held.map (·.id))) requestId))
  | resetWhileCalling (hr : ¬ NoReset after) (result : Except Failure Started) :
      Verdict t (.triggered (controller timing base).epoch k result)
        (.outcome (.error Controller.resetMeanwhile none none none))
  | resetWhileFetching {runId : Option UInt64} {requestId : Option String} {later earlier : History}
      {seq : Nat} (h : Met timing base after k runId requestId later earlier seq)
      (hw : ∀ t result, (t, .listed (controller timing base).epoch seq result) ∉ later)
      (j : Caller) :
      Verdict t (.command j .reset) (.outcome (.error Controller.resetMeanwhile none none none))

inductive Stands : Prop where
  | calling (hp : .trigger (controller timing base).epoch k ∈ pending timing (after ++ base))
  | fetching {runId : Option UInt64} {requestId : Option String} {later earlier : History}
      {seq : Nat} (h : Met timing base after k runId requestId later earlier seq)
      (ha : Asked timing (earlier ++ base) (.conflict k runId requestId) (after ++ base))
      (hw : (controller timing (after ++ base)).fetches.Awaits (.conflict k runId requestId) seq)
  | replied (hk : k ∈ replied timing (after ++ base))

end

variable {base after : History}

/-- What a start is told that was refused, by what its failure holds. -/
theorem verdict_of_failure_iff (hn : NoReset after) :
    (∀ safety message requestId, Verdict timing base after k t (.triggered
        (controller timing base).epoch k (.error (.cooldown safety message requestId))) r ↔
      r = .outcome (.error message (some 429) (some Failure.cooldownCode) requestId)) ∧
    (∀ status code message requestId, Verdict timing base after k t (.triggered
        (controller timing base).epoch k (.error (.refused status code message requestId))) r ↔
      r = .outcome (.error message (some status) (some code) requestId)) ∧
    (∀ message, Verdict timing base after k t (.triggered
        (controller timing base).epoch k (.error (.transport message))) r ↔
      r = .outcome (.error message none none none)) := by
  have refusal {f : Failure}
      (hf : ∀ runId message requestId, f ≠ .conflict runId message requestId) :
      Verdict timing base after k t (.triggered (controller timing base).epoch k (.error f)) r ↔
        r = .outcome (.error f.message f.status f.code f.requestId) := by
    constructor
    · intro h
      cases h with
      | refused => rfl
      | resetWhileCalling hr => exact absurd hn hr
    · rintro rfl
      exact .refused hn f hf
  exact ⟨fun _ _ _ => refusal (by simp), fun _ _ _ _ => refusal (by simp),
    fun _ => refusal (by simp)⟩

theorem reply_iff_of_triggered {result : Except Failure Started} :
    .reply k r ∈ ((controller timing (after ++ base)).step t
        (.triggered (controller timing base).epoch k result)).actions ↔
      Verdict timing base after k t (.triggered (controller timing base).epoch k result) r := by
  rw [Controller.reply_mem_triggered]
  have hn : NoReset after ↔ (controller timing base).epoch =
      (controller timing (after ++ base)).epoch := noReset_iff_epoch_eq.trans eq_comm
  constructor
  · intro h
    unfold Controller.settles at h
    split at h
    · next he =>
      have hn := hn.2 he
      cases result with
      | ok s =>
        obtain rfl := Option.some.inj h
        exact .started hn s
      | error f =>
        cases f with
        | conflict => nomatch h
        | _ =>
          obtain rfl := Option.some.inj h
          exact .refused hn _ (by simp)
    · next he =>
      obtain rfl := Option.some.inj h
      exact .resetWhileCalling (fun h => he (hn.1 h)) result
  · intro h
    unfold Controller.settles
    cases h with
    | started h s => rw [if_pos (hn.1 h)]
    | refused h f hf =>
      rw [if_pos (hn.1 h)]
      cases f with
      | conflict => exact absurd rfl (hf _ _ _)
      | _ => rfl
    | resetWhileCalling h =>
      rw [if_neg fun he => h (hn.2 he)]
      rfl

theorem Orderly.stands {before : History} {t₀ : Nat} (after : History)
    (h : Orderly timing (after ++ (t₀, .command k .start) :: before))
    (hs : (controller timing before).session.submitting = false) :
    Stands timing ((t₀, .command k .start) :: before) after k := by
  have hcall : .trigger (controller timing ((t₀, .command k .start) :: before)).epoch k ∈
      pending timing ((t₀, .command k .start) :: before) := by
    rw [epoch_cons rfl, mem_pending_cons]
    exact .inr (Controller.trigger_mem_calls_step.2 ⟨rfl, rfl, hs⟩)
  generalize (t₀, Input.command k .start) :: before = base at h hcall ⊢
  rcases pending_or_ended after hcall with hp | ⟨later, t, i, earlier, hi, rfl⟩
  · exact .calling hp
  · obtain ⟨result, rfl⟩ : ∃ result, i = .triggered (controller timing base).epoch k result := by
      cases i with
      | triggered epoch j result =>
        obtain ⟨rfl, rfl⟩ := Request.trigger.inj (Option.some.inj hi)
        exact ⟨result, rfl⟩
      | _ => nomatch hi
    rw [List.append_assoc, List.cons_append] at h
    cases hset : (controller timing (earlier ++ base)).settles (controller timing base).epoch
        result with
    | some r =>
      refine .replied ?_
      rw [List.append_assoc, List.cons_append]
      exact mem_replied_append later
        (mem_replied_of_reply ((Controller.reply_mem_triggered t _).2 hset))
    | none =>
      obtain ⟨runId, message, requestId, rfl, he⟩ := Controller.conflict_of_settles_eq_none _ hset
      have hw := Controller.asks?_conflict _ he k runId message requestId
      rcases h.awaits later hw with ⟨hn, ha⟩ | ⟨hr, -⟩
      · have hasked := Asked.append later h hw
        rw [← List.cons_append, ← List.append_assoc] at ha hasked
        refine .fetching ⟨⟨t, message, rfl⟩, rfl, ?_⟩ hasked ha
        have hn' : NoReset earlier := noReset_iff_epoch_eq.2 he.symm
        exact List.forall_mem_append.2 ⟨hn, hn'.cons rfl t⟩
      · refine .replied ?_
        rw [List.append_assoc, List.cons_append]
        exact hr

theorem Orderly.not_ended_of_awaits (h : Orderly timing past) {w : Waiter} {seq : Nat}
    (ha : (controller timing past).fetches.Awaits w seq) (result : Except Failure Listing) :
    (t, .listed (controller timing past).epoch seq result) ∉ past := by
  intro hm
  obtain ⟨hmade, hn⟩ := h.ended rfl hm
  rcases ha.place with ⟨-, hs⟩ | ⟨-, hs⟩
  · exact hn ((h.list_mem_pending_iff seq).2 ⟨ha.inFlight, hs.symm⟩)
  · have hle := seq_le_listCalls timing (list_mem_actions_of_requests hmade)
    rw [← issued_controller] at hle
    omega

theorem Met.awaits {runId : Option UInt64} {requestId : Option String} {later earlier : History}
    {seq : Nat} (hm : Met timing base after k runId requestId later earlier seq)
    (h : Orderly timing (after ++ base)) :
    (controller timing (after ++ base)).fetches.Awaits (.conflict k runId requestId) seq ∨
      ∃ t result, (t, .listed (controller timing base).epoch seq result) ∈ later := by
  obtain ⟨⟨t, message, rfl⟩, rfl, hn⟩ := hm
  obtain ⟨hnl, hn⟩ := List.forall_mem_append.1 hn
  have he : (controller timing (earlier ++ base)).epoch = _ :=
    NoReset.epoch_eq (List.forall_mem_cons.1 hn).2 base
  rw [List.append_assoc, List.cons_append] at h ⊢
  have hw := Controller.asks?_conflict _ he.symm k runId message requestId
  rcases h.awaits later hw with ⟨-, ha⟩ | ⟨-, hr | hended⟩
  · exact .inl ha
  · exact absurd hnl hr
  · exact .inr (he ▸ hended)

theorem Orderly.verdict_of_calling (h : Orderly timing ((t, i) :: (after ++ base)))
    (hknown : k ∈ commanders (after ++ base))
    (hp : .trigger (controller timing base).epoch k ∈ pending timing (after ++ base))
    (honly : ∀ epoch, .trigger epoch k ∈ pending timing (after ++ base) →
      epoch = (controller timing base).epoch)
    (hr : .reply k r ∈ ((controller timing (after ++ base)).step t i).actions) :
    Verdict timing base after k t i r := by
  obtain ⟨ho, -, hi⟩ := h
  have hnone := ho.not_mem_callers hp
  have hans := Controller.step_answers hr
  generalize hk : k = k' at hans
  cases hans with
  | issuer => exact absurd hknown (hk ▸ hi)
  | starter epoch _ result =>
    subst hk
    obtain rfl := honly epoch hi
    exact reply_iff_of_triggered.1 hr
  | fetched hv =>
    exact absurd (hk ▸ List.mem_map_of_mem (List.mem_append_left _ hv)) hnone
  | reset hv => exact absurd (hk ▸ List.mem_map_of_mem hv) hnone

theorem Orderly.verdict_of_fetching (h : Orderly timing ((t, i) :: (after ++ base)))
    {runId : Option UInt64} {requestId : Option String} {later earlier : History} {seq : Nat}
    (hm : Met timing base after k runId requestId later earlier seq)
    (ha : Asked timing (earlier ++ base) (.conflict k runId requestId) (after ++ base))
    (hw : (controller timing (after ++ base)).fetches.Awaits (.conflict k runId requestId) seq)
    (hr : .reply k r ∈ ((controller timing (after ++ base)).step t i).actions) :
    Verdict timing base after k t i r := by
  obtain ⟨ho, -, hi⟩ := h
  have he : (controller timing (after ++ base)).epoch = _ := hm.noReset.epoch_eq base
  have hans := Controller.step_answers hr
  generalize hk : k = k' at hans
  cases hans with
  | issuer => exact absurd ha.known (hk ▸ hi)
  | starter epoch => exact absurd hi (hk ▸ ha.idle epoch)
  | @fetched v hv seq' result =>
    -- nobody else waits under this caller, and nobody waits for a later call
    obtain ⟨rfl, hlt⟩ := ha.keeps.current v hv hk.symm
    obtain ⟨-, rfl⟩ := (ho.list_mem_pending_iff seq').1 hi
    have hs : (controller timing (after ++ base)).fetches.issued = seq := by
      have hnext := hm.next
      rcases hw.place with ⟨-, hs⟩ | ⟨-, hs⟩ <;> omega
    rw [he, hs]
    exact .alreadyRunning hm result rfl
  | @reset v hv j =>
    obtain rfl : v = .conflict k runId requestId := by
      rcases List.mem_append.1 hv with hv | hv
      · exact (ha.keeps.current v hv hk.symm).1
      · exact ha.keeps.followUp v hv hk.symm
    refine .resetWhileFetching hm (fun t' result hl => ?_) j
    have hn := ho.not_ended_of_awaits (t := t') hw result
    obtain ⟨t₁, message, hafter⟩ := hm.ended
    rw [he, hafter] at hn
    exact hn (List.mem_append_left _ (List.mem_append_left _ hl))

theorem Verdict.reply_mem (hv : Verdict timing base after k t i r)
    (h : Orderly timing ((t, i) :: (after ++ base))) :
    .reply k r ∈ ((controller timing (after ++ base)).step t i).actions := by
  obtain ⟨ho, -, hi⟩ := h
  cases hv with
  | started hn s => exact reply_iff_of_triggered.2 (.started hn s)
  | refused hn f hf => exact reply_iff_of_triggered.2 (.refused hn f hf)
  | resetWhileCalling hn result => exact reply_iff_of_triggered.2 (.resetWhileCalling hn result)
  | @alreadyRunning _ _ _ _ seq hm result _ hh =>
    have he : (controller timing (after ++ base)).epoch = _ := hm.noReset.epoch_eq base
    subst hh
    rcases hm.awaits ho with ha | ⟨t', result', hl⟩
    · have hs := ((ho.list_mem_pending_iff _).1 (he ▸ hi)).2
      have hr := Controller.reply_mem_listed t _ (ha.mem_current hs.symm) seq result
      rw [he] at hr
      exact hr
    · obtain ⟨t₁, message, hafter⟩ := hm.ended
      have hmem : _ ∈ after ++ base := List.mem_append_left _ (hafter ▸ List.mem_append_left _ hl)
      exact absurd hi (ho.ended rfl hmem).2
  | resetWhileFetching hm hw j =>
    rcases hm.awaits ho with ha | ⟨t', result, hl⟩
    · exact Controller.reply_mem_reset t _ ha.mem j
    · exact absurd hl (hw t' result)

/-- A start that was accepted is told what its call came to: that a run was started, why it was
refused, or which run it has met. It is told so when the call has ended, or in the last case when
the listing is there that is fetched for it, and if a reset has come before, only that. -/
theorem told_iff_verdict {before after : History} {t₀ t : Nat} {i : Input}
    (h : Orderly timing ((t, i) :: (after ++ (t₀, .command k .start) :: before)))
    (hs : (controller timing before).session.submitting = false) (r : Reply) :
    .reply k r ∈ ((controller timing (after ++ (t₀, .command k .start) :: before)).step t
        i).actions ↔ Verdict timing ((t₀, .command k .start) :: before) after k t i r := by
  refine ⟨fun hr => ?_, fun hv => hv.reply_mem h⟩
  have ho := h.1
  have hbase : (controller timing ((t₀, .command k .start) :: before)).epoch = _ := epoch_cons rfl
  cases ho.stands after hs with
  | calling hp =>
    exact h.verdict_of_calling (mem_commanders_of_start after) hp
      (fun epoch hp => (ho.epoch_of_trigger after hp).trans hbase.symm) hr
  | fetching hm ha hw => exact h.verdict_of_fetching hm ha hw hr
  | replied hold => exact absurd hold (h.not_mem_replied hr)

/-- Two starts meet another run while a listing is under way that then tells of an older one. The
listing that is fetched for both tells of run 8, and so is the first told, which had met a run
without an id; the second is told the id that it had met. -/
theorem told_of_run_fetched :
    let listing (id : UInt64) : Except Failure Listing :=
      .ok ⟨[⟨id, .manual, .running, none, none, 0, 0, 0, 0⟩], .null⟩
    let conflict (k : Caller) (id : Option UInt64) (requestId : String) : Input :=
      .triggered 0 k (.error (.conflict id "busy" (some requestId)))
    let before : History := [(0, .command 0 .sync)]
    let after : History := [(15, .listed 0 1 (listing 7)), (12, conflict 2 (some 4) "b"),
      (11, .command 2 .start), (9, conflict 1 none "a"), (6, .pollDue)]
    let past : History := after ++ (5, .command 1 .start) :: before
    let last : Input := .listed 0 2 (listing 8)
    let told : Reply := .outcome (.alreadyRunning (some 8) (some "a"))
    Orderly {} ((20, last) :: past) ∧ (controller {} before).session.submitting = false ∧
      ((controller {} past).step 20 last).actions.filterMap Action.reply? =
        [(1, told), (2, .outcome (.alreadyRunning (some 4) (some "b")))] ∧
      Verdict {} ((5, .command 1 .start) :: before) after 1 20 last told := by
  intro listing conflict before after past last told
  have h : Orderly {} ((20, last) :: past) := by decide
  have hs : (controller {} before).session.submitting = false := by decide
  have hr : .reply 1 told ∈ ((controller {} past).step 20 last).actions := by decide
  exact ⟨h, hs, by decide, (told_iff_verdict h hs told).1 hr⟩

end History

end RunWatch
