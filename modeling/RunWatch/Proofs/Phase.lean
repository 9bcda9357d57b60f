import RunWatch.Proofs.Honesty
/-!
How far a submission has come. Between any two inputs a controller is in one of three phases: no
start has a pending call and the deadline is clear; one has, and the deadline is that of its call;
or one has, and the deadline has passed, which has been told. Main statement: in each history one
phase holds, and that a start counts as starting is told once at most, while its call is pending.
-/
set_option autoImplicit false

namespace RunWatch

namespace History

variable (timing : Timing)

/-- Of all starts only that of `k` has a call of the epoch pending, which was made at `sent`. -/
structure Calling (past : History) (k : Caller) (sent : Nat) : Prop where
  once : (pending timing past).count (.trigger (controller timing past).epoch k) = 1
  alone (k' : Caller) (h : .trigger (controller timing past).epoch k' ∈ pending timing past) :
    k' = k
  sent : sentAt timing (.trigger (controller timing past).epoch k) past = some sent

variable {timing} {past : History} {t : Nat} {i : Input} {k : Caller}

theorem Calling.mem {sent : Nat} (h : Calling timing past k sent) :
    .trigger (controller timing past).epoch k ∈ pending timing past :=
  List.count_pos_iff.1 (by rw [h.once]; exact Nat.one_pos)

theorem Orderly.calling (h : Orderly timing past)
    (hk : .trigger (controller timing past).epoch k ∈ pending timing past) {sent : Nat}
    (hs : sentAt timing (.trigger (controller timing past).epoch k) past = some sent) :
    Calling timing past k sent := by
  refine ⟨?_, fun k' hk' => h.submission.alone hk' hk, hs⟩
  have hle := h.count_pending_le (.trigger (controller timing past).epoch k)
  have hpos := List.count_pos_iff.2 hk
  omega

theorem Calling.cons {sent : Nat} (hc : Calling timing past k sent)
    (h : Orderly timing ((t, i) :: past)) (hr : i.isReset = false)
    (ht : ∀ k, i.call? ≠ some (.trigger (controller timing past).epoch k)) :
    Calling timing ((t, i) :: past) k sent := by
  have he : (controller timing ((t, i) :: past)).epoch = _ := epoch_cons hr
  have hnew : .trigger (controller timing past).epoch k ∉
      ((controller timing past).step t i).calls := fun hq =>
    not_pending_of_calls h.2.2 hq hc.mem
  apply h.calling
  · rw [he]
    exact mem_pending_cons.2 (.inl ⟨hc.mem, ht k⟩)
  · rw [he, sentAt, if_neg hnew]
    exact hc.sent

inductive Phase where
  | idle
  | submitted
  | starting
  deriving DecidableEq

variable (timing past) in
def Phase.Holds : Phase → Prop
  | idle => (controller timing past).standing = ⟨false, false, none⟩ ∧
      ∀ k, .trigger (controller timing past).epoch k ∉ pending timing past
  | submitted => ∃ k sent, Calling timing past k sent ∧
      (controller timing past).standing =
        ⟨true, false, some (sent + timing.startingPhase.nanos)⟩
  | starting => ∃ k sent, Calling timing past k sent ∧
      sent + timing.startingPhase.nanos ≤ now past ∧
      (controller timing past).standing = ⟨true, true, none⟩

def Phase.flags : Phase → Bool × Bool
  | idle => (false, false)
  | submitted => (true, false)
  | starting => (true, true)

theorem Phase.Holds.flags {p : Phase} (h : p.Holds timing past) : p.flags =
    ((controller timing past).session.submitting,
      (controller timing past).session.likelyRunning) := by
  have of_standing {submitting likely : Bool} {due : Option Nat}
      (hs : (controller timing past).standing = ⟨submitting, likely, due⟩) :
      (submitting, likely) = ((controller timing past).session.submitting,
        (controller timing past).session.likelyRunning) := by
    obtain ⟨hsub, hlikely, -⟩ := Standing.mk.inj hs
    rw [hsub, hlikely]
  cases p with
  | idle => exact of_standing h.1
  | submitted =>
    obtain ⟨k, sent, -, hs⟩ := h
    exact of_standing hs
  | starting =>
    obtain ⟨k, sent, -, -, hs⟩ := h
    exact of_standing hs

theorem Phase.Holds.unique {p q : Phase} (hp : p.Holds timing past) (hq : q.Holds timing past) :
    p = q := by
  have h : p.flags = q.flags := hp.flags.trans hq.flags.symm
  cases p <;> cases q <;> first | rfl | nomatch h

theorem Phase.Holds.of_isDue {p : Phase} (h : p.Holds timing past)
    (hd : (controller timing past).starting.isDue t = true) :
    ∃ k sent, Calling timing past k sent ∧ sent + timing.startingPhase.nanos ≤ t ∧
      (controller timing past).session.submitting = true ∧
      (controller timing past).session.likelyRunning = false := by
  cases p with
  | idle =>
    obtain ⟨-, -, hdue⟩ := Standing.mk.inj h.1
    simp [Deadline.isDue, hdue] at hd
  | submitted =>
    obtain ⟨k, sent, hc, hst⟩ := h
    obtain ⟨hsub, hlikely, hdue⟩ := Standing.mk.inj hst
    exact ⟨k, sent, hc, by simpa [Deadline.isDue, hdue] using hd, hsub, hlikely⟩
  | starting =>
    obtain ⟨k, sent, -, -, hst⟩ := h
    obtain ⟨-, -, hdue⟩ := Standing.mk.inj hst
    simp [Deadline.isDue, hdue] at hd

theorem Orderly.idle (h : Orderly timing past)
    (hs : (controller timing past).standing = ⟨false, false, none⟩) :
    Phase.idle.Holds timing past := by
  refine ⟨hs, fun k hk => ?_⟩
  have hsub := h.submission.open_iff.2 ⟨k, hk⟩
  have hnot : (controller timing past).session.submitting = false :=
    congrArg Standing.submitting hs
  rw [hnot] at hsub
  nomatch hsub

theorem Orderly.phase (h : Orderly timing past) : ∃ p : Phase, p.Holds timing past := by
  -- the phase moves only with the standing, so the cases are what a step may do to that
  induction past with
  | nil => exact ⟨.idle, rfl, fun _ => List.not_mem_nil⟩
  | cons e past ih =>
    obtain ⟨t, i⟩ := e
    obtain ⟨hp, hle, hi⟩ := id h
    obtain ⟨p, hphase⟩ := ih hp
    have hstep := (controller timing past).step_proceeds t i
    generalize hs : ((controller timing past).step t i).state.standing = standing at hstep
    generalize announcements ((controller timing past).step t i).actions = n at hstep
    cases hstep with
    | kept hstarts ht hr =>
      cases p with
      | idle => exact ⟨.idle, h.idle (hs.trans hphase.1)⟩
      | submitted =>
        obtain ⟨k, sent, hc, hst⟩ := hphase
        exact ⟨.submitted, k, sent, hc.cons h hr ht, hs.trans hst⟩
      | starting =>
        obtain ⟨k, sent, hc, hpast, hst⟩ := hphase
        exact ⟨.starting, k, sent, hc.cons h hr ht, Nat.le_trans hpast hle, hs.trans hst⟩
    | begun k hn =>
      have hcall : .trigger (controller timing past).epoch k ∈
          ((controller timing past).step t (.command k .start)).calls :=
        Controller.trigger_mem_calls_step.2 ⟨rfl, rfl, hn⟩
      have he : (controller timing ((t, .command k .start) :: past)).epoch = _ := epoch_cons rfl
      refine ⟨.submitted, k, t, h.calling ?_ ?_, ?_⟩
      · rw [he]
        exact mem_pending_cons.2 (.inr hcall)
      · rw [he, sentAt, if_pos hcall]
      · rw [(timing_controller timing past).1] at hs
        exact hs
    | ended k r => exact ⟨.idle, h.idle hs⟩
    | reset k => exact ⟨.idle, h.idle hs⟩
    | elapsed hd =>
      obtain ⟨k, sent, hc, hpast, hsub, hlikely⟩ := hphase.of_isDue hd
      rw [hsub, hlikely] at hs
      exact ⟨.starting, k, sent, hc.cons h rfl (by simp [Input.call?]), hpast, hs⟩

theorem Orderly.trigger_pending_unique (h : Orderly timing past) {epoch : Nat} {k' : Caller}
    (hk : .trigger epoch k ∈ pending timing past) (hk' : .trigger epoch k' ∈ pending timing past) :
    k = k' := by
  induction past with
  | nil => nomatch hk
  | cons e past ih =>
    obtain ⟨t, i⟩ := e
    by_cases he : epoch = (controller timing ((t, i) :: past)).epoch
    · subst he
      exact h.submission.alone hk hk'
    · exact ih h.1 (pending_of_epoch_ne hk rfl he) (pending_of_epoch_ne hk' rfl he)

variable (timing) in
/-- A start that was accepted after `before`, whose call is pending since, and how often it was told
since then that it counts as starting. -/
structure Underway (past since before : History) (t₀ : Nat) (k : Caller) : Prop where
  split : past = since ++ (t₀, .command k .start) :: before
  noReset : NoReset since
  accepted : (controller timing before).session.submitting = false
  pending : .trigger (controller timing past).epoch k ∈ pending timing past
  sent : sentAt timing (.trigger (controller timing past).epoch k) past = some t₀
  told : announcements (past.actions timing) = announcements (before.actions timing) +
    if (controller timing past).session.likelyRunning then 1 else 0

theorem Underway.cons {since before : History} {t₀ : Nat}
    (hu : Underway timing past since before t₀ k) (h : Orderly timing ((t, i) :: past))
    (hr : i.isReset = false) (ht : ∀ k, i.call? ≠ some (.trigger (controller timing past).epoch k))
    (ha : announcements ((controller timing past).step t i).actions +
        (if (controller timing past).session.likelyRunning then 1 else 0) =
      if (controller timing ((t, i) :: past)).session.likelyRunning then 1 else 0) :
    Underway timing ((t, i) :: past) ((t, i) :: since) before t₀ k := by
  have hc := (h.1.calling hu.pending hu.sent).cons h hr ht
  refine ⟨by rw [hu.split]; rfl, hu.noReset.cons hr t, hu.accepted, hc.mem, hc.sent, ?_⟩
  have htold := hu.told
  rw [actions, announcements_append]
  omega

theorem Orderly.underway (h : Orderly timing past)
    (hk : .trigger (controller timing past).epoch k ∈ pending timing past) :
    ∃ since before t₀, Underway timing past since before t₀ k := by
  induction past with
  | nil => exact absurd hk List.not_mem_nil
  | cons e past ih =>
    obtain ⟨t, i⟩ := e
    have hopen := h.1.submission.open_iff
    have hcalls : .trigger (controller timing past).epoch k ∈
        ((controller timing past).step t i).calls ↔
          ((controller timing past).epoch, k) ∈ (controller timing past).starts i := by
      rw [Turn.trigger_mem_calls, Controller.step_starts]
    have hstep := (controller timing past).step_proceeds t i
    have hl : (controller timing ((t, i) :: past)).session.likelyRunning =
        ((controller timing past).step t i).state.standing.likely := rfl
    have hsub : ((controller timing past).step t i).state.standing.submitting = true :=
      h.submission.open_iff.2 ⟨k, hk⟩
    generalize ((controller timing past).step t i).state.standing = standing at hstep hl hsub
    generalize ha : announcements ((controller timing past).step t i).actions = n at hstep
    cases hstep with
    | kept hstarts ht hr =>
      rw [epoch_cons hr] at hk
      obtain ⟨hp, -⟩ := (mem_pending_cons.1 hk).resolve_right (by simp [hcalls, hstarts])
      obtain ⟨since, before, t₀, hu⟩ := ih h.1 hp
      exact ⟨_, before, t₀, hu.cons h hr ht (by rw [ha, hl, Nat.zero_add]; rfl)⟩
    | begun j hn =>
      have he : (controller timing ((t, .command j .start) :: past)).epoch = _ := epoch_cons rfl
      rw [he] at hk
      have hc := (mem_pending_cons.1 hk).resolve_left fun hp =>
        Bool.false_ne_true (hn.symm.trans (hopen.2 ⟨k, hp.1⟩))
      obtain ⟨-, hj⟩ := Controller.mem_starts (hcalls.1 hc)
      obtain ⟨rfl, -⟩ := Input.command.inj hj
      refine ⟨[], past, t, rfl, noReset_nil, hn, he ▸ hk, ?_, ?_⟩
      · rw [he, sentAt, if_pos hc]
      · rw [actions, announcements_append, ha, hl]
        rfl
    | ended j r => cases hsub
    | reset j => cases hsub
    | elapsed hd =>
      have he : (controller timing ((t, .startingDue) :: past)).epoch = _ := epoch_cons rfl
      rw [he] at hk
      obtain ⟨hp, -⟩ := (mem_pending_cons.1 hk).resolve_right (by simp [hcalls, Controller.starts])
      obtain ⟨since, before, t₀, hu⟩ := ih h.1 hp
      refine ⟨_, before, t₀, hu.cons h rfl (by simp [Input.call?]) ?_⟩
      have hs := hopen.2 ⟨k, hp⟩
      rw [ha, hl, hs]
      cases (controller timing past).session.likelyRunning <;> rfl

/-- When it is told that a start counts as starting, a starting phase has passed since the start was
accepted, and it was not told before. -/
theorem Orderly.announced (h : Orderly timing past)
    (hi : .emit (.notice .likelyRunning) ∈ ((controller timing past).step t i).actions) :
    announcements ((controller timing past).step t i).actions = 1 ∧
      ∃ (since before : History) (t₀ : Nat) (k : Caller), Underway timing past since before t₀ k ∧
        t₀ + timing.startingPhase.nanos ≤ t ∧
        announcements (past.actions timing) = announcements (before.actions timing) := by
  have hpos : 0 < announcements ((controller timing past).step t i).actions :=
    List.count_pos_iff.2 hi
  obtain ⟨p, hphase⟩ := h.phase
  have hstep := (controller timing past).step_proceeds t i
  generalize ((controller timing past).step t i).state.standing = standing at hstep
  generalize announcements ((controller timing past).step t i).actions = n at hstep hpos ⊢
  cases hstep with
  | elapsed hd =>
    obtain ⟨k, sent, hc, hpast, hsub, hlikely⟩ := hphase.of_isDue hd
    obtain ⟨since, before, t₀, hu⟩ := h.underway hc.mem
    obtain rfl : t₀ = sent := Option.some.inj (hu.sent.symm.trans hc.sent)
    have htold := hu.told
    rw [hlikely] at htold
    exact ⟨by simp [hsub, hlikely], since, before, t₀, k, hu, hpast, htold⟩
  | _ => exact absurd hpos (Nat.lt_irrefl 0)

/-- A history is in one phase, and of no epoch have two starts a call pending. That a start counts
as starting is told once at most, while its call is pending and no reset has come, and a start that
comes while another is under way is refused and changes nothing. -/
theorem submission_in_phases (h : Orderly timing past) :
    (∃ p : Phase, p.Holds timing past ∧ ∀ q : Phase, q.Holds timing past → q = p) ∧
      (∀ epoch k k', .trigger epoch k ∈ pending timing past →
        .trigger epoch k' ∈ pending timing past → k = k') ∧
      (∀ t i, .emit (.notice .likelyRunning) ∈ ((controller timing past).step t i).actions →
        announcements ((controller timing past).step t i).actions = 1 ∧
          ∃ (since before : History) (t₀ : Nat) (k : Caller),
            Underway timing past since before t₀ k ∧ t₀ + timing.startingPhase.nanos ≤ t ∧
            announcements (past.actions timing) = announcements (before.actions timing)) ∧
      ((controller timing past).session.submitting = true →
        ∀ t k, (controller timing past).step t (.command k .start) =
          ⟨controller timing past,
            [.reply k (.outcome (.error Controller.alreadySubmitting none none none))]⟩) := by
  refine ⟨?_, fun epoch k k' => h.trigger_pending_unique, fun t i => h.announced, fun hs t k => ?_⟩
  · obtain ⟨p, hp⟩ := h.phase
    exact ⟨p, hp, fun q hq => hq.unique hp⟩
  · exact Controller.step_start_refused t _ k hs

/-- A reset comes during the first submission, whose deadline is not kept: the timer that would have
been due then does nothing, and that the second start counts as starting is told in its own time.
-/
theorem submission_in_phases_after_reset :
    let past : History := [(1500000000, .startingDue), (1000000000, .command 3 .start),
      (900000000, .command 2 .reset), (0, .command 1 .start)]
    Orderly {} past ∧ Phase.submitted.Holds {} past ∧
      announcements ((controller {} past).step 2500000000 .startingDue).actions = 1 ∧
      (∃ (since before : History) (t₀ : Nat) (k : Caller), Underway {} past since before t₀ k ∧
        t₀ + 1500000000 ≤ 2500000000) ∧
      ((controller {} past).step 1600000000 (.command 4 .start)).state = controller {} past := by
  intro past
  have h : Orderly {} past := by decide
  obtain ⟨⟨p, hp, -⟩, -, htold, hrefused⟩ := submission_in_phases h
  have hflags : p.flags = (true, false) := hp.flags
  have hi : .emit (.notice .likelyRunning) ∈
      ((controller {} past).step 2500000000 .startingDue).actions := by decide
  obtain ⟨hone, since, before, t₀, k, hu, hle, -⟩ := htold _ _ hi
  have hs : (controller {} past).session.submitting = true := by decide
  refine ⟨h, ?_, hone, ⟨since, before, t₀, k, hu, hle⟩, ?_⟩
  · cases p with
    | submitted => exact hp
    | _ => nomatch hflags
  · rw [hrefused hs]

end History

end RunWatch
