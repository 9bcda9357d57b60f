import RunWatch.Program
import RunWatch.Proofs.Bookkeeping
import RunWatch.Proofs.Telling
/-!
When it is polled. The ticker is moved by a poll that it brings, and when polling is turned on or
off, and by nothing else; so if each poll is served when it falls due, polls keep one interval from
the moment at which polling is turned on. Two polls are never closer than that, whatever lies
between them, and what is not asked for by a poll is asked for by someone who wants to know.
-/
set_option autoImplicit false

namespace RunWatch

namespace Controller

def polls (now : Nat) (c : Controller) : Input → Bool
  | .pollDue => c.poll.isDue now
  | _ => false

theorem polls_iff {now : Nat} {c : Controller} {i : Input} :
    c.polls now i = true ↔ i = .pollDue ∧ c.poll.isDue now = true := by
  cases i <;> simp [polls]

inductive Beats (now : Nat) (c : Controller) (i : Input) : Option Nat → Prop where
  | kept (hn : c.polls now i = false) : Beats now c i c.poll.due
  | on (hn : c.polls now i = false) (h : c.poll.due = none) :
      Beats now c i (some (now + c.poll.interval.nanos))
  | off (hn : c.polls now i = false) : Beats now c i none
  | polled (h : c.polls now i = true) : Beats now c i (some (now + c.poll.interval.nanos))

theorem beats_follow {now : Nat} {c : Controller} {i : Input} (hn : c.polls now i = false)
    (active : Bool) : c.Beats now i (c.poll.follow now active).due := by
  cases active with
  | false => exact .off hn
  | true =>
    cases hd : c.poll.due with
    | none =>
      have ha : (c.poll.follow now true).due = some (now + c.poll.interval.nanos) := by
        simp [Ticker.follow, Ticker.arm, Ticker.isArmed, hd]
      exact ha ▸ .on hn hd
    | some due =>
      have ha : (c.poll.follow now true).due = c.poll.due := by
        simp [Ticker.follow, Ticker.arm, Ticker.isArmed, hd]
      exact ha ▸ .kept hn

theorem step_beats (now : Nat) (c : Controller) (i : Input) :
    c.Beats now i (c.step now i).state.poll.due := by
  induction i using input_cases now c with
  | fetch k cmd hc =>
    rw [step_fetch now c k hc]
    exact .kept rfl
  | startRefused k hs =>
    rw [step_start_refused now c k hs]
    exact .kept rfl
  | start k hs =>
    rw [step_start now c k hs]
    exact .kept rfl
  | reset k =>
    rw [step_reset]
    exact .off rfl
  | listedStale epoch seq r he =>
    rw [step_listed_stale now c seq r he]
    exact .kept rfl
  | listed seq r =>
    rw [step_listed]
    exact beats_follow rfl _
  | triggeredStale epoch k r he =>
    rw [step_triggered_stale now c k r he]
    exact .kept rfl
  | started k r =>
    rw [step_started]
    exact beats_follow rfl _
  | conflict k runId message requestId =>
    rw [step_conflict]
    exact beats_follow rfl _
  | refused k f hf =>
    rw [step_refused now c k hf]
    exact .kept rfl
  | pollEarly hd =>
    rw [step_pollDue_early now c hd]
    exact .kept hd
  | poll hd =>
    rw [step_pollDue now c hd]
    exact .polled hd
  | startingEarly hd =>
    rw [step_startingDue_early now c hd]
    exact .kept rfl
  | starting hd =>
    rw [step_startingDue now c hd]
    exact .kept rfl

theorem calls_of_polls {now : Nat} {c : Controller} {i : Input} (h : c.polls now i = true) :
    (c.step now i).calls =
      if c.fetches.inFlight then [] else [.list c.epoch (c.fetches.issued + 1)] := by
  obtain ⟨rfl, hd⟩ := polls_iff.1 h
  rw [step_pollDue now c hd]
  cases hf : c.fetches.inFlight <;>
    simp [Turn.calls, Fetches.enrollCalls, hf, Action.call?, Action.request?, Request.isCall,
      Option.filter]

theorem polls_of_call {now : Nat} {c : Controller} {q : Request}
    (h : q ∈ (c.step now .pollDue).calls) : c.polls now .pollDue = true := by
  cases hd : c.poll.isDue now with
  | true => exact hd
  | false =>
    rw [step_pollDue_early now c hd] at h
    nomatch h

end Controller

namespace History

variable (timing : Timing)

/-- The instants of the polls during a stretch that follows a history, the first one first. -/
def polls (past : History) : History → List Nat
  | [] => []
  | (t, i) :: since =>
    polls past since ++ if (controller timing (since ++ past)).polls t i then [t] else []

/-- Each poll is served when it falls due: nothing is handled later than a poll that is due. -/
def Punctual : History → Prop
  | [] => True
  | (t, _) :: past => Punctual past ∧ ∀ due ∈ (controller timing past).poll.due, t ≤ due

instance decidablePunctual : (past : History) → Decidable (Punctual timing past)
  | [] => .isTrue trivial
  | (t, _) :: past =>
    have := decidablePunctual past
    inferInstanceAs (Decidable (_ ∧ ∀ due ∈ (controller timing past).poll.due, t ≤ due))

def StaysOn (past : History) : History → Prop
  | [] => (controller timing past).session.polling = true
  | e :: since =>
    StaysOn past since ∧ (controller timing (e :: (since ++ past))).session.polling = true

instance decidableStaysOn (past : History) :
    (since : History) → Decidable (StaysOn timing past since)
  | [] => inferInstanceAs (Decidable (_ = true))
  | _ :: since =>
    have := decidableStaysOn past since
    inferInstanceAs (Decidable (_ ∧ _ = true))

/-- Someone wants to know the latest run: in this input, or in one that came while the list call was
pending that this input ends. -/
inductive Wanted (past : History) : Input → Prop where
  | now {i : Input} {w : Waiter} (hw : (controller timing past).asks? i = some w) : Wanted past i
  | meanwhile {since before : History} {t : Nat} {i : Input} {w : Waiter} {seq : Nat}
      (hp : past = since ++ (t, i) :: before) (hw : (controller timing before).asks? i = some w)
      (hq : .list (controller timing past).epoch seq ∈ pending timing before)
      (r : Except Failure Listing) : Wanted past (.listed (controller timing past).epoch seq r)

variable {timing}

theorem due_isSome (past : History) : (controller timing past).poll.due.isSome =
    (controller timing past).session.polling :=
  (settled timing past).armed.trans (settled timing past).polling.symm

theorem asked_of_mem_followUp {past : History} {w : Waiter}
    (h : w ∈ (controller timing past).fetches.followUp) :
    ∃ since t i before, past = since ++ (t, i) :: before ∧
      (controller timing before).asks? i = some w ∧
      (controller timing before).fetches.inFlight = true ∧
      (controller timing before).epoch = (controller timing past).epoch ∧
      (controller timing before).fetches.issued = (controller timing past).fetches.issued := by
  induction past with
  | nil => cases h
  | cons e past ih =>
    obtain ⟨t, i⟩ := e
    have he := (controller timing past).step_epoch t i
    have hb := (controller timing past).step_books t i
    have hempty (hf : (controller timing past).fetches.inFlight = false) :
        (controller timing past).fetches.followUp = [] := by
      have := tidy past hf
      simp_all [Fetches.callers]
    simp only [controller] at h ⊢
    generalize ((controller timing past).step t i).state.fetches = f at hb h ⊢
    rw [he]
    have earlier (hw : w ∈ (controller timing past).fetches.followUp) (hr : i.isReset = false)
        (hi : f.issued = (controller timing past).fetches.issued) :
        ∃ since t' i' before, (t, i) :: past = since ++ (t', i') :: before ∧
          (controller timing before).asks? i' = some w ∧
          (controller timing before).fetches.inFlight = true ∧
          (controller timing before).epoch =
            (if i.isReset then (controller timing past).epoch + 1
              else (controller timing past).epoch) ∧
          (controller timing before).fetches.issued = f.issued := by
      obtain ⟨since, t', i', before, rfl, ha, hf, hep, hn⟩ := ih hw
      exact ⟨(t, i) :: since, t', i', before, rfl, ha, hf, by simp [hr, hep], hn.trans hi.symm⟩
    cases hb with
    | idle _ _ hr => exact earlier h hr rfl
    | @asked _ v ha =>
      have hr := (Controller.asks?_eq_some ha).2
      cases hf : (controller timing past).fetches.inFlight with
      | false =>
        rw [Fetches.enroll, hf, if_neg Bool.false_ne_true, hempty hf] at h
        cases h
      | true =>
        rw [Fetches.enroll, if_pos hf] at h earlier ⊢
        rcases List.mem_append.1 h with hw | hw
        · exact earlier hw hr rfl
        · obtain rfl := List.mem_singleton.1 hw
          exact ⟨[], t, i, past, rfl, ha, hf, by simp [hr], rfl⟩
    | polled hf =>
      rw [hempty hf] at h
      cases h
    | ended =>
      unfold Fetches.advance at h
      split at h
      · next hu => simp [List.isEmpty_iff.1 hu] at h
      · cases h
    | reset => cases h

/-- A list call is made by a poll, or because someone wants to know. -/
theorem Orderly.polls_or_wanted {past : History} {t : Nat} {i : Input}
    (h : Orderly timing ((t, i) :: past)) {epoch seq : Nat}
    (hq : .list epoch seq ∈ ((controller timing past).step t i).calls) :
    (controller timing past).polls t i = true ∨ Wanted timing past i := by
  obtain ⟨ho, -, hi⟩ := h
  have hissued := ((Controller.list_mem_calls_step t _).1 hq).2.2
  have hb := (controller timing past).step_books t i
  generalize hf : ((controller timing past).step t i).state.fetches = f at hb hissued
  cases hb with
  | idle => omega
  | asked ha => exact .inr (.now ha)
  | polled => exact .inl (Controller.polls_of_call hq)
  | ended seq' r =>
    obtain ⟨-, rfl⟩ := (ho.list_mem_pending_iff seq').1 hi
    cases hu : (controller timing past).fetches.followUp with
    | nil => simp [Fetches.advance, hu] at hissued
    | cons w ws =>
      obtain ⟨since, t', i', before, rfl, ha, hfl, he, hn⟩ := asked_of_mem_followUp
        (hu ▸ List.mem_cons_self : w ∈ (controller timing past).fetches.followUp)
      have hp := (ho.of_append.1.list_mem_pending_iff _).2 ⟨hfl, rfl⟩
      rw [he, hn] at hp
      exact .inr (.meanwhile rfl ha hp r)
  | reset => exact absurd hissued (Nat.ne_of_lt (Nat.lt_succ_self _))

theorem Orderly.le_now {past since : History} {t : Nat} {i : Input}
    (h : Orderly timing (since ++ (t, i) :: past)) : t ≤ now (since ++ (t, i) :: past) := by
  induction since with
  | nil => exact Nat.le_refl t
  | cons e since ih => exact Nat.le_trans (ih h.1) h.2.1

theorem Orderly.le_due {past since : History} {t : Nat} {i : Input}
    (h : Orderly timing (since ++ (t, i) :: past))
    (hp : (controller timing past).polls t i = true) :
    ∀ due ∈ (controller timing (since ++ (t, i) :: past)).poll.due,
      t + timing.pollInterval.nanos ≤ due := by
  induction since with
  | nil =>
    intro due hd
    have hb := (controller timing past).step_beats t i
    simp only [List.nil_append, controller] at hd
    generalize ((controller timing past).step t i).state.poll.due = d at hb hd
    cases hb with
    | polled =>
      rw [(timing_controller timing past).2] at hd
      exact Nat.le_of_eq (Option.some.inj hd)
    | _ hn => exact absurd hp (by simp [hn])
  | cons e since ih =>
    obtain ⟨t', i'⟩ := e
    obtain ⟨ho, hle, -⟩ := h
    have hlate : t ≤ t' := Nat.le_trans ho.le_now hle
    have hb := (controller timing (since ++ (t, i) :: past)).step_beats t' i'
    have hint := (timing_controller timing (since ++ (t, i) :: past)).2
    intro due hd
    simp only [List.cons_append, controller] at hd
    generalize ((controller timing (since ++ (t, i) :: past)).step t' i').state.poll.due = d
      at hb hd
    cases hb with
    | kept => exact ih ho due hd
    | off => cases hd
    | _ =>
      obtain rfl := Option.some.inj hd
      rw [hint]
      exact Nat.add_le_add_right hlate _

/-- Polls that are served when they fall due keep one interval from the moment at which polling was
turned on, for as long as it stays on. -/
theorem Punctual.cadence {since before : History} {a : Nat} {i : Input}
    (h : Punctual timing (since ++ (a, i) :: before))
    (hoff : (controller timing before).session.polling = false)
    (hon : StaysOn timing ((a, i) :: before) since) :
    ∃ n, polls timing ((a, i) :: before) since =
        (List.range' 1 n).map (fun k => a + k * timing.pollInterval.nanos) ∧
      (controller timing (since ++ (a, i) :: before)).poll.due =
        some (a + (n + 1) * timing.pollInterval.nanos) ∧
      now (since ++ (a, i) :: before) ≤ a + (n + 1) * timing.pollInterval.nanos := by
  induction since with
  | nil =>
    have hb := (controller timing before).step_beats a i
    have hint := (timing_controller timing before).2
    have hset := (due_isSome _).trans hon
    have hnone : (controller timing before).poll.due = none := by
      simpa [hoff] using
        (due_isSome before : _ = (controller timing before).session.polling)
    refine ⟨0, rfl, ?_, Nat.le_add_right a _⟩
    simp only [List.nil_append, controller, Nat.zero_add, Nat.one_mul] at hset ⊢
    generalize ((controller timing before).step a i).state.poll.due = d at hb hset
    cases hb with
    | kept => simp [hnone] at hset
    | off => cases hset
    | _ => rw [hint]
  | cons e since ih =>
    obtain ⟨t, j⟩ := e
    obtain ⟨n, hpolls, hdue, -⟩ := ih h.1 hon.1
    have hle : t ≤ a + (n + 1) * timing.pollInterval.nanos := h.2 _ hdue
    have hset := (due_isSome _).trans hon.2
    have hb := (controller timing (since ++ (a, i) :: before)).step_beats t j
    have hint := (timing_controller timing (since ++ (a, i) :: before)).2
    simp only [List.cons_append, polls, now, controller, hpolls] at hset ⊢
    generalize ((controller timing (since ++ (a, i) :: before)).step t j).state.poll.due = d
      at hb hset
    cases hb with
    | kept hn => exact ⟨n, by simp [hn], hdue, hle⟩
    | on _ hnone => cases hdue.symm.trans hnone
    | off => cases hset
    | polled hp =>
      obtain ⟨-, hd⟩ := Controller.polls_iff.1 hp
      have hge : a + (n + 1) * timing.pollInterval.nanos ≤ t := by
        simpa [Ticker.isDue, hdue] using hd
      obtain rfl : t = a + (n + 1) * timing.pollInterval.nanos := Nat.le_antisymm hle hge
      refine ⟨n + 1, ?_, ?_, ?_⟩
      · simp [hp, List.range'_concat, Nat.add_comm 1 n]
      · rw [hint, Nat.add_assoc, ← Nat.succ_mul]
      · rw [Nat.succ_mul (n + 1)]
        omega

variable (timing) in
structure Paced (past : History) : Prop where
  /-- While polling stays on, polls are one interval apart from the moment at which it was turned
  on, none is left out, and nothing that is handled meanwhile moves the next one. -/
  cadence (hp : Punctual timing past) {since before : History} {a : Nat} {i : Input}
    (hs : past = since ++ (a, i) :: before)
    (hoff : (controller timing before).session.polling = false)
    (hon : StaysOn timing ((a, i) :: before) since) :
    ∃ n, polls timing ((a, i) :: before) since =
        (List.range' 1 n).map (fun k => a + k * timing.pollInterval.nanos) ∧
      (controller timing past).poll.due = some (a + (n + 1) * timing.pollInterval.nanos) ∧
      now past ≤ a + (n + 1) * timing.pollInterval.nanos
  call {t : Nat} {i : Input} (hi : (controller timing past).polls t i = true)
    (hn : ∀ seq, .list (controller timing past).epoch seq ∉ pending timing past) :
    ((controller timing past).step t i).calls =
      [.list (controller timing past).epoch (past.listCalls timing + 1)]
  dropped {t : Nat} {i : Input} (hi : (controller timing past).polls t i = true) {seq : Nat}
    (hp : .list (controller timing past).epoch seq ∈ pending timing past) :
    ((controller timing past).step t i).calls = []
  wanted (hoff : (controller timing past).session.polling = false) {t : Nat} {i : Input}
    (hle : now past ≤ t) (hi : Admits timing past i) {epoch seq : Nat}
    (hq : .list epoch seq ∈ ((controller timing past).step t i).calls) : Wanted timing past i
  /-- Between two list calls that polls make lies an interval at least, whether or not polling
  stays on. -/
  apart {since before : History} {t₁ t₂ : Nat} {q₁ q₂ : Request}
    (hs : past = since ++ (t₁, .pollDue) :: before)
    (h₁ : q₁ ∈ ((controller timing before).step t₁ .pollDue).calls)
    (h₂ : q₂ ∈ ((controller timing past).step t₂ .pollDue).calls) :
    t₁ + timing.pollInterval.nanos ≤ t₂

theorem Orderly.paced {past : History} (h : Orderly timing past) : Paced timing past where
  cadence hp since before a i hs hoff hon := by
    subst hs
    exact hp.cadence hoff hon
  call hi hn := by
    have hf : (controller timing past).fetches.inFlight = false := by
      cases hf : (controller timing past).fetches.inFlight with
      | false => rfl
      | true => exact absurd ((h.list_mem_pending_iff _).2 ⟨hf, rfl⟩) (hn _)
    rw [Controller.calls_of_polls hi, hf, if_neg Bool.false_ne_true, issued_controller]
  dropped hi seq hp := by
    rw [Controller.calls_of_polls hi, ((h.list_mem_pending_iff seq).1 hp).1, if_pos rfl]
  wanted hoff t i hle hi epoch seq hq := by
    refine (Orderly.polls_or_wanted ⟨h, hle, hi⟩ hq).resolve_left fun hp => ?_
    have ha := Ticker.isArmed_of_isDue (Controller.polls_iff.1 hp).2
    rw [(settled timing past).armed, ← (settled timing past).polling, hoff] at ha
    nomatch ha
  apart {since before t₁ t₂ q₁ q₂} hs h₁ h₂ := by
    subst hs
    obtain ⟨-, hd⟩ := Controller.polls_iff.1 (Controller.polls_of_call h₂)
    obtain ⟨due, hdue, hle⟩ := (Option.any_eq_true _ _).1 hd
    exact Nat.le_trans (h.le_due (Controller.polls_of_call h₁) due hdue) (of_decide_eq_true hle)

end History

theorem Settings.le_pollInterval_of_resolve {o : Overrides} {file : Option SettingsFile}
    {s : Settings} (h : resolve o file = .ok s) :
    250 * Instant.nanosPerMilli ≤ s.timing.pollInterval.nanos := by
  have hmerge (f : FileSettings) :
      250 * Instant.nanosPerMilli ≤ (merge o f).timing.pollInterval.nanos :=
    le_nanos_atLeast leastPollInterval _
  cases file with
  | none =>
    obtain rfl := Except.ok.inj h
    exact hmerge {}
  | some f =>
    simp only [resolve] at h
    cases hf : f.read with
    | error e => simp [hf, Except.map] at h
    | ok settings =>
      rw [hf] at h
      obtain rfl := Except.ok.inj h
      exact hmerge settings

theorem Program.le_pollInterval_of_prepare {i : Invocation} {file : Option SettingsFile}
    {s : Settings} (h : prepare i file = .ok s) :
    250 * Instant.nanosPerMilli ≤ s.timing.pollInterval.nanos := by
  unfold prepare at h
  cases hr : Settings.resolve i.overrides file with
  | error e => simp [hr, bind, Except.bind] at h
  | ok settings =>
    have hle := Settings.le_pollInterval_of_resolve hr
    cases hc : settings.client.check with
    | error f =>
      rw [hr] at h
      simp only [bind, Except.bind, hc] at h
      cases h
    | ok u =>
      rw [hr] at h
      simp only [bind, Except.bind, hc] at h
      obtain rfl := Except.ok.inj h
      exact hle

namespace History

variable {timing : Timing}

/-- After every orderly history polls keep their interval, and whatever the command line and the
settings file say, that is a quarter of a second at least. -/
theorem polls_keep_interval {past : History} (h : Orderly timing past) :
    Paced timing past ∧
      ∀ (i : Invocation) (file : Option SettingsFile) (s : Settings),
        Program.prepare i file = .ok s →
          250 * Instant.nanosPerMilli ≤ s.timing.pollInterval.nanos :=
  ⟨h.paced, fun _ _ _ => Program.le_pollInterval_of_prepare⟩

/-- A run is active from the first second on. A sync and its answer come in between and do not move
the polls, the first of which finds the call of the sync pending. -/
theorem polls_keep_interval_during_sync :
    let listing : Except Failure Listing :=
      .ok ⟨[⟨7, .manual, .running, none, none, 0, 0, 0, 0⟩], .null⟩
    let before : History := [(0, .command 0 .bootstrap)]
    let since : History := [(12000000000, .listed 0 3 listing), (11000000000, .pollDue),
      (7000000000, .listed 0 2 listing), (6000000000, .pollDue), (4000000000, .command 1 .sync)]
    let past := since ++ (1000000000, .listed 0 1 listing) :: before
    Orderly {} past ∧ Punctual {} past ∧
      polls {} ((1000000000, .listed 0 1 listing) :: before) since = [6000000000, 11000000000] ∧
      ((controller {} past).step 16000000000 .pollDue).calls = [.list 0 4] ∧
      11000000000 + ({} : Timing).pollInterval.nanos ≤ 16000000000 := by
  intro listing before since past
  have h : Orderly {} past := by decide
  have hp : Punctual {} past := by decide
  obtain ⟨hpaced, -⟩ := polls_keep_interval h
  obtain ⟨n, hpolls, hdue, -⟩ := hpaced.cadence hp rfl (by decide) (by decide)
  have hn : n = 2 := by
    have hnext : (controller {} past).poll.due = some 16000000000 := by decide
    have hi : ({} : Timing).pollInterval.nanos = 5000000000 := rfl
    have := Option.some.inj (hdue.symm.trans hnext)
    rw [hi] at this
    omega
  have hnone : pending {} past = [] := by decide
  have hcall : ((controller {} past).step 16000000000 .pollDue).calls = [.list 0 4] :=
    (hpaced.call (by decide) (by simp [hnone])).trans (by decide)
  have hlast : past = [(12000000000, .listed 0 3 listing)] ++
      (11000000000, .pollDue) :: past.drop 2 := rfl
  have hfirst : .list 0 3 ∈ ((controller {} (past.drop 2)).step 11000000000 .pollDue).calls := by
    decide
  exact ⟨h, hp, by rw [hpolls, hn]; rfl, hcall,
    hpaced.apart hlast hfirst (hcall ▸ List.mem_singleton_self _)⟩

end History

end RunWatch
