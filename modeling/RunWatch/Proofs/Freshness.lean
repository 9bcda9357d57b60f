import RunWatch.Proofs.Bookkeeping
set_option autoImplicit false

namespace RunWatch

theorem publish_mem_of_reply {as bs sent rest : List Action} {s : Snapshot} {k : Caller} {r : Reply}
    (h : as ++ .publish s :: bs = sent ++ .reply k r :: rest) (ha : .reply k r ∉ as) :
    .publish s ∈ sent := by
  rcases List.append_eq_append_iff.1 h with ⟨cs, rfl, hc⟩ | ⟨cs, rfl, hc⟩
  · cases cs with
    | nil => nomatch hc
    | cons c cs =>
      obtain ⟨rfl, -⟩ := List.cons.inj hc
      exact List.mem_append_right _ List.mem_cons_self
  · cases cs with
    | nil => nomatch hc
    | cons c cs =>
      obtain ⟨rfl, -⟩ := List.cons.inj hc
      exact absurd (List.mem_append_right _ List.mem_cons_self) ha

theorem reply_not_mem_followActions (p : Ticker) (now : Nat) (active : Bool) (k : Caller)
    (r : Reply) : .reply k r ∉ p.followActions now active := fun h =>
  nomatch p.forall_followActions (P := (·.reply? = none)) (fun _ => rfl) (fun _ => rfl) now active
    _ h

theorem reply_not_mem_enrollCalls (f : Fetches) (epoch : Nat) (k : Caller) (r : Reply) :
    .reply k r ∉ f.enrollCalls epoch := fun h =>
  nomatch f.forall_enrollCalls (P := (·.reply? = none)) (fun _ _ => rfl) epoch _ h

theorem reply_not_mem_advanceCalls (f : Fetches) (epoch : Nat) (k : Caller) (r : Reply) :
    .reply k r ∉ f.advanceCalls epoch := fun h =>
  nomatch f.forall_advanceCalls (P := (·.reply? = none)) (fun _ _ => rfl) epoch _ h

namespace Controller

/-- Whom a step may answer: whoever issued the command, or started, and those who wait for a fetch
when that has ended or a reset comes. -/
inductive Answers (c : Controller) (after : Session) : Input → Caller → Reply → Prop where
  | issuer (k : Caller) (cmd : Command) (r : Reply) : Answers c after (.command k cmd) k r
  | starter (epoch : Nat) (k : Caller) (result : Except Failure Started) (r : Reply) :
      Answers c after (.triggered epoch k result) k r
  | fetched {w : Waiter} (hw : w ∈ c.fetches.current) (seq : Nat)
      (result : Except Failure Listing) :
      Answers c after (.listed c.epoch seq result) w.caller (Turn.waiterReply after w)
  | reset {w : Waiter} (hw : w ∈ c.fetches.current ++ c.fetches.followUp) (k : Caller) :
      Answers c after (.command k .reset) w.caller (resetReply w)

theorem step_answers {now : Nat} {c : Controller} {i : Input} {k : Caller} {r : Reply}
    (h : .reply k r ∈ (c.step now i).actions) :
    c.Answers (c.step now i).state.session i k r := by
  induction i using input_cases now c with
  | fetch j cmd hc =>
    rw [step_fetch now c j hc] at h
    exact absurd h (reply_not_mem_enrollCalls _ _ k r)
  | startRefused j hs =>
    rw [step_start_refused now c j hs] at h
    obtain ⟨rfl, rfl⟩ := Action.reply.inj (List.mem_singleton.1 h)
    exact .issuer _ _ _
  | start j hs =>
    rw [step_start now c j hs] at h
    simp at h
  | reset j =>
    rw [step_reset] at h
    simp only [List.mem_append, List.mem_map, List.mem_cons, reduceCtorEq, false_or, or_false,
      List.not_mem_nil, Action.reply.injEq] at h
    rcases h with ⟨w, hw, rfl, rfl⟩ | ⟨rfl, rfl⟩
    · exact .reset (List.mem_append.2 hw) j
    · exact .issuer _ _ _
  | listedStale epoch seq result he =>
    rw [step_listed_stale now c seq result he] at h
    nomatch h
  | listed seq result =>
    rw [step_listed] at h ⊢
    obtain ⟨w, hw, rfl, rfl⟩ : ∃ w ∈ c.fetches.current, w.caller = k ∧ Turn.waiterReply
        ((c.session.afterListed seq result).follow c.poll) w = r := by
      simpa [reply_not_mem_followActions, reply_not_mem_advanceCalls] using h
    exact .fetched hw seq result
  | triggeredStale epoch j result he =>
    rw [step_triggered_stale now c j result he] at h
    obtain ⟨rfl, rfl⟩ := Action.reply.inj (List.mem_singleton.1 h)
    exact .starter _ _ _ _
  | started j result =>
    rw [step_started] at h
    obtain ⟨rfl, -⟩ : k = j ∧ r = .outcome (.started result.runId result.reused) := by
      simpa [reply_not_mem_followActions] using h
    exact .starter _ _ _ _
  | conflict j runId message requestId =>
    rw [step_conflict] at h
    simp [reply_not_mem_followActions, reply_not_mem_enrollCalls] at h
  | refused j f hf =>
    rw [step_refused now c j hf] at h
    obtain ⟨rfl, -⟩ : k = j ∧ r = .outcome (.ofFailure f) := by simpa using h
    exact .starter _ _ _ _
  | pollEarly hd =>
    rw [step_pollDue_early now c hd] at h
    nomatch h
  | poll hd =>
    rw [step_pollDue now c hd] at h
    simp [reply_not_mem_enrollCalls] at h
  | startingEarly hd =>
    rw [step_startingDue_early now c hd] at h
    nomatch h
  | starting hd =>
    rw [step_startingDue now c hd] at h
    split at h <;> simp at h

/-- When a list call has ended, whoever is answered has been shown what came of it. -/
theorem publish_mem_of_listed {now : Nat} {c : Controller} {seq : Nat}
    {result : Except Failure Listing} {k : Caller} {r : Reply} {sent rest : List Action}
    (h : (c.step now (.listed c.epoch seq result)).actions = sent ++ .reply k r :: rest) :
    .publish (c.step now (.listed c.epoch seq result)).state.session.snapshot ∈ sent := by
  rw [step_listed] at h ⊢
  exact publish_mem_of_reply h (by simp [reply_not_mem_followActions])

theorem not_reply_of_asks {now : Nat} {c : Controller} {i : Input} {w : Waiter}
    (h : c.asks? i = some w) (k : Caller) (r : Reply) : .reply k r ∉ (c.step now i).actions := by
  unfold asks? at h
  split at h
  · rw [step_fetch now c _ (.inl rfl)]
    exact reply_not_mem_enrollCalls _ _ k r
  · rw [step_fetch now c _ (.inr rfl)]
    exact reply_not_mem_enrollCalls _ _ k r
  · split at h
    · next he =>
      rw [he, step_conflict]
      simp [reply_not_mem_followActions, reply_not_mem_enrollCalls]
    · nomatch h
  · nomatch h

theorem fetches_of_asks {c : Controller} {i : Input} {w : Waiter} (h : c.asks? i = some w)
    (now : Nat) : (c.step now i).state.fetches = c.fetches.enroll w := by
  have hb := c.step_books now i
  generalize (c.step now i).state.fetches = f at hb ⊢
  cases hb with
  | asked ha => rw [Option.some.inj (h.symm.trans ha)]
  | idle ha => nomatch h.symm.trans ha
  | _ => nomatch h

theorem caller_of_asks {c : Controller} {i : Input} {w : Waiter} (h : c.asks? i = some w) :
    i.commander = [w.caller] ∨ i.call? = some (.trigger c.epoch w.caller) := by
  unfold asks? at h
  split at h
  · obtain rfl := Option.some.inj h
    exact .inl rfl
  · obtain rfl := Option.some.inj h
    exact .inl rfl
  · split at h
    · next he =>
      obtain rfl := Option.some.inj h
      exact .inr (he ▸ rfl)
    · nomatch h
  · nomatch h

end Controller

/-- Nobody but `w` waits under the caller of `w`, and whoever is waited for now was asked to be
fetched after the first `n` list calls. -/
structure Fetches.Keeps (f : Fetches) (w : Waiter) (n : Nat) : Prop where
  current : ∀ v ∈ f.current, v.caller = w.caller → v = w ∧ n < f.issued
  followUp : ∀ v ∈ f.followUp, v.caller = w.caller → v = w
  issued : n ≤ f.issued

namespace Fetches

variable {f : Fetches} {v w : Waiter} {n : Nat}

theorem keeps_enroll_self (h : w.caller ∉ f.callers) : (f.enroll w).Keeps w f.issued := by
  have hne {v : Waiter} (hv : v ∈ f.current ∨ v ∈ f.followUp) : v.caller ≠ w.caller := fun hc =>
    h (hc ▸ List.mem_map_of_mem (List.mem_append.2 hv))
  unfold enroll
  split
  · refine ⟨fun v hv hc => absurd hc (hne (.inl hv)), fun v hv hc => ?_, Nat.le_refl _⟩
    rcases List.mem_append.1 hv with hv | hv
    · exact absurd hc (hne (.inr hv))
    · exact List.mem_singleton.1 hv
  · refine ⟨fun v hv hc => ?_, fun v hv hc => absurd hc (hne (.inr hv)), Nat.le_succ _⟩
    rcases List.mem_append.1 hv with hv | hv
    · exact absurd hc (hne (.inl hv))
    · exact ⟨List.mem_singleton.1 hv, Nat.lt_succ_self _⟩

theorem Keeps.enroll (h : f.Keeps w n) (hv : v.caller ≠ w.caller) : (f.enroll v).Keeps w n := by
  unfold Fetches.enroll
  split
  · refine ⟨h.current, fun u hu hc => ?_, h.issued⟩
    rcases List.mem_append.1 hu with hu | hu
    · exact h.followUp u hu hc
    · exact absurd (List.mem_singleton.1 hu ▸ hc) hv
  · refine ⟨fun u hu hc => ?_, h.followUp, Nat.le_succ_of_le h.issued⟩
    rcases List.mem_append.1 hu with hu | hu
    · exact (h.current u hu hc).imp_right Nat.lt_succ_of_lt
    · exact absurd (List.mem_singleton.1 hu ▸ hc) hv

theorem Keeps.advance (h : f.Keeps w n) : f.advance.Keeps w n := by
  unfold Fetches.advance
  split
  · exact ⟨nofun, h.followUp, h.issued⟩
  · exact ⟨fun v hv hc => ⟨h.followUp v hv hc, Nat.lt_succ_of_le h.issued⟩, nofun,
      Nat.le_succ_of_le h.issued⟩

end Fetches

theorem Fetches.Keeps.books {c : Controller} {i : Input} {f : Fetches} {w : Waiter} {n : Nat}
    (h : c.fetches.Keeps w n) (hb : c.Books i f)
    (hne : ∀ v, c.asks? i = some v → v.caller ≠ w.caller) : f.Keeps w n := by
  cases hb with
  | idle => exact h
  | asked ha => exact h.enroll (hne _ ha)
  | polled hf =>
    exact ⟨fun v hv hc => (h.current v hv hc).imp_right Nat.lt_succ_of_lt, h.followUp,
      Nat.le_succ_of_le h.issued⟩
  | ended => exact h.advance
  | reset => exact ⟨nofun, nofun, h.issued⟩

namespace History

variable (timing : Timing)

/-- What holds from the moment on at which someone asked, when `before` had been handled: their
caller waits for nothing else, and for a fetch that is newer than all that were made before. -/
structure Asked (before : History) (w : Waiter) (past : History) : Prop where
  known : w.caller ∈ past.commanders
  idle (epoch : Nat) : .trigger epoch w.caller ∉ pending timing past
  keeps : (controller timing past).fetches.Keeps w (before.listCalls timing)

variable {timing}

theorem Asked.of_asks {before : History} {t : Nat} {i : Input} {w : Waiter}
    (h : Orderly timing ((t, i) :: before)) (hw : (controller timing before).asks? i = some w) :
    Asked timing before w ((t, i) :: before) := by
  have hf : (controller timing ((t, i) :: before)).fetches =
      (controller timing before).fetches.enroll w := Controller.fetches_of_asks hw t
  have hle := h.count_waitedFor_le w.caller
  have hone := h.count_commanders_le w.caller
  have hen := (controller timing before).fetches.count_enroll w w.caller
  rw [waitedFor, List.count_append, hf] at hle
  rw [List.count_singleton_self] at hen
  have hnew : w.caller ∉ (controller timing before).fetches.callers :=
    List.count_eq_zero.1 (by omega)
  have hidle : w.caller ∉ (pending timing ((t, i) :: before)).filterMap Request.starter? :=
    List.count_eq_zero.1 (by omega)
  refine ⟨List.count_pos_iff.1 (by omega), fun epoch hm => ?_, ?_⟩
  · exact hidle (List.mem_filterMap.2 ⟨_, hm, rfl⟩)
  · rw [hf, ← issued_controller]
    exact Fetches.keeps_enroll_self hnew

theorem Asked.step {before past : History} {t : Nat} {i : Input} {w : Waiter}
    (ha : Asked timing before w past) (h : Orderly timing ((t, i) :: past)) :
    Asked timing before w ((t, i) :: past) := by
  obtain ⟨hp, -, hi⟩ := h
  have hcommand {k : Caller} {cmd : Command} (he : i = .command k cmd) : k ≠ w.caller := by
    rintro rfl
    rw [he] at hi
    exact hi ha.known
  refine ⟨List.mem_append_right _ ha.known, fun epoch hm => ?_, ?_⟩
  · rcases mem_pending_cons.1 hm with ⟨hm, -⟩ | hm
    · exact ha.idle epoch hm
    · exact hcommand (Controller.trigger_mem_calls_step.1 hm).2.1 rfl
  · refine ha.keeps.books ((controller timing past).step_books t i) fun v hv hc => ?_
    rcases Controller.caller_of_asks hv with hk | hk
    · cases i with
      | command k cmd =>
        obtain ⟨rfl, -⟩ := List.cons.inj hk
        exact hcommand rfl hc
      | _ => nomatch hk
    · exact ha.idle _ (hc ▸ (admits_iff_mem_pending hk).1 hi)

theorem Asked.append {before : History} {t : Nat} {i : Input} {w : Waiter} (after : History)
    (h : Orderly timing (after ++ (t, i) :: before))
    (hw : (controller timing before).asks? i = some w) :
    Asked timing before w (after ++ (t, i) :: before) := by
  induction after with
  | nil => exact .of_asks h hw
  | cons e after ih => exact (ih h.1).step h

/-- Whoever asks is not answered at once, but by a reset, or when a list call ends that was made
later than all that had been made when they asked; the session has taken in what it brought, and
has been shown, before they hear of it. -/
theorem answered_by_newer_fetch {before : History} (after : History) {t₀ t : Nat} {i₀ i : Input}
    {w : Waiter} (h : Orderly timing ((t, i) :: (after ++ (t₀, i₀) :: before)))
    (hw : (controller timing before).asks? i₀ = some w) :
    (∀ r, .reply w.caller r ∉ ((controller timing before).step t₀ i₀).actions) ∧
      ∀ (r : Reply) (sent rest : List Action),
        let c := controller timing (after ++ (t₀, i₀) :: before)
        let session := (c.step t i).state.session
        (c.step t i).actions = sent ++ .reply w.caller r :: rest →
          (i.isReset = true ∧ r = Controller.resetReply w) ∨
            ∃ seq result, i = .listed c.epoch seq result ∧
              (∀ epoch seq', .list epoch seq' ∈ before.actions timing → seq' < seq) ∧
              (∀ epoch, .list epoch seq ∉ pending timing before) ∧
              session = (c.session.afterListed seq result).follow c.poll ∧
              .publish session.snapshot ∈ sent ∧ r = Turn.waiterReply session w := by
  refine ⟨Controller.not_reply_of_asks hw w.caller, fun r sent rest => ?_⟩
  intro c session hr
  obtain ⟨ho, -, hi⟩ := h
  have ha := Asked.append after ho hw
  have hm : .reply w.caller r ∈ (c.step t i).actions :=
    hr ▸ List.mem_append_right _ List.mem_cons_self
  have hans := Controller.step_answers hm
  generalize hk : w.caller = k at hans
  cases hans with
  | issuer k cmd r => exact absurd ha.known (hk ▸ hi)
  | starter epoch k result r => exact absurd hi (hk ▸ ha.idle epoch)
  | @fetched v hv seq result =>
    obtain ⟨rfl, hlt⟩ := ha.keeps.current v hv hk.symm
    obtain ⟨-, rfl⟩ := (ho.list_mem_pending_iff seq).1 hi
    have hold {epoch seq' : Nat} (hm : .list epoch seq' ∈ before.actions timing) :
        seq' < c.fetches.issued := Nat.lt_of_le_of_lt (seq_le_listCalls timing hm) hlt
    refine .inr ⟨_, result, rfl, fun _ _ => hold, fun epoch hp => ?_, ?_, ?_, rfl⟩
    · exact Nat.lt_irrefl _ (hold (list_mem_actions_of_pending hp))
    · exact congrArg (·.state.session) (c.step_listed t c.fetches.issued result)
    · exact Controller.publish_mem_of_listed hr
  | @reset v hv j =>
    refine .inl ⟨rfl, ?_⟩
    rcases List.mem_append.1 hv with hv | hv
    · rw [(ha.keeps.current v hv hk.symm).1]
    · rw [ha.keeps.followUp v hv hk.symm]

theorem conflict_answered_by_newer_fetch :
    let run (id : UInt64) : Run := ⟨id, .manual, .running, none, none, 0, 0, 0, 0⟩
    let listing (id : UInt64) : Except Failure Listing := .ok ⟨[run id], .null⟩
    let before : History := [(5, .command 1 .start), (0, .command 0 .sync)]
    let conflict : Input := .triggered 0 1 (.error (.conflict none "busy" (some "q")))
    let after : History := [(12, .listed 0 1 (listing 7))]
    let c := controller {} (after ++ (9, conflict) :: before)
    let last : Input := .listed 0 2 (listing 8)
    let answer : Reply := .outcome (.alreadyRunning (some 8) (some "q"))
    Orderly {} ((20, last) :: (after ++ (9, conflict) :: before)) ∧
      (c.step 20 last).actions = (c.step 20 last).actions.take 2 ++ [.reply 1 answer] ∧
      .publish (c.step 20 last).state.session.snapshot ∈ (c.step 20 last).actions.take 2 ∧
      .list 0 2 ∉ pending {} before := by
  intro run listing before conflict after c last answer
  have h : Orderly {} ((20, last) :: (after ++ (9, conflict) :: before)) := by decide
  have hw : (controller {} before).asks? conflict = some (.conflict 1 none (some "q")) := by decide
  have hr : (c.step 20 last).actions = (c.step 20 last).actions.take 2 ++ [.reply 1 answer] := by
    decide
  rcases (answered_by_newer_fetch after h hw).2 answer _ [] hr with
    ⟨hf, -⟩ | ⟨seq, result, hi, -, hp, -⟩
  · nomatch hf
  · obtain ⟨-, rfl, -⟩ := Input.listed.inj hi
    exact ⟨h, hr, by decide, hp 0⟩

end History

end RunWatch
