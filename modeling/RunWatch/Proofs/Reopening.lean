import RunWatch.Proofs.Honesty
import RunWatch.Proofs.Telling
/-!
Runs that are reopened. Answers are applied in the order in which they come, so a run that was shown
as ended is shown as going on once more if an answer that had been asked for earlier comes later.
The answer of a start can do that to a listing, and a listing to the answer of a start. Main
statement: with an honest server it happens once at most for each run between two resets.
-/
set_option autoImplicit false

namespace RunWatch

def ShowsEnded (id : UInt64) (held : Option Run) : Prop :=
  ∃ run ∈ held, run.id = id ∧ run.isTerminal = true

def ShowsOpen (id : UInt64) (held : Option Run) : Prop :=
  ∃ run ∈ held, run.id = id ∧ run.isTerminal = false

instance (id : UInt64) (held : Option Run) : Decidable (ShowsEnded id held) :=
  inferInstanceAs (Decidable (∃ run ∈ held, run.id = id ∧ run.isTerminal = true))

instance (id : UInt64) (held : Option Run) : Decidable (ShowsOpen id held) :=
  inferInstanceAs (Decidable (∃ run ∈ held, run.id = id ∧ run.isTerminal = false))

def StaysEnded (id : UInt64) (earlier later : Snapshot) : Prop :=
  ShowsEnded id earlier.latestRun → ¬ ShowsOpen id later.latestRun

instance (id : UInt64) (earlier later : Snapshot) : Decidable (StaysEnded id earlier later) :=
  inferInstanceAs (Decidable (_ → ¬ _))

/-- The run of an id has ended, or a newer one is held. -/
def Passed (id : UInt64) (held : Option Run) : Prop :=
  ∃ run ∈ held, id < run.id ∨ run.id = id ∧ run.isTerminal = true

variable {id : UInt64} {held held' : Option Run}

theorem ShowsEnded.passed (h : ShowsEnded id held) : Passed id held := by
  obtain ⟨run, hr, he⟩ := h
  exact ⟨run, hr, .inr he⟩

theorem Passed.not_open (h : Passed id held) : ¬ ShowsOpen id held := by
  rintro ⟨run, hr, rfl, ho⟩
  obtain ⟨run', hr', h⟩ := h
  obtain rfl := Option.some.inj (hr.symm.trans hr')
  rcases h with h | ⟨-, h⟩
  · exact UInt64.lt_irrefl _ h
  · exact nomatch h.symm.trans ho

theorem shows_of_completion {run : Run} (h : Session.completion? held held' = some run) :
    ShowsOpen run.id held ∧ ShowsEnded run.id held' := by
  cases held with
  | none => nomatch h
  | some r =>
    cases held' with
    | none => nomatch h
    | some r' =>
      obtain ⟨hc, hr⟩ := Option.ite_none_right_eq_some.1 h
      obtain rfl := Option.some.inj hr
      exact ⟨⟨r, rfl, hc.1, hc.2.1⟩, ⟨r', rfl, rfl, hc.2.2⟩⟩

theorem count_completion (id : UInt64) (held held' : Option Run) :
    ((Session.completion? held held').toList.map Run.id).count id = 0 ∨
      ((Session.completion? held held').toList.map Run.id).count id = 1 ∧
        ShowsOpen id held ∧ ShowsEnded id held' := by
  cases hc : Session.completion? held held' with
  | none => exact .inl rfl
  | some run =>
    by_cases hid : run.id = id
    · exact .inr ⟨by simp [hid], hid ▸ shows_of_completion hc⟩
    · exact .inl (by simp [hid])

namespace Controller

variable (now : Nat) (c : Controller)

theorem held_step {i : Input} (hr : i.isReset = false) :
    (c.step now i).state.session.latestRun = c.session.latestRun ∨
      ∃ run, c.brings? i = some run ∧ (c.step now i).state.session.latestRun = some run ∧
        ∀ old ∈ c.session.latestRun, old.id ≤ run.id := by
  rw [step_latestRun, hr, if_neg Bool.false_ne_true]
  cases hb : c.brings? i with
  | none => exact .inl rfl
  | some run =>
    simp only [Option.map_some, Option.getD_some, Session.holding]
    split
    · exact .inl rfl
    · next hs => exact .inr ⟨run, rfl, rfl, (Session.accepts_iff c.session run).2 hs⟩

theorem passed_step {i : Input} (hr : i.isReset = false) (hp : Passed id c.session.latestRun)
    (hn : ¬ (ShowsEnded id c.session.latestRun ∧
      ShowsOpen id (c.step now i).state.session.latestRun)) :
    Passed id (c.step now i).state.session.latestRun := by
  rcases c.held_step now hr with he | ⟨run, -, he, hle⟩
  · rwa [he]
  · rw [he] at hn ⊢
    obtain ⟨old, hold, ho⟩ := hp
    refine ⟨run, rfl, ?_⟩
    rcases ho with hlt | ⟨hid, hend⟩
    · exact .inl (UInt64.lt_of_lt_of_le hlt (hle old hold))
    · rcases UInt64.lt_or_eq_of_le (hid ▸ hle old hold) with hlt | heq
      · exact .inl hlt
      · -- the run is brought once more, so it is brought as ended
        refine .inr ⟨heq.symm, ?_⟩
        cases ht : run.isTerminal with
        | true => rfl
        | false => exact absurd ⟨⟨old, hold, hid, hend⟩, run, rfl, heq.symm, ht⟩ hn

theorem brings_of_shows {i : Input} (hr : i.isReset = false) {P : Option Run → Prop}
    (hp : P (c.step now i).state.session.latestRun) (hn : ¬ P c.session.latestRun) :
    P (c.brings? i) := by
  rcases c.held_step now hr with he | ⟨run, hb, he, -⟩
  · exact absurd (he ▸ hp) hn
  · rw [hb, ← he]
    exact hp

theorem step_shown (i : Input) :
    (c.step now i).actions.filterMap Action.shown? = [] ∨
      (c.step now i).actions.filterMap Action.shown? =
        [(c.step now i).state.session.snapshot] := by
  have h := c.step_showing now i
  generalize c.step now i = turn at h ⊢
  cases h with
  | silent hs has => exact .inl (List.filterMap_eq_nil_iff.2 has)
  | once hb ha =>
    have ha' := List.filterMap_eq_nil_iff.2 fun a h => Action.shown?_of_isAnswer (ha a h)
    exact .inr (by simp [List.filterMap_eq_nil_iff.2 hb, ha'])

end Controller

namespace History

variable (timing : Timing) (id : UInt64)

def sinceReset : History → List Action
  | [] => []
  | (t, i) :: past =>
    if i.isReset then [] else sinceReset past ++ ((controller timing past).step t i).actions

def shown (past : History) : List Snapshot := (sinceReset timing past).filterMap Action.shown?

def completions (past : History) : Nat :=
  (((sinceReset timing past).filterMap Action.completed?).map Run.id).count id

/-- A step makes a run that was held as ended go on again. -/
def Reopens (past : History) (t : Nat) (i : Input) : Prop :=
  ShowsEnded id (controller timing past).session.latestRun ∧
    ShowsOpen id (controller timing ((t, i) :: past)).session.latestRun

instance (past : History) (t : Nat) (i : Input) : Decidable (Reopens timing id past t i) :=
  inferInstanceAs (Decidable (_ ∧ _))

def reopenings : History → Nat
  | [] => 0
  | (t, i) :: past =>
    if i.isReset then 0
    else reopenings past + if Reopens timing id past t i then 1 else 0

/-- An answer to a call of the other kind has brought the run as ended since the call was made. -/
def Overtaken (q : Request) (past : History) : Prop :=
  ∃ since t i before q₀, past = since ++ (t, i) :: before ∧ NoReset since ∧
    q ∈ pending timing before ∧ i.call? = some q₀ ∧ q₀.isList ≠ q.isList ∧
    ShowsEnded id ((controller timing before).brings? i)

variable {timing} {id} {past : History} {t : Nat} {i : Input}

theorem shown_cons (hr : i.isReset = false) : shown timing ((t, i) :: past) =
    shown timing past ++ ((controller timing past).step t i).actions.filterMap Action.shown? := by
  simp [shown, sinceReset, hr]

theorem reopenings_cons (hr : i.isReset = false) : reopenings timing id ((t, i) :: past) =
    reopenings timing id past + if Reopens timing id past t i then 1 else 0 := by
  simp [reopenings, hr]

theorem completions_cons (hr : i.isReset = false) : completions timing id ((t, i) :: past) =
    completions timing id past +
      (((Session.completion? (controller timing past).session.latestRun
        (controller timing ((t, i) :: past)).session.latestRun).toList).map Run.id).count id := by
  simp [completions, sinceReset, hr, Controller.step_completed, controller]

/-- The end of a run is told once at most for each time that it goes on. -/
theorem completions_le (past : History) :
    completions timing id past ≤ reopenings timing id past + 1 ∧
      (¬ Passed id (controller timing past).session.latestRun →
        completions timing id past ≤ reopenings timing id past) := by
  induction past with
  | nil => exact ⟨Nat.zero_le _, fun _ => Nat.zero_le _⟩
  | cons e past ih =>
    obtain ⟨t, i⟩ := e
    cases hr : i.isReset with
    | true => simp [completions, reopenings, sinceReset, hr]
    | false =>
      obtain ⟨hle, hopen⟩ := ih
      have hpassed (hp : Passed id (controller timing past).session.latestRun) :=
        (controller timing past).passed_step t hr hp
      rw [completions_cons hr, reopenings_cons hr]
      have hcount := count_completion id (controller timing past).session.latestRun
        (controller timing ((t, i) :: past)).session.latestRun
      generalize (((Session.completion? (controller timing past).session.latestRun
        (controller timing ((t, i) :: past)).session.latestRun).toList).map Run.id).count id = n
        at hcount ⊢
      by_cases hre : Reopens timing id past t i
      · have hz : n = 0 := hcount.resolve_right fun h => hre.1.passed.not_open h.2.1
        rw [if_pos hre]
        exact ⟨by omega, fun _ => by omega⟩
      · rw [if_neg hre]
        rcases hcount with hz | ⟨hz, ho, he⟩
        · refine ⟨by omega, fun hnp => ?_⟩
          have := hopen fun hp => hnp (hpassed hp hre)
          omega
        · have := hopen fun hp => hp.not_open ho
          exact ⟨by omega, fun hnp => absurd he.passed hnp⟩

theorem shown_stretches {past : History} (h : reopenings timing id past ≤ 1) :
    ∃ first second, shown timing past = first ++ second ∧
      first.Pairwise (StaysEnded id) ∧ second.Pairwise (StaysEnded id) ∧
      (reopenings timing id past = 0 → first = []) ∧
      ∀ s ∈ second, ShowsEnded id s.latestRun →
        Passed id (controller timing past).session.latestRun := by
  induction past with
  | nil => exact ⟨[], [], rfl, .nil, .nil, fun _ => rfl, by simp⟩
  | cons e past ih =>
    obtain ⟨t, i⟩ := e
    cases hr : i.isReset with
    | true =>
      exact ⟨[], [], by simp [shown, sinceReset, hr], .nil, .nil, fun _ => rfl, by simp⟩
    | false =>
      rw [reopenings_cons hr] at h ⊢
      obtain ⟨first, second, hs, hf, hse, hz, hp⟩ := ih (by omega)
      rw [shown_cons hr, hs]
      have hpassed (hp : Passed id (controller timing past).session.latestRun) :=
        (controller timing past).passed_step t hr hp
      have hnew := (controller timing past).step_shown t i
      generalize ((controller timing past).step t i).actions.filterMap Action.shown? = new
        at hnew ⊢
      have hnp : new.Pairwise (StaysEnded id) := by
        rcases hnew with rfl | rfl
        · exact .nil
        · exact List.pairwise_singleton _ _
      have hends : ∀ s ∈ new, s.latestRun =
          (controller timing ((t, i) :: past)).session.latestRun := by
        rcases hnew with rfl | rfl
        · simp
        · simp [controller, Session.snapshot]
      by_cases hre : Reopens timing id past t i
      · rw [if_pos hre] at h ⊢
        obtain rfl := hz (by omega)
        exact ⟨second, new, rfl, hse, hnp, fun h => by omega, fun s hs he =>
          (hends s hs ▸ he).passed⟩
      · rw [if_neg hre]
        refine ⟨first, second ++ new, by simp, hf, ?_, hz, fun s hs he => ?_⟩
        · refine List.pairwise_append.2 ⟨hse, hnp, fun s hs s' hs' he => ?_⟩
          rw [hends s' hs']
          exact (hpassed (hp s hs he) hre).not_open
        · rcases List.mem_append.1 hs with hs | hs
          · exact hpassed (hp s hs he) hre
          · exact (hends s hs ▸ he).passed

variable {server : Server}

theorem Overtaken.cons {q : Request} (h : Overtaken timing id q past) (hr : i.isReset = false) :
    Overtaken timing id q ((t, i) :: past) := by
  obtain ⟨since, t₀, i₀, before, q₀, rfl, hn, h⟩ := h
  refine ⟨(t, i) :: since, t₀, i₀, before, q₀, rfl, fun e he => ?_, h⟩
  rcases List.mem_cons.1 he with rfl | he
  · exact hr
  · exact hn e he

variable (timing id server) in
/-- The run has ended, and of the calls that are pending one at most was made before, which was
overtaken. -/
structure OneBehind (past : History) : Prop where
  isOver : server.isOver id (now past) = true
  alone {q q' : Request} (h : Lags timing server id past q) (h' : Lags timing server id past q') :
    q = q'
  overtaken {q : Request} (h : Lags timing server id past q) : Overtaken timing id q past

theorem OneBehind.cons (h : OneBehind timing id server past) (hr : i.isReset = false)
    (ht : now past ≤ t) : OneBehind timing id server ((t, i) :: past) := by
  have hover := Server.isOver_mono h.isOver ht
  exact ⟨hover, fun hq hq' => h.alone (hq.of_cons hr hover).1 (hq'.of_cons hr hover).1,
    fun hq => (h.overtaken (hq.of_cons hr hover).1).cons hr⟩

theorem Honest.oneBehind_of_brings (hh : Honest timing server ((t, i) :: past))
    (ho : Orderly timing ((t, i) :: past)) (hr : i.isReset = false)
    (hb : ShowsEnded id ((controller timing past).brings? i)) :
    OneBehind timing id server ((t, i) :: past) := by
  have hbr := hb
  obtain ⟨run, hrun, rfl, hend⟩ := hb
  have hover := hh.isOver_of_brings ho hrun hend
  obtain ⟨q₀, sent, read, hq₀, hp₀, he₀, -⟩ := hh.of_brings ho hrun
  have hkind {q : Request} (h : Lags timing server run.id ((t, i) :: past) q) :
      Lags timing server run.id past q ∧ q₀.isList ≠ q.isList := by
    obtain ⟨hl, hne⟩ := h.of_cons hr hover
    refine ⟨hl, fun hk => hne ?_⟩
    rw [hq₀, ho.1.eq_of_isList_eq hp₀ hl.pending he₀ hl.epoch hk]
  refine ⟨hover, fun {q q'} h h' => ?_, fun {q} h => ?_⟩
  · obtain ⟨hl, hk⟩ := hkind h
    obtain ⟨hl', hk'⟩ := hkind h'
    refine ho.1.eq_of_isList_eq hl.pending hl'.pending hl.epoch hl'.epoch ?_
    revert hk hk'
    cases q₀.isList <;> cases q.isList <;> cases q'.isList <;> simp
  · obtain ⟨hl, hk⟩ := hkind h
    exact ⟨[], t, i, past, q₀, rfl, by simp [NoReset], hl.pending, hq₀, hk, hbr⟩

theorem Honest.lags_of_reopens (hh : Honest timing server ((t, i) :: past))
    (ho : Orderly timing ((t, i) :: past)) (hr : i.isReset = false)
    (h : Reopens timing id past t i) :
    ∃ q, i.call? = some q ∧ Lags timing server id past q := by
  obtain ⟨run, hrun, rfl, hopen⟩ := Controller.brings_of_shows t (controller timing past) hr
    (P := ShowsOpen id) h.2 h.1.passed.not_open
  exact hh.lags_of_brings ho hrun hopen

variable (timing id server) in
/-- How often a run was reopened, and which calls may still do that. -/
inductive Course (past : History) : Prop where
  | before (hz : reopenings timing id past = 0)
      (hl : ShowsEnded id (controller timing past).session.latestRun →
        OneBehind timing id server past)
  | after (ho : reopenings timing id past = 1) (hover : server.isOver id (now past) = true)
      (hn : ∀ q, ¬ Lags timing server id past q)

theorem Honest.course (hh : Honest timing server past) (ho : Orderly timing past) :
    Course timing id server past := by
  induction past with
  | nil =>
    refine .before rfl fun h => ?_
    obtain ⟨run, hrun, -⟩ := h
    nomatch hrun
  | cons e past ih =>
    obtain ⟨t, i⟩ := e
    have ih := ih hh.1 ho.1
    have ht : now past ≤ t := ho.2.1
    cases hr : i.isReset with
    | true =>
      refine .before (by simp [reopenings, hr]) fun h => ?_
      obtain ⟨run, hrun, -⟩ := h
      simp [controller, Controller.step_latestRun, hr] at hrun
    | false =>
      have hcons : reopenings timing id ((t, i) :: past) = _ := reopenings_cons hr
      cases ih with
      | before hz hl =>
        by_cases h : Reopens timing id past t i
        · have hone := hl h.1
          obtain ⟨q, hq, hlag⟩ := hh.lags_of_reopens ho hr h
          have hover := Server.isOver_mono hone.isOver ht
          -- the call that has ended was the only one that lagged behind
          refine .after (by rw [hcons, if_pos h, hz]) hover fun q' h' => ?_
          obtain ⟨hlag', hne⟩ := h'.of_cons hr hover
          exact hne (hone.alone hlag hlag' ▸ hq)
        · refine .before (by rw [hcons, if_neg h, hz]) fun he => ?_
          by_cases he₀ : ShowsEnded id (controller timing past).session.latestRun
          · exact (hl he₀).cons hr ht
          · exact hh.oneBehind_of_brings ho hr
              (Controller.brings_of_shows t _ hr (P := ShowsEnded id) he he₀)
      | after ho₁ hover hn =>
        have h : ¬ Reopens timing id past t i := fun h => by
          obtain ⟨q, -, hlag⟩ := hh.lags_of_reopens ho hr h
          exact hn q hlag
        have hover' := Server.isOver_mono hover ht
        exact .after (by rw [hcons, if_neg h, ho₁]) hover' fun q h' =>
          hn q (h'.of_cons hr hover').1

theorem Course.reopenings_le (h : Course timing id server past) :
    reopenings timing id past ≤ 1 := by
  cases h with
  | before hz => omega
  | after ho => omega

theorem Honest.overtaken_of_reopens (hh : Honest timing server ((t, i) :: past))
    (ho : Orderly timing ((t, i) :: past)) (h : Reopens timing id past t i) :
    ∃ q, i.call? = some q ∧ Overtaken timing id q past := by
  have hr : i.isReset = false := by
    cases hr : i.isReset with
    | false => rfl
    | true =>
      obtain ⟨run, hrun, -⟩ := h.2
      simp [controller, Controller.step_latestRun, hr] at hrun
  obtain ⟨q, hq, hlag⟩ := hh.lags_of_reopens ho hr h
  have hc : Course timing id server past := hh.1.course ho.1
  cases hc with
  | before hz hl => exact ⟨q, hq, (hl h.1).overtaken hlag⟩
  | after ho₁ hover hn => exact absurd hlag (hn q)

theorem Honest.of_append {since past : History} (h : Honest timing server (since ++ past)) :
    Honest timing server past := by
  induction since with
  | nil => exact h
  | cons e since ih => exact ih h.1

/-- A run that was shown as ended is shown as going on once more, between two resets, at most once,
and only by an answer that was overtaken by one of the other kind. Its end is told once for each
time that it goes on. -/
theorem reopened_only_by_overtaken_answer (hh : Honest timing server past)
    (ho : Orderly timing past) (id : UInt64) :
    (∃ first second, shown timing past = first ++ second ∧
      first.Pairwise (StaysEnded id) ∧ second.Pairwise (StaysEnded id) ∧
      (reopenings timing id past = 0 → first = [])) ∧
    reopenings timing id past ≤ 1 ∧
    completions timing id past ≤ reopenings timing id past + 1 ∧
    ∀ (after before : History) (t : Nat) (i : Input), past = after ++ (t, i) :: before →
      Reopens timing id before t i →
        ∃ q, i.call? = some q ∧ Overtaken timing id q before := by
  have hc : Course timing id server past := hh.course ho
  have hle := hc.reopenings_le
  obtain ⟨first, second, hs, hf, hse, hz, -⟩ := shown_stretches hle
  refine ⟨⟨first, second, hs, hf, hse, hz⟩, hle, (completions_le past).1, ?_⟩
  rintro after before t i rfl hre
  exact hh.of_append.overtaken_of_reopens ho.of_append hre

/-- The answer of a start comes after that of a listing which was asked for later. The server is
honest, and yet the run that was shown as ended goes on again and ends a second time. -/
theorem late_start_reopens_run :
    let listing (status : RunStatus) : Except Failure Listing :=
      .ok ⟨[⟨7, .manual, status, none, none, 0, 0, 0, 0⟩], .null⟩
    let started : Started := ⟨7, .running, 0, 0, 0, 0, 0, false, "key", .null⟩
    let past : History := [
      (8, .listed 0 3 (listing .success)), (7, .command 3 .sync),
      (6, .triggered 0 0 (.ok started)),
      (5, .listed 0 2 (listing .success)), (4, .command 2 .sync),
      (2, .listed 0 1 (listing .running)), (1, .command 1 .sync), (0, .command 0 .start)]
    Orderly {} past ∧ Honest {} (.single 7 1 3) past ∧ NoReset past ∧
      ¬ (shown {} past).Pairwise (StaysEnded 7) ∧ completions {} 7 past = 2 := by
  intro listing started past
  exact ⟨by decide, by decide, by decide, by decide, by decide⟩

theorem late_listing_reopens_run_once :
    let run : Run := ⟨7, .manual, .running, none, none, 0, 0, 0, 0⟩
    let started : Started := ⟨7, .success, 0, 0, 0, 0, 0, true, "key", .null⟩
    let before : History := [
      (35, .triggered 0 0 (.ok started)), (5, .command 1 .sync), (0, .command 0 .start)]
    let late : Input := .listed 0 1 (.ok ⟨[run], .null⟩)
    Honest {} (.single 7 1 20) ((40, late) :: before) ∧ Reopens {} 7 before 40 late ∧
      reopenings {} 7 ((40, late) :: before) ≤ 1 ∧ Overtaken {} 7 (.list 0 1) before := by
  intro run started before late
  have hh : Honest {} (.single 7 1 20) ((40, late) :: before) := by decide
  have ho : Orderly {} ((40, late) :: before) := by decide
  have hr : Reopens {} 7 before 40 late := by decide
  obtain ⟨-, hle, -, hq⟩ := reopened_only_by_overtaken_answer hh ho 7
  obtain ⟨q, hq, hover⟩ := hq [] before 40 late rfl hr
  obtain rfl := Option.some.inj hq
  exact ⟨hh, hr, hle, hover⟩

end History

end RunWatch
