import RunWatch.Proofs.Vigil
set_option autoImplicit false

namespace RunWatch

def Action.happening? : Action → Option Happening
  | .emit e => some (.told e)
  | .publish s => some (.shown s)
  | .reply k r => some (.replied k r)
  | .list .. => some .listCalled
  | .trigger .. => some .triggerCalled
  | .wakeAt _ => none

namespace Console

def watch (clock : Timestamp) (c : Console) (a : Action) : Console :=
  match a.happening? with
  | some h => c.see clock h
  | none => c

variable {c : Console}

theorem finish_eq (clock : Timestamp) (c : Console) :
    c.finish clock = (c.drain clock).close clock none := rfl

theorem isOver_conclude (c : Console) (fault : Option Fault) :
    (c.conclude fault).isOver = true := by
  unfold conclude
  split
  · assumption
  · rfl

theorem isOver_close (clock : Timestamp) (c : Console) (fault : Option Fault) :
    (c.close clock fault).isOver = true := by
  unfold close
  split <;> exact isOver_conclude _ _

theorem close_of_crashed (clock : Timestamp) (fault : Option Fault) (h : c.phase = .crashed) :
    c.close clock fault = c := by
  have hprint : c.printSnapshot clock = c := if_pos h
  have hconclude (fault : Option Fault) : c.conclude fault = c := by simp [conclude, isOver, h]
  unfold close
  split
  · rw [hprint, ite_self, hconclude]
  · rw [hprint, hconclude]

theorem see_of_isOver (clock : Timestamp) (h : c.isOver = true) (s : Happening) :
    c.see clock s = c := by
  unfold see
  split <;> simp_all [isOver]

theorem watch_of_isOver (clock : Timestamp) (h : c.isOver = true) (a : Action) :
    c.watch clock a = c := by
  unfold watch
  split
  · exact see_of_isOver clock h _
  · rfl

theorem watch_of_waiting (clock : Timestamp) (h : c.phase = .asking ∨ c.phase = .resetting)
    {a : Action} (ha : a.reply? = none) : c.watch clock a = c.receive a := by
  cases a with
  | reply => nomatch ha
  | _ => rcases h with h | h <;> simp [watch, Action.happening?, see, receive, h]

theorem watch_of_following (clock : Timestamp) (h : c.phase = .following) {a : Action}
    (he : a.event? = none) (hs : a.shown? = none) : c.watch clock a = c.receive a := by
  cases a with
  | emit => nomatch he
  | publish => nomatch hs
  | _ => simp [watch, Action.happening?, see, receive, h]

theorem tell_backlog (clock : Timestamp) (c : Console) (e : Event) (backlog : List Event) :
    tell clock { c with backlog } e = { tell clock c e with backlog } := by
  unfold tell
  split
  · rfl
  · split <;> rfl

theorem backlog_tell (clock : Timestamp) (c : Console) (e : Event) :
    (c.tell clock e).backlog = c.backlog := by
  unfold tell
  split
  · rfl
  · split <;> rfl

theorem backlog_read (clock : Timestamp) (c : Console) :
    (c.read clock).backlog = c.backlog.tail := by
  unfold read
  split
  · next h => simp [h]
  · next e rest h =>
    simp only [h, List.tail_cons]
    split
    · rfl
    · exact backlog_tell clock _ e

theorem drain_of_backlog_eq_nil (clock : Timestamp) (h : c.backlog = []) : c.drain clock = c := by
  obtain ⟨errand, json, phase, seen, backlog, printed⟩ := c
  obtain rfl : backlog = [] := h
  unfold drain
  split <;> rfl

theorem drain_text (clock : Timestamp) (h : c.json = false) :
    c.drain clock = c.backlog.foldl (tell clock) { c with backlog := [] } :=
  if_neg (by simp [h])

theorem watch_emit (clock : Timestamp) (h : c.phase = .following) (hb : c.backlog = [])
    (e : Event) : c.watch clock (.emit e) = (c.receive (.emit e)).drain clock := by
  obtain ⟨errand, json, phase, seen, backlog, printed⟩ := c
  obtain rfl : phase = .following := h
  obtain rfl : backlog = [] := hb
  cases json <;> rfl

theorem drain_read (clock : Timestamp) (c : Console) :
    (c.read clock).drain clock = c.drain clock := by
  unfold read
  split
  · rfl
  · next e rest h =>
    by_cases hj : c.json = true
    · simp [drain, hj]
    · have hd : c.json = false := by simpa using hj
      have hsame : (tell clock { c with backlog := rest } e).json = false :=
        (same_tell clock _ e).json.trans hd
      simp only
      rw [if_neg hj, drain_text clock hsame, drain_text clock hd, backlog_tell, h, List.foldl_cons,
        ← tell_backlog]

theorem backlog_drain (clock : Timestamp) (c : Console) : (c.drain clock).backlog = [] := by
  generalize h : c.backlog = es
  induction es generalizing c with
  | nil => rw [drain_of_backlog_eq_nil clock h, h]
  | cons e es ih =>
    rw [← drain_read]
    exact ih _ (by rw [backlog_read, h, List.tail_cons])

theorem drain_of_crashed (clock : Timestamp) (h : c.phase = .crashed) :
    c.drain clock = { c with backlog := [] } := by
  generalize hb : c.backlog = es
  induction es generalizing c with
  | nil => exact (drain_of_backlog_eq_nil clock hb).trans (by rw [← hb])
  | cons e es ih =>
    have hread : c.read clock = { c with backlog := es } := by simp [read, hb, tell, h]
    rw [← drain_read, hread]
    exact ih h rfl

theorem same_drain (clock : Timestamp) (c : Console) : c.Same (c.drain clock) := by
  generalize h : c.backlog = es
  induction es generalizing c with
  | nil =>
    rw [drain_of_backlog_eq_nil clock h]
    exact ⟨rfl, rfl, rfl⟩
  | cons e es ih =>
    rw [← drain_read]
    exact (c.same_read clock).trans (ih _ (by rw [backlog_read, h, List.tail_cons]))

theorem phase_drain (clock : Timestamp) (c : Console) :
    (c.drain clock).phase = c.phase ∨ (c.drain clock).phase = .crashed := by
  generalize h : c.backlog = es
  induction es generalizing c with
  | nil => exact .inl (by rw [drain_of_backlog_eq_nil clock h])
  | cons e es ih =>
    rw [← drain_read]
    rcases ih (c.read clock) (by rw [backlog_read, h, List.tail_cons]) with hd | hd
    · rw [hd]
      exact c.phase_read clock
    · exact .inr hd

end Console

namespace Vigil

variable {timing : Timing} {v w u : Vigil} {c : Console}

theorem Steps.trans (h : v.Steps timing w) (h' : w.Steps timing u) : v.Steps timing u := by
  induction h' with
  | refl => exact h
  | tail _ hu ih => exact ih.tail hu

theorem Step.then (h : v.Step timing w) (h' : w.Steps timing u) : v.Steps timing u :=
  Steps.trans (.tail .refl h) h'

/-- A vigil whose console has come as far as a console of the program. -/
inductive Abreast (v : Vigil) : Console → Prop where
  | live (hl : v.leave = .staying) (hf : v.fault = none) (ho : v.console.isOver = false)
      (hb : v.console.phase = .following → v.console.backlog = []) : Abreast v v.console
  | ended {c : Console} (ho : c.isOver = true) (hp : v.console.phase = c.phase)
      (hw : v.console.printed = c.printed) : Abreast v c

variable (timing) in
/-- The console of a vigil may come as far as another while the controller rests. -/
def Reaches (v : Vigil) (c : Console) : Prop :=
  ∃ console fault leave, v.Steps timing { v with console, fault, leave } ∧
    Abreast { v with console, fault, leave } c

theorem Abreast.congr (h : v.Abreast c) (hc : w.console = v.console) (hf : w.fault = v.fault)
    (hl : w.leave = v.leave) : w.Abreast c := by
  cases h with
  | live hl' hf' ho hb =>
    rw [← hc]
    exact .live (hl.trans hl') (hf.trans hf') (hc ▸ ho) (hc ▸ hb)
  | ended ho hp hw => exact .ended ho (hc ▸ hp) (hc ▸ hw)

theorem Abreast.of_not_over (h : v.Abreast c) (ho : c.isOver = false) :
    v.leave = .staying ∧ v.console = c := by
  cases h with
  | live hl => exact ⟨hl, rfl⟩
  | ended ho' => exact nomatch ho.symm.trans ho'

theorem Abreast.of_over (h : v.Abreast c) (ho : c.isOver = true) :
    v.console.phase = c.phase ∧ v.console.printed = c.printed := by
  cases h with
  | live => exact ⟨rfl, rfl⟩
  | ended _ hp hw => exact ⟨hp, hw⟩

theorem Abreast.reaches (h : v.Abreast c) : v.Reaches timing c :=
  ⟨v.console, v.fault, v.leave, .refl, h⟩

theorem Reaches.of_step (h : v.Step timing w)
    (hw : w = { v with console := w.console, fault := w.fault, leave := w.leave })
    (hr : w.Reaches timing c) : v.Reaches timing c := by
  obtain ⟨console, fault, leave, hs, ha⟩ := hr
  have heq : { w with console, fault, leave } = { v with console, fault, leave } := by rw [hw]
  exact ⟨console, fault, leave, h.then (heq ▸ hs), heq ▸ ha⟩

theorem steps_drain (hl : v.leave = .draining) (clock : Timestamp) :
    v.Steps timing { v with console := v.console.drain clock } := by
  generalize h : v.console.backlog = es
  induction es generalizing v with
  | nil =>
    rw [Console.drain_of_backlog_eq_nil clock h]
    exact .refl
  | cons e es ih =>
    have hs := ih (v := { v with console := v.console.read clock }) hl
      ((Console.backlog_read clock _).trans (by rw [h, List.tail_cons]))
    rw [Console.drain_read] at hs
    exact (Step.read clock (.inl hl)).then hs

theorem reaches_close (hl : v.leave = .draining) (ho : v.console.isOver = false)
    (clock : Timestamp) :
    v.Reaches timing ((v.console.drain clock).close clock v.fault) := by
  have hb := Console.backlog_drain clock v.console
  have hs : v.Steps timing { v with console := v.console.drain clock, leave := .drained } :=
    (steps_drain hl clock).tail (.drained hl (.inr hb))
  cases hd : (v.console.drain clock).isOver with
  | false => exact ⟨_, v.fault, .drained, hs.tail (.close clock rfl hd),
      .ended (Console.isOver_close _ _ _) rfl rfl⟩
  | true =>
    have hcrashed : (v.console.drain clock).phase = .crashed := by
      refine (v.console.phase_drain clock).resolve_left fun hp => ?_
      simp only [Console.isOver, hp] at hd ho
      exact Bool.false_ne_true (ho.symm.trans hd)
    rw [Console.close_of_crashed clock v.fault hcrashed]
    exact ⟨_, v.fault, .drained, hs, .ended hd rfl rfl⟩

theorem reaches_drain (hl : v.leave = .staying) (hp : v.console.phase = .following)
    (hf : v.fault = none) (clock : Timestamp) :
    v.Reaches timing (v.console.drain clock) := by
  generalize h : v.console.backlog = es
  induction es generalizing v with
  | nil =>
    rw [Console.drain_of_backlog_eq_nil clock h]
    exact Abreast.reaches (.live hl hf (by simp [Console.isOver, hp]) fun _ => h)
  | cons e es ih =>
    refine Reaches.of_step (.read clock (.inr ⟨hl, hp⟩)) rfl ?_
    rw [← Console.drain_read]
    rcases v.console.phase_read clock with hr | hr
    · exact ih hl (hr.trans hp) hf
        ((Console.backlog_read clock _).trans (by rw [h, List.tail_cons]))
    · rw [Console.drain_of_crashed clock hr]
      exact Abreast.reaches (.ended (by simp [Console.isOver, hr]) rfl rfl)

theorem reaches_follow (hl : v.leave = .staying) (ho : v.console.isOver = false)
    (hf : v.fault = none) (clock : Timestamp) :
    v.follow.Reaches timing (v.console.follow clock) := by
  unfold Vigil.follow Console.follow
  split
  · exact reaches_drain (v := { v with console := { v.console with phase := .following } })
      hl rfl hf clock
  · rw [Console.finish_eq, ← hf]
    exact reaches_close (v := { v with leave := .draining }) rfl ho clock

theorem reaches_afterStart {wait : Bool} (hl : v.leave = .staying)
    (ho : v.console.isOver = false) (hf : v.fault = none) (he : v.console.errand = .start wait)
    (clock : Timestamp) (o : Outcome) :
    (v.resume (.outcome o)).Reaches timing (v.console.afterStart clock wait o) := by
  simp only [Vigil.resume, he, Console.afterStart]
  generalize hc : v.console.print _ = c
  have herrand : c.errand = .start wait := hc ▸ he
  have hover : c.isOver = false := hc ▸ ho
  have going : Reaches timing (if wait then { v with console := c }.follow
      else { v with console := c.conclude none })
      (if wait then c.follow clock else c.conclude none) := by
    cases wait with
    | true => exact reaches_follow (v := { v with console := c }) hl hover hf clock
    | false => exact Abreast.reaches (.ended (Console.isOver_conclude c none) rfl rfl)
  cases o with
  | error message status code id =>
    simp only
    generalize some _ = fault
    by_cases hj : c.json = true
    · -- a document is not followed by a summary, so events are passed by
      have hclose : c.close clock fault = c.conclude fault := by simp [Console.close, herrand, hj]
      rw [if_pos hj, ← hclose]
      refine ⟨_, fault, .drained, ?_, .ended (Console.isOver_close clock c fault) rfl rfl⟩
      exact .tail (.tail .refl (.drained rfl (.inl hj))) (.close clock rfl hover)
    · have hclose : (c.drain clock).close clock fault =
          ((c.drain clock).printSnapshot clock).conclude fault := by
        have hsame := c.same_drain clock
        simp [Console.close, hsame.errand, herrand, hsame.json, hj]
      rw [if_neg hj, ← hclose]
      exact reaches_close (v := { v with console := c, fault, leave := .draining }) rfl hover clock
  | _ => exact going

/-- A console that has been answered does at once what a vigil does in its time. -/
theorem reaches_answered (hl : v.leave = .staying) (ha : v.console.phase = .asking)
    (hf : v.fault = none) (clock : Timestamp) (r : Reply) :
    (v.resume r).Reaches timing (v.console.answered clock r) := by
  have ho : v.console.isOver = false := by simp [Console.isOver, ha]
  cases he : v.console.errand with
  | status =>
    have hresume : v.resume r = { v with leave := .drained } := by simp [Vigil.resume, he]
    have hanswer : v.console.answered clock r = v.console.close clock v.fault := by
      simp [Console.answered, Console.close, he]
    rw [hresume, hanswer]
    exact ⟨_, v.fault, .drained, .tail .refl (.close clock rfl ho),
      .ended (Console.isOver_close _ _ _) rfl rfl⟩
  | watch =>
    have hresume : v.resume r = v.follow := by simp [Vigil.resume, he]
    have hanswer : v.console.answered clock r = v.console.follow clock := by
      simp [Console.answered, he]
    rw [hresume, hanswer]
    exact reaches_follow hl ho hf clock
  | start wait =>
    cases r with
    | done =>
      have hresume : v.resume .done = v := by simp [Vigil.resume, he]
      have hanswer : v.console.answered clock .done = v.console := by simp [Console.answered, he]
      rw [hresume, hanswer]
      exact Abreast.reaches (.live hl hf ho fun hp => (nomatch ha.symm.trans hp))
    | outcome o =>
      have hanswer : v.console.answered clock (.outcome o) = v.console.afterStart clock wait o := by
        simp [Console.answered, he]
      rw [hanswer]
      exact reaches_afterStart hl ho hf he clock o

theorem Abreast.interrupt (h : v.Abreast c) (hp : c.phase = .following) :
    v.leave = .staying ∧ v.console.phase = .following ∧
      Abreast { v with
        console := v.console.interrupt
        queue := v.queue ++ [(1, .reset)]
        interrupted := true } c.interrupt := by
  cases h with
  | live hl hf ho hb =>
    have hc : v.console.interrupt =
        { v.console.print (.err Console.interrupted) with phase := .resetting } := if_pos hp
    exact ⟨hl, hp, .live hl hf (by rw [hc]; rfl) fun hn => by rw [hc] at hn; nomatch hn⟩
  | ended ho => simp [Console.isOver, hp] at ho

/-- What a console does that sees an action at once, a vigil does after it has been carried out. -/
theorem Abreast.carry {a : Action} {rest : List Action} (h : v.Abreast c) (clock : Timestamp)
    (hasked : ∀ k r, a = .reply k r → c.phase = .asking → k = 0)
    (hreset : ∀ k r, a = .reply k r → c.phase = .resetting → k = 1) :
    (v.carry a rest).Reaches timing (c.watch clock a) := by
  cases h with
  | ended ho hp hw =>
    rw [Console.watch_of_isOver clock ho]
    exact Abreast.reaches (.ended ho ((v.console.phase_receive a).trans hp)
      ((v.console.printed_receive a).trans hw))
  | live hl hf ho hb =>
    have noted (hw : v.console.watch clock a = v.console.receive a)
        (hb : v.console.phase = .following → (v.console.receive a).backlog = []) :
        (v.carry a rest).Reaches timing (v.console.watch clock a) := by
      rw [hw]
      refine Abreast.reaches (.live hl hf ?_ ?_)
      · simpa [carry, Console.isOver] using ho
      · simpa [carry] using hb
    cases hp : v.console.phase with
    | asking =>
      cases a with
      | reply k r =>
        obtain rfl := hasked k r rfl hp
        have hw : v.console.watch clock (.reply 0 r) = v.console.answered clock r := by
          simp [Console.watch, Action.happening?, Console.see, hp]
        have hr : (0, r) ∈ (v.carry (.reply 0 r) rest).answers :=
          List.mem_append_right _ (List.mem_singleton.2 rfl)
        rw [hw]
        exact .of_step (.resume hl hp hr) (same_resume _ r).1
          (reaches_answered (v := v.carry (.reply 0 r) rest) hl hp hf clock r)
      | _ => exact noted (Console.watch_of_waiting clock (.inl hp) rfl) (by simp [hp])
    | following =>
      cases a with
      | emit e =>
        rw [Console.watch_emit clock hp (hb hp)]
        exact reaches_drain (v := v.carry (.emit e) rest) hl hp hf clock
      | publish s =>
        have hw : v.console.watch clock (.publish s) =
            if s.polling then v.console.receive (.publish s)
            else (v.console.receive (.publish s)).finish clock := by
          simp [Console.watch, Action.happening?, Console.see, hp, Console.receive]
        rw [hw]
        split
        · exact Abreast.reaches (.live hl hf ho hb)
        · next hs =>
          rw [Console.finish_eq, ← hf]
          have hoff : (v.carry (.publish s) rest).console.seen.polling = false :=
            Bool.eq_false_iff.2 hs
          exact .of_step (.look hl hp hoff) rfl (reaches_close
            (v := { v.carry (.publish s) rest with leave := .draining }) rfl ho clock)
      | list | trigger | reply | wakeAt =>
        exact noted (Console.watch_of_following clock hp rfl rfl) hb
    | resetting =>
      cases a with
      | reply k r =>
        obtain rfl := hreset k r rfl hp
        have hw : v.console.watch clock (.reply 1 r) = v.console.finish clock := by
          simp [Console.watch, Action.happening?, Console.see, hp]
        have hr : (1, r) ∈ (v.carry (.reply 1 r) rest).answers :=
          List.mem_append_right _ (List.mem_singleton.2 rfl)
        rw [hw, Console.finish_eq, ← hf]
        exact .of_step (.forgotten hl hp hr) rfl (reaches_close
          (v := { v.carry (.reply 1 r) rest with leave := .draining }) rfl ho clock)
      | _ => exact noted (Console.watch_of_waiting clock (.inr hp) rfl) (by simp [hp])
    | ended fault => simp [Console.isOver, hp] at ho
    | crashed => simp [Console.isOver, hp] at ho

theorem Kept.eq_zero_of_reply (h : Kept timing v) (hi : v.interrupted = false) {k : Caller}
    {r : Reply} (hr : .reply k r ∈ v.outbox) : k = 0 := by
  have hk := h.orderly.mem_orders (h.carrying.actions ▸ List.mem_append_right _ hr)
  have ho := h.orders
  simp only [sent, hi, Bool.false_eq_true, if_false, List.nil_append] at ho
  obtain ⟨p, hp, rfl⟩ := List.mem_map.1 hk
  have hp : p ∈ [(0, v.console.errand.command)] := ho ▸ List.mem_append_right _ hp
  rw [List.mem_singleton.1 hp]

theorem Kept.eq_one_of_reply (h : Kept timing v) {r' : Reply} (h0 : .reply 0 r' ∈ v.carried)
    {k : Caller} {r : Reply} (hr : .reply k r ∈ v.outbox) : k = 1 := by
  have hk := h.orderly.mem_orders (h.carrying.actions ▸ List.mem_append_right _ hr)
  obtain ⟨p, hp, rfl⟩ := List.mem_map.1 hk
  have hsent : p ∈ v.sent := h.orders ▸ List.mem_append_right _ hp
  have hne : p.1 ≠ 0 := fun hp => by
    have hnodup := h.orderly.nodup_replied
    rw [History.replied, ← h.carrying.actions, List.filterMap_append, List.map_append] at hnodup
    exact (List.nodup_append.1 hnodup).2.2 0 (mem_replies h0) 0 (mem_replies (hp ▸ hr)) rfl
  unfold sent at hsent
  rcases List.mem_append.1 hsent with hm | hm
  · split at hm
    · rw [List.mem_singleton.1 hm]
    · cases hm
  · exact absurd (congrArg Prod.fst (List.mem_singleton.1 hm)) hne

/-- Whatever the controller carries out, a vigil comes as far as a console that sees it at once. -/
theorem Abreast.carryAll {errand : Errand} {json : Bool} (hs : (start errand json).Steps timing v)
    (h : v.Abreast c) (clock : Timestamp) :
    ∃ console fault leave carried answers,
      (start errand json).Steps timing
        { v with console, fault, leave, carried, answers, outbox := [] } ∧
      Abreast { v with console, fault, leave, carried, answers, outbox := [] }
        (v.outbox.foldl (Console.watch clock) c) := by
  generalize ho : v.outbox = as
  induction as generalizing v c with
  | nil =>
    have hv : { v with outbox := [] } = v := by rw [← ho]
    refine ⟨v.console, v.fault, v.leave, v.carried, v.answers, ?_, ?_⟩
    · show Steps timing _ { v with outbox := [] }
      rw [hv]
      exact hs
    · show Abreast { v with outbox := [] } c
      rw [hv]
      exact h
  | cons a rest ih =>
    obtain ⟨hk, hp⟩ := hs.posted
    have hr {k : Caller} {r : Reply} (ha : a = .reply k r) : .reply k r ∈ v.outbox := by
      rw [ho, ha]
      exact List.mem_cons_self
    have hreach : (v.carry a rest).Reaches timing (c.watch clock a) := by
      refine h.carry clock (fun k r ha hc => ?_) fun k r ha hc => ?_
      · obtain ⟨hl, rfl⟩ := h.of_not_over (by simp [Console.isOver, hc])
        exact hk.eq_zero_of_reply (hp.asking hl hc) (hr ha)
      · obtain ⟨hl, rfl⟩ := h.of_not_over (by simp [Console.isOver, hc])
        obtain ⟨-, r', h0⟩ := hp.resetting hl hc
        exact hk.eq_one_of_reply h0 (hr ha)
    obtain ⟨console, fault, leave, hsteps, habreast⟩ := hreach
    exact ih (v := { v.carry a rest with console, fault, leave })
      ((hs.tail (.carry ho)).trans hsteps) habreast rfl

end Vigil

end RunWatch
