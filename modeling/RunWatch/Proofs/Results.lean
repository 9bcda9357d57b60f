import RunWatch.Proofs.Document
import RunWatch.Proofs.Enactment
import RunWatch.Proofs.Serving
/-!
How commands end. Whatever the server answers and however long that takes, whether a command fails
depends on one answer: for a status on that to its only list call, for a watch on that to the first
one, and for a start on its outcome. A watch that nobody interrupts ends when no run is active, and
so does a start that waits.
-/
set_option autoImplicit false

namespace RunWatch

inductive Snapshot.Written (s : Snapshot) : Bool → List String → Prop where
  | json : Written s true [s.toJson.pretty]
  | text {clock : Timestamp} {lines : List String}
      (h : s.lines? (s.safety.remainingAt clock) = some lines) : Written s false lines

namespace Console

variable {c : Console} {clock : Timestamp} {fault f : Option Fault}

theorem outputs_read (clock : Timestamp) (c : Console) :
    outputs (c.read clock).printed = outputs c.printed := by
  unfold read tell
  split
  · rfl
  · simp only
    split
    · rfl
    · split
      · rfl
      · split <;> simp [crash, print]

theorem outputs_interrupt (c : Console) : outputs c.interrupt.printed = outputs c.printed := by
  unfold interrupt
  split <;> simp [print]

theorem phase_printSnapshot (clock : Timestamp) (c : Console) :
    (c.printSnapshot clock).phase = c.phase ∨ (c.printSnapshot clock).phase = .crashed := by
  unfold printSnapshot
  split
  · simp
  · split
    · simp [print]
    · split <;> simp [printAll, crash]

theorem written_of_printSnapshot (hw : outputs c.printed = [])
    (hc : (c.printSnapshot clock).phase ≠ .crashed) :
    c.seen.Written c.json (outputs (c.printSnapshot clock).printed) := by
  unfold printSnapshot at hc ⊢
  split at hc
  · next hcrashed => exact absurd hcrashed hc
  · next hphase =>
    rw [if_neg hphase]
    cases hj : c.json with
    | true =>
      simp only [if_true, print, outputs_append, hw]
      exact .json
    | false =>
      cases hl : c.seen.lines? (c.seen.safety.remainingAt clock) with
      | none => simp [hj, hl, crash] at hc
      | some lines =>
        simp only [Bool.false_eq_true, if_false, printAll, outputs_append, outputs_map_out, hw]
        exact .text hl

theorem conclude_ended (ho : ∀ g, c.phase ≠ .ended g) (h : (c.conclude fault).phase = .ended f) :
    f = fault ∧ c.phase ≠ .crashed ∧ (c.conclude fault).printed = c.printed := by
  unfold conclude isOver at h ⊢
  cases hp : c.phase <;> simp_all

theorem phase_ne_ended (ho : c.isOver = false) (g : Option Fault) : c.phase ≠ .ended g := by
  intro hp
  simp [isOver, hp] at ho

theorem printSnapshot_ended (ho : c.isOver = false)
    (h : ((c.printSnapshot clock).conclude fault).phase = .ended f) :
    f = fault ∧ (outputs c.printed = [] →
      c.seen.Written c.json (outputs ((c.printSnapshot clock).conclude fault).printed)) := by
  have hphase (g : Option Fault) : (c.printSnapshot clock).phase ≠ .ended g := by
    rcases c.phase_printSnapshot clock with hp | hp
    · rw [hp]
      exact phase_ne_ended ho g
    · simp [hp]
  obtain ⟨hf, hcrashed, hprinted⟩ := conclude_ended hphase h
  rw [hprinted]
  exact ⟨hf, fun hw => written_of_printSnapshot hw hcrashed⟩

def ShowsSnapshot (c : Console) : Prop := c.json = true → ∀ wait, c.errand ≠ .start wait

def closing (c : Console) (fault : Option Fault) : Option Fault :=
  match c.errand with
  | .start _ => fault
  | _ => c.verdict

theorem closing_of_start {wait : Bool} (he : c.errand = .start wait) : c.closing fault = fault := by
  simp [closing, he]

theorem isSome_closing (he : c.errand.command = .bootstrap) :
    (c.closing fault).isSome = c.seen.lastError.isSome := by
  unfold closing
  cases hc : c.errand with
  | start wait => simp [hc, Errand.command] at he
  | _ => simp [verdict]

theorem close_ended (ho : c.isOver = false) (h : (c.close clock fault).phase = .ended f) :
    f = c.closing fault ∧ (c.ShowsSnapshot → outputs c.printed = [] →
      c.seen.Written c.json (outputs (c.close clock fault).printed)) := by
  have hverdict : (c.printSnapshot clock).verdict = c.verdict := by
    rw [verdict, (c.same_printSnapshot clock).seen, verdict]
  unfold close at h ⊢
  cases he : c.errand with
  | start wait =>
    cases hj : c.json with
    | true =>
      simp only [he, hj, if_true] at h
      exact ⟨by simp [closing, he, (conclude_ended (phase_ne_ended ho) h).1],
        fun hs => absurd he (hs hj wait)⟩
    | false =>
      simp only [he, hj, Bool.false_eq_true, if_false] at h ⊢
      obtain ⟨hf, hw⟩ := printSnapshot_ended ho h
      exact ⟨by simp [closing, he, hf], fun _ => hj ▸ hw⟩
  | _ =>
    simp only [he, hverdict] at h ⊢
    obtain ⟨hf, hw⟩ := printSnapshot_ended ho h
    exact ⟨by simp [closing, he, hf], fun _ => hw⟩

end Console

def Errand.startCalls : Errand → List (Nat × Caller)
  | .start _ => [(0, 0)]
  | _ => []

namespace Vigil

variable {timing : Timing} {v w : Vigil} {k : Caller} {r : Reply} {fault : Option Fault}

/-- What is on show once the command that was sent last has been answered is the session after some
part of what was handled, and the answer had been given then. -/
theorem Kept.exists_seen (h : Kept timing v) {cmd : Command} {earlier : List (Caller × Command)}
    (hs : v.sent = (k, cmd) :: earlier) (hr : .reply k r ∈ v.carried) :
    ∃ past : History, past <:+ v.past ∧ past.Orderly timing ∧ past.orders = v.sent ∧
      k ∈ past.replied timing ∧ v.console.seen = (past.controller timing).session.snapshot := by
  rcases h.seen_cases hs hr with ⟨hseen, -⟩ | ⟨t, i, before, hp, -, ho, hr, hseen⟩
  · have ho := h.orders
    rw [h.queue_eq_nil hr hs, List.reverse_nil, List.nil_append] at ho
    exact ⟨v.past, List.suffix_refl _, h.orderly, ho, mem_replies (h.mem_actions hr), hseen⟩
  · have hy := h.orderly
    rw [hp] at hy ⊢
    exact ⟨before, List.suffix_cons _ _, hy.1, ho, mem_replies hr, hseen⟩

theorem Kept.seen_of_reset (h : Kept timing v) (hi : v.interrupted = true)
    (hr : .reply 1 r ∈ v.carried) : v.console.seen = Session.snapshot {} := by
  have hs := sent_of_interrupted hi
  obtain ⟨past, -, hy, ho, -, hseen⟩ := h.exists_seen hs hr
  rw [hseen, hy.session_of_reset (ho.trans hs)]

theorem Kept.fetched (h : Kept timing v) (hc : v.console.errand.command = .bootstrap)
    (hi : v.interrupted = false) (hr : .reply 0 r ∈ v.carried) :
    ∃ (past : History) (t : Nat) (res : Except Failure Listing), past <:+ v.past ∧
      (t, .listed 0 1 res) ∈ past ∧ past.Fetched timing t res ∧
        v.console.seen = (past.controller timing).session.snapshot := by
  have hs := sent_of_not_interrupted hi
  obtain ⟨past, hp, hy, ho, hreplied, hseen⟩ := h.exists_seen hs hr
  obtain ⟨t, res, hm, hf⟩ := hy.fetched (by simp [ho, hs, hc]) hreplied
  exact ⟨past, t, res, hp, hm, hf, hseen⟩

theorem Kept.idle_of_seen (h : Kept timing v) (hi : v.interrupted = false)
    (hr : .reply 0 r ∈ v.carried) (hp : v.console.seen.polling = false) :
    v.console.seen.runActive = false ∧
      ∀ run ∈ v.console.seen.latestRun, run.isTerminal = true := by
  obtain ⟨past, -, -, -, -, hseen⟩ := h.exists_seen (sent_of_not_interrupted hi) hr
  have hactive : (past.controller timing).session.runActive = false := by
    rw [← (History.settled timing past).polling]
    rwa [hseen] at hp
  rw [hseen]
  exact ⟨hactive, fun run hrun => Session.isTerminal_of_runActive hactive hrun⟩

theorem Kept.startCalls_eq (h : Kept timing v) (hr : .reply 0 r ∈ v.carried) :
    v.past.startCalls timing = v.console.errand.startCalls := by
  have hsuffix : v.past.orders <:+ v.sent := h.orders ▸ List.suffix_append _ _
  unfold sent at hsuffix
  cases he : v.console.errand with
  | start wait =>
    rw [he] at hsuffix
    rcases List.suffix_concat_iff.1 hsuffix with ho | ⟨later, ho, hl⟩
    · have hk := h.mem_orders hr
      simp [ho] at hk
    · refine h.orderly.startCalls_eq (fun p hp => ?_) ho
      have hm := hl.subset hp
      split at hm <;> simp_all
  | _ =>
    refine History.startCalls_eq_nil fun p hp => ?_
    have hm := hsuffix.subset hp
    simp only [he, Errand.command, List.mem_append, List.mem_singleton] at hm
    rcases hm with hm | rfl
    · split at hm <;> simp_all
    · simp

/-- With which fault a command has ended, and what it has written to the output. A status shows the
session as it was after a part of what was handled; that is the session after its only list call
unless that went well and a poll interval passed meanwhile. -/
inductive Result (timing : Timing) (v : Vigil) (fault : Option Fault) : Errand → Prop where
  | status {past : History} {t : Nat} {r : Except Failure Listing} (shown : past <:+ v.past)
      (written : (past.controller timing).session.snapshot.Written v.console.json
        (outputs v.console.printed))
      (first : (t, .listed 0 1 r) ∈ past)
      (alone : r.isOk = false ∨ past.now < t + timing.pollInterval.nanos →
        past.listCalls timing = 1)
      (fails : past.listCalls timing = 1 → fault.isSome = !r.isOk) : Result timing v fault .status
  | watch {s : Snapshot} {t : Nat} {r : Except Failure Listing}
      (written : s.Written v.console.json (outputs v.console.printed))
      (first : (t, .listed 0 1 r) ∈ v.past) (fails : fault.isSome = !r.isOk)
      (idle : v.interrupted = false →
        s.polling = false ∧ ∀ run ∈ s.latestRun, run.isTerminal = true) :
      Result timing v fault .watch
  | start {wait : Bool} {o : Outcome} (outcome : .reply 0 (.outcome o) ∈ v.carried)
      (fails : fault.isSome = o.isError)
      (idle : wait = true → o.isError = false → v.interrupted = false → v.console.json = false →
        ∃ s : Snapshot, s.Written false (outputs v.console.printed) ∧ s.runActive = false) :
      Result timing v fault (.start wait)

inductive Answered (v : Vigil) : Errand → Prop where
  | done {e : Errand} {r : Reply} (he : e.command = .bootstrap) (hr : .reply 0 r ∈ v.carried)
      (hf : v.fault = none) : Answered v e
  | outcome {wait : Bool} {o : Outcome} (hr : .reply 0 (.outcome o) ∈ v.carried)
      (hf : v.fault.isSome = o.isError) : Answered v (.start wait)

/-- What is known of the end of a console by how far it has come. -/
structure Prospect (timing : Timing) (v : Vigil) : Prop where
  blank (ho : v.console.isOver = false) (hs : v.console.ShowsSnapshot) :
    outputs v.console.printed = []
  asking (hl : v.leave = .staying) (hp : v.console.phase = .asking) : v.fault = none
  answered (ha : ¬(v.leave = .staying ∧ v.console.phase = .asking)) :
    v.Answered v.console.errand
  status (he : v.console.errand = .status) :
    v.interrupted = false ∧ v.console.phase ≠ .following
  opened (he : v.console.errand = .watch)
    (hh : v.leave = .staying ∧ v.console.phase = .following ∨ v.interrupted = true) :
    ∃ t l, (t, .listed 0 1 (.ok l)) ∈ v.past
  reset (hl : v.leave ≠ .staying) (he : v.console.errand ≠ .status) (hi : v.interrupted = true) :
    v.console.seen = Session.snapshot {}
  idle (hl : v.leave ≠ .staying) (he : v.console.errand ≠ .status) (hi : v.interrupted = false)
    (hf : v.fault = none) : v.console.seen.polling = false
  ended {fault : Option Fault} (h : v.console.phase = .ended fault) :
    v.Result timing fault v.console.errand

theorem Result.grow {e : Errand} (h : v.Result timing fault e) (hpast : v.past <:+ w.past)
    (hcarried : v.carried ⊆ w.carried) (hi : w.interrupted = v.interrupted)
    (hj : w.console.json = v.console.json)
    (hw : outputs w.console.printed = outputs v.console.printed) : w.Result timing fault e := by
  cases h with
  | status shown written first alone fails =>
    exact .status (shown.trans hpast) (hj ▸ hw ▸ written) first alone fails
  | watch written first fails idle =>
    exact .watch (hj ▸ hw ▸ written) (hpast.subset first) fails (hi ▸ idle)
  | start outcome fails idle =>
    exact .start (hcarried outcome) fails (hi ▸ hj ▸ hw ▸ idle)

theorem Answered.grow {e : Errand} (h : v.Answered e) (hcarried : v.carried ⊆ w.carried)
    (hf : w.fault = v.fault) : w.Answered e := by
  cases h with
  | done he hr hnone => exact .done he (hcarried hr) (hf.trans hnone)
  | outcome hr ho => exact .outcome (hcarried hr) (hf ▸ ho)

theorem Answered.reply {e : Errand} (h : v.Answered e) : ∃ r, .reply 0 r ∈ v.carried := by
  cases h with
  | done _ hr => exact ⟨_, hr⟩
  | outcome hr => exact ⟨_, hr⟩

/-- A vigil that has gone on, with nothing that bears on how its console ends. -/
structure Onward (v w : Vigil) : Prop where
  past : v.past <:+ w.past
  carried : v.carried ⊆ w.carried
  fault : w.fault = v.fault
  leave : w.leave = v.leave
  interrupted : w.interrupted = v.interrupted
  errand : w.console.errand = v.console.errand
  json : w.console.json = v.console.json
  output : outputs w.console.printed = outputs v.console.printed
  phase : w.console.phase = v.console.phase ∨
    w.console.phase = .crashed ∧ ¬(v.leave = .staying ∧ v.console.phase = .asking)
  seen (hl : v.leave ≠ .staying) (he : v.console.errand ≠ .status) :
    w.console.seen = v.console.seen

theorem Onward.phase_eq (hw : Onward v w) {p : Phase} (hp : w.console.phase = p)
    (hc : p ≠ .crashed) : v.console.phase = p := by
  rcases hw.phase with hs | ⟨hs, -⟩
  · exact hs.symm.trans hp
  · exact absurd (hp.symm.trans hs) hc

theorem Prospect.onward (h : Prospect timing v) (hw : Onward v w) : Prospect timing w where
  blank ho hs := by
    rw [hw.output]
    refine h.blank ?_ fun hj => hw.errand ▸ hs (hw.json.trans hj)
    rcases hw.phase with hp | ⟨hp, -⟩ <;> simp_all [Console.isOver]
  asking hl hp := hw.fault.trans (h.asking (hw.leave ▸ hl) (hw.phase_eq hp (by simp)))
  answered ha := by
    rw [hw.errand]
    refine (h.answered ?_).grow hw.carried hw.fault
    rcases hw.phase with hp | ⟨-, hn⟩
    · rwa [hw.leave, hp] at ha
    · exact hn
  status he := by
    obtain ⟨hi, hf⟩ := h.status (hw.errand ▸ he)
    exact ⟨hw.interrupted.trans hi, fun hp => hf (hw.phase_eq hp (by simp))⟩
  opened he hh := by
    rw [hw.leave, hw.interrupted] at hh
    have hh := hh.imp_left (And.imp_right fun hp => hw.phase_eq hp (by simp))
    obtain ⟨t, l, hm⟩ := h.opened (hw.errand ▸ he) hh
    exact ⟨t, l, hw.past.subset hm⟩
  reset hl he hi := by
    rw [hw.leave] at hl
    rw [hw.errand] at he
    exact (hw.seen hl he).trans (h.reset hl he (hw.interrupted ▸ hi))
  idle hl he hi hf := by
    rw [hw.leave] at hl
    rw [hw.errand] at he
    rw [hw.seen hl he]
    exact h.idle hl he (hw.interrupted ▸ hi) (hw.fault ▸ hf)
  ended hp := by
    have hresult := h.ended (hw.phase_eq hp (by simp))
    rw [hw.errand]
    exact hresult.grow hw.past hw.carried hw.interrupted hw.json hw.output

theorem onward_handle (v : Vigil) (queue : List (Caller × Command)) (t : Nat) (i : Input) :
    Onward v ({ v with queue }.handle timing t i) where
  past := List.suffix_cons _ _
  carried := List.Subset.refl _
  fault := rfl
  leave := rfl
  interrupted := rfl
  errand := rfl
  json := rfl
  output := rfl
  phase := .inl rfl
  seen _ _ := rfl

theorem onward_carry (hp : Posted timing v) {a : Action} {rest : List Action}
    (ho : v.outbox = a :: rest) : Onward v (v.carry a rest) where
  past := List.suffix_refl _
  carried := List.subset_append_left _ _
  fault := rfl
  leave := rfl
  interrupted := rfl
  errand := v.console.errand_receive a
  json := v.console.json_receive a
  output := congrArg outputs (v.console.printed_receive a)
  phase := .inl (v.console.phase_receive a)
  seen hl he := by
    have ha := ((hp.leaving hl he).carry ho).1
    cases a with
    | publish s => cases ha
    | _ => rfl

theorem onward_read (clock : Timestamp)
    (hl : v.leave = .draining ∨ v.leave = .staying ∧ v.console.phase = .following) :
    Onward v { v with console := v.console.read clock } where
  past := List.suffix_refl _
  carried := List.Subset.refl _
  fault := rfl
  leave := rfl
  interrupted := rfl
  errand := (v.console.same_read clock).errand
  json := (v.console.same_read clock).json
  output := v.console.outputs_read clock
  phase := (v.console.phase_read clock).imp_right fun hp =>
    ⟨hp, by rcases hl with hl | ⟨-, hf⟩ <;> simp_all⟩
  seen _ _ := (v.console.same_read clock).seen

theorem Prospect.depart (h : Prospect timing v)
    (ha : ¬(v.leave = .staying ∧ v.console.phase = .asking)) {leave : Leave}
    (hl : leave ≠ .staying)
    (hreset : v.console.errand ≠ .status → v.interrupted = true →
      v.console.seen = Session.snapshot {})
    (hidle : v.console.errand ≠ .status → v.interrupted = false → v.fault = none →
      v.console.seen.polling = false) : Prospect timing { v with leave } where
  blank := h.blank
  asking hs := absurd hs hl
  answered _ := (h.answered ha).grow (List.Subset.refl _) rfl
  status := h.status
  opened he hh := h.opened he (hh.elim (fun hs => absurd hs.1 hl) .inr)
  reset _ := hreset
  idle _ := hidle
  ended hp := (h.ended hp).grow (List.suffix_refl _) (List.Subset.refl _) rfl rfl rfl

theorem Prospect.interrupt (h : Prospect timing v) (hl : v.leave = .staying)
    (hf : v.console.phase = .following) (queue : List (Caller × Command)) :
    Prospect timing { v with console := v.console.interrupt, queue, interrupted := true } := by
  have hw := v.console.outputs_interrupt
  have hc : v.console.interrupt =
      { v.console.print (.err Console.interrupted) with phase := .resetting } := if_pos hf
  rw [hc] at hw ⊢
  exact {
    blank := fun _ hs => hw.trans (h.blank (by simp [Console.isOver, hf]) hs)
    asking := fun _ hp => by cases hp
    answered := fun _ => (h.answered (by simp [hf])).grow (List.Subset.refl _) rfl
    status := fun he => absurd hf (h.status he).2
    opened := fun he _ => h.opened he (.inl ⟨hl, hf⟩)
    reset := fun hn => absurd hl hn
    idle := fun hn => absurd hl hn
    ended := fun hp => by cases hp }

theorem Answered.leaving (h : v.Answered v.console.errand) (hl : v.leave ≠ .staying)
    (ha : v.console.phase = .asking) (hi : v.interrupted = false)
    (hb : v.console.ShowsSnapshot → outputs v.console.printed = [])
    (hidle : v.console.errand ≠ .status → v.fault = none → v.console.seen.polling = false) :
    Prospect timing v where
  blank _ := hb
  asking hs := absurd hs hl
  answered _ := h
  status _ := ⟨hi, by simp [ha]⟩
  opened _ hh := by simp [hl, hi] at hh
  reset _ _ hr := by simp [hi] at hr
  idle _ he _ := hidle he
  ended hp := by simp [ha] at hp

theorem Answered.following (h : v.Answered v.console.errand) (hl : v.leave = .staying)
    (hf : v.console.phase = .following)
    (hb : v.console.ShowsSnapshot → outputs v.console.printed = [])
    (he : v.console.errand ≠ .status)
    (hopened : v.console.errand = .watch → ∃ t l, (t, .listed 0 1 (.ok l)) ∈ v.past) :
    Prospect timing v where
  blank _ := hb
  asking _ hp := by simp [hf] at hp
  answered _ := h
  status hs := absurd hs he
  opened hw _ := hopened hw
  reset hn := absurd hl hn
  idle hn := absurd hl hn
  ended hp := by simp [hf] at hp

theorem Answered.follow (h : v.Answered v.console.errand) (hl : v.leave = .staying)
    (ha : v.console.phase = .asking) (hi : v.interrupted = false)
    (hb : v.console.ShowsSnapshot → outputs v.console.printed = [])
    (he : v.console.errand ≠ .status)
    (hopened : v.console.errand = .watch → v.console.seen.polling = true →
      ∃ t l, (t, .listed 0 1 (.ok l)) ∈ v.past) : Prospect timing v.follow := by
  unfold Vigil.follow
  split
  · next hp =>
    exact Answered.following (h.grow (List.Subset.refl _) rfl) hl rfl hb he fun hw => hopened hw hp
  · next hp =>
    exact Answered.leaving (h.grow (List.Subset.refl _) rfl) (by simp) ha hi hb
      fun _ _ => by simpa using hp

theorem Kept.opened (h : Kept timing v) (he : v.console.errand = .watch)
    (hi : v.interrupted = false) (hr : .reply 0 r ∈ v.carried)
    (hp : v.console.seen.polling = true) : ∃ t l, (t, .listed 0 1 (.ok l)) ∈ v.past := by
  obtain ⟨past, t, res, hpast, hm, hf, hseen⟩ := h.fetched (by simp [he, Errand.command]) hi hr
  rw [hseen] at hp
  cases res with
  | ok l => exact ⟨t, l, hpast.subset hm⟩
  | error f => cases hf.isOk hp

theorem prospect_of_done {c : Console} (he : c.errand = .start false) (ha : c.phase = .asking)
    (hl : v.leave = .staying) {o : Outcome} (hr : .reply 0 (.outcome o) ∈ v.carried)
    (hf : v.fault = none) (ho : o.isError = false) :
    Prospect timing { v with console := c.conclude none } := by
  have hend : c.conclude none = { c with phase := .ended none } := by
    simp [Console.conclude, Console.isOver, ha]
  rw [hend]
  exact {
    blank := fun hn => by cases hn
    asking := fun _ hp => by cases hp
    answered := fun _ => he ▸ .outcome hr (by simp [hf, ho])
    status := fun hs => by cases he.symm.trans hs
    opened := fun hs => by cases he.symm.trans hs
    reset := fun hn => absurd hl hn
    idle := fun hn => absurd hl hn
    ended := fun hp => by
      obtain rfl := Phase.ended.inj hp
      exact he ▸ .start hr (by simp [ho]) (by simp) }

theorem Prospect.resume (h : Prospect timing v) (hk : Kept timing v) (hp : Posted timing v)
    (hl : v.leave = .staying) (ha : v.console.phase = .asking) (hr : .reply 0 r ∈ v.carried) :
    Prospect timing (v.resume r) := by
  have hi := hp.asking hl ha
  have hf := h.asking hl ha
  have hb := h.blank (by simp [Console.isOver, ha])
  unfold Vigil.resume
  split
  · next he =>
    have hanswered : v.Answered v.console.errand := .done (by simp [he, Errand.command]) hr hf
    exact Answered.leaving (hanswered.grow (List.Subset.refl _) rfl) (by simp) ha hi hb
      fun hn => absurd he hn
  · next he =>
    exact Answered.follow (.done (by simp [he, Errand.command]) hr hf) hl ha hi hb (by simp [he])
      fun _ => hk.opened he hi hr
  · next wait o he =>
    generalize hc : v.console.print _ = c
    have herrand : c.errand = .start wait := hc ▸ he
    have hc' : c.phase = .asking := hc ▸ ha
    have hbc : c.ShowsSnapshot → outputs c.printed = [] := by
      intro hs
      cases hj : v.console.json with
      | true => exact absurd herrand (hs (hc ▸ hj) wait)
      | false =>
        have hw := hb fun hjson => by simp [hj] at hjson
        simp [← hc, hj, Console.print, hw]
    cases ho : o.isError with
    | true =>
      cases o with
      | error message status code id =>
        refine Answered.leaving ?_ (by simp) hc' hi hbc (by simp)
        exact herrand ▸ .outcome hr rfl
      | _ => cases ho
    | false =>
      have going : Prospect timing (if wait then { v with console := c }.follow
          else { v with console := c.conclude none }) := by
        cases wait with
        | true =>
          refine Answered.follow ?_ hl hc' hi hbc (by simp [herrand]) (by simp [herrand])
          exact herrand ▸ .outcome hr (by simp [hf, ho])
        | false =>
          rw [if_neg Bool.false_ne_true]
          exact prospect_of_done herrand hc' hl hr hf ho
      cases o with
      | error => cases ho
      | _ => exact going
  · exact h

theorem Prospect.watched (h : Prospect timing v) (hk : Kept timing v) (hl : v.leave ≠ .staying)
    (he : v.console.errand = .watch) (hr : .reply 0 r ∈ v.carried) (hf : v.fault = none) :
    ∃ t res, (t, .listed 0 1 res) ∈ v.past ∧ v.console.seen.lastError.isSome = !res.isOk ∧
      (v.interrupted = false → v.console.seen.polling = false ∧
        ∀ run ∈ v.console.seen.latestRun, run.isTerminal = true) := by
  have hne : v.console.errand ≠ .status := by simp [he]
  cases hi : v.interrupted with
  | true =>
    obtain ⟨t, l, hm⟩ := h.opened he (.inr hi)
    refine ⟨t, .ok l, hm, ?_, by simp⟩
    rw [h.reset hl hne hi]
    rfl
  | false =>
    obtain ⟨past, t, res, hpast, hm, hfetched, hseen⟩ :=
      hk.fetched (by simp [he, Errand.command]) hi hr
    have hpolling := h.idle hl hne hi hf
    refine ⟨t, res, hpast.subset hm, ?_, fun _ => ⟨hpolling, (hk.idle_of_seen hi hr hpolling).2⟩⟩
    rw [hseen] at hpolling ⊢
    exact hfetched.lastError_of_polling hpolling

theorem Prospect.result_of_close (h : Prospect timing v) (hk : Kept timing v)
    (hl : v.leave = .drained) (ho : v.console.isOver = false) {clock : Timestamp}
    (hp : (v.console.close clock v.fault).phase = .ended fault) :
    Result timing { v with console := v.console.close clock v.fault } fault v.console.errand := by
  have hleft : v.leave ≠ .staying := by simp [hl]
  have hanswered := h.answered fun hs => hleft hs.1
  have hj := (v.console.same_close clock v.fault).json
  obtain ⟨rfl, hwritten⟩ := Console.close_ended ho hp
  have hwritten (hs : v.console.ShowsSnapshot) := hj ▸ hwritten hs (h.blank ho hs)
  cases he : v.console.errand with
  | status =>
    rw [he] at hanswered
    cases hanswered with
    | done hc hr hf =>
      obtain ⟨past, t, res, hpast, hm, hfetched, hseen⟩ :=
        hk.fetched (he ▸ hc) (h.status he).1 hr
      have hs := hwritten fun _ wait => by simp [he]
      rw [hseen] at hs
      refine .status hpast hs hm hfetched.listCalls_eq_one fun hone => ?_
      rw [Console.isSome_closing (he ▸ hc), hseen]
      exact hfetched.lastError_of_listCalls hone
  | watch =>
    rw [he] at hanswered
    cases hanswered with
    | done hc hr hf =>
      obtain ⟨t, res, hm, hfails, hidle⟩ := h.watched hk hleft he hr hf
      refine .watch (hwritten fun _ wait => by simp [he]) hm ?_ hidle
      exact (Console.isSome_closing (he ▸ hc)).trans hfails
  | start wait =>
    rw [he] at hanswered
    cases hanswered with
    | done hc => cases hc
    | outcome hr hf =>
      rw [Console.closing_of_start he]
      refine .start hr hf fun _ hn hi hjson => ?_
      have hpolling := h.idle hleft (by simp [he]) hi (by simpa [hn] using hf)
      have hs := hwritten fun hjs => by cases (hj.trans hjs).symm.trans hjson
      exact ⟨v.console.seen, hjson ▸ hs, (hk.idle_of_seen hi hr hpolling).1⟩

theorem Prospect.close (h : Prospect timing v) (hk : Kept timing v) (clock : Timestamp)
    (hl : v.leave = .drained) (ho : v.console.isOver = false) :
    Prospect timing { v with console := v.console.close clock v.fault } := by
  have hsame := v.console.same_close clock v.fault
  have hover := v.console.isOver_close clock v.fault
  have hleft : v.leave ≠ .staying := by simp [hl]
  exact {
    blank := fun hn => by simp [hover] at hn
    asking := fun hs => absurd hs hleft
    answered := fun _ => by
      rw [hsame.errand]
      exact (h.answered fun hs => hleft hs.1).grow (List.Subset.refl _) rfl
    status := fun he => by
      refine ⟨(h.status (hsame.errand ▸ he)).1, fun hp => ?_⟩
      have hp : (v.console.close clock v.fault).phase = .following := hp
      simp [Console.isOver, hp] at hover
    opened := fun he hh =>
      h.opened (hsame.errand ▸ he) (.inr (hh.resolve_left fun hs => hleft hs.1))
    reset := fun _ he hi => hsame.seen.trans (h.reset hleft (hsame.errand ▸ he) hi)
    idle := fun _ he hi hf => by
      rw [hsame.seen]
      exact h.idle hleft (hsame.errand ▸ he) hi hf
    ended := fun hp => by
      rw [hsame.errand]
      exact h.result_of_close hk hl ho hp }

theorem Prospect.step (h : Prospect timing v) (hk : Kept timing v) (hp : Posted timing v)
    (hw : v.Step timing w) : Prospect timing w := by
  cases hw with
  | take => exact h.onward (onward_handle v _ _ _)
  | handle => exact h.onward (onward_handle v v.queue _ _)
  | carry ho => exact h.onward (onward_carry hp ho)
  | resume hl ha hr => exact h.resume hk hp hl ha (hk.answers _ hr)
  | read clock hl => exact h.onward (onward_read clock hl)
  | look hl hf hs =>
    have hi := (hp.following hl hf).1
    exact h.depart (by simp [hf]) (by simp) (fun _ hr => by simp [hi] at hr) fun _ _ _ => hs
  | interrupt hl hf => exact h.interrupt hl hf _
  | forgotten hl hf hr =>
    have hi := (hp.resetting hl hf).1
    exact h.depart (by simp [hf]) (by simp) (fun _ _ => hk.seen_of_reset hi (hk.answers _ hr))
      fun _ hn => by simp [hi] at hn
  | drained hl =>
    exact h.depart (by simp [hl]) (by simp) (h.reset (by simp [hl])) (h.idle (by simp [hl]))
  | close clock hl ho => exact h.close hk clock hl ho

theorem prospect_start (errand : Errand) (json : Bool) :
    Prospect timing (start errand json) where
  blank _ _ := rfl
  asking _ _ := rfl
  answered ha := absurd ⟨rfl, rfl⟩ ha
  status _ := ⟨rfl, by simp [start]⟩
  opened _ hh := by simp [start] at hh
  reset hn := absurd rfl hn
  idle hn := absurd rfl hn
  ended hp := by cases hp

theorem Steps.prospect {errand : Errand} {json : Bool} (h : (start errand json).Steps timing v) :
    Prospect timing v := by
  induction h with
  | refl => exact prospect_start errand json
  | tail ht hu ih => exact ih.step ht.posted.1 ht.posted.2 hu

/-- A status fails exactly if its only list call failed, a watch exactly if its first one did,
whatever becomes of its polls, and a start exactly if its outcome is an error. A start calls for one
run, and the others for none. -/
theorem result_of_ended {errand : Errand} {json : Bool} (h : (start errand json).Steps timing v)
    (hf : v.console.phase = .ended fault) :
    v.past.startCalls timing = errand.startCalls ∧ v.Result timing fault errand := by
  have hprospect := h.prospect
  obtain ⟨r, hr⟩ := (hprospect.answered (by simp [hf])).reply
  have hstarts := h.posted.1.startCalls_eq hr
  have hresult := hprospect.ended hf
  rw [h.errand] at hstarts hresult
  exact ⟨hstarts, hresult⟩

theorem result_of_ended_after_failed_poll :
    ∃ v, (start .watch false).Steps {} v ∧ v.console.phase = .ended none ∧
      .err "Request failed: lost" ∈ v.console.printed ∧
      v.past.startCalls {} = [] ∧ v.Result {} none .watch := by
  let run (status : RunStatus) : Run := ⟨7, .manual, status, none, none, 0, 0, 0, 0⟩
  let server : Simulation.Server := ⟨[⟨5, .ok ⟨[run .running], .null⟩⟩,
    ⟨5, .error (.transport "lost")⟩, ⟨5, .ok ⟨[run .success], .null⟩⟩], [],
    ⟨0, .error (.transport "gone")⟩, ⟨0, .error (.transport "gone")⟩⟩
  have halive : ((Simulation.Flow.start ⟨0, 0⟩ server {} .watch false).run ⟨0, 0⟩ none
      20000000000).world.executor.controller.isSome := by decide +kernel
  have hended : ((Simulation.Flow.start ⟨0, 0⟩ server {} .watch false).run ⟨0, 0⟩ none
      20000000000).console.phase = .ended none := by decide +kernel
  obtain ⟨v, hv, hf, hprinted⟩ := Simulation.Flow.exists_vigil_of_ended halive hended
  refine ⟨v, hv, hf, ?_, result_of_ended hv hf⟩
  rw [hprinted]
  decide +kernel

end Vigil

end RunWatch
