import RunWatch.Proofs.Bookkeeping
import RunWatch.Proofs.Holding
import RunWatch.Proofs.Submission
/-!
Servers that answer honestly. Each run begins and ends once, and an answer reports a run as it stood
between the instant at which the call was made and the one at which its end is handled. An answer
may lag behind all the same: what it reports as still going on may have ended meanwhile, but only if
the call was made before it ended.
-/
set_option autoImplicit false

namespace RunWatch

/-- What becomes of the runs on a server: from when on there is one, and from when on it has ended,
if ever. -/
structure Server where
  begun : UInt64 → Option Nat
  ended : UInt64 → Option Nat
  grows {a b : UInt64} {s t : Nat} (ha : begun a = some s) (hb : begun b = some t) (h : a < b) :
    s ≤ t

namespace Server

variable (server : Server)

def isThere (id : UInt64) (now : Nat) : Bool := (server.begun id).any (· ≤ now)

def isOver (id : UInt64) (now : Nat) : Bool := (server.ended id).any (· ≤ now)

variable {server}

theorem isOver_mono {id : UInt64} {s t : Nat} (h : server.isOver id s = true) (hst : s ≤ t) :
    server.isOver id t = true := by
  unfold isOver at *
  cases he : server.ended id with
  | none => simp [he] at h
  | some n =>
    simp only [he, Option.any_some, decide_eq_true_eq] at h ⊢
    exact Nat.le_trans h hst

theorem not_isOver_mono {id : UInt64} {s t : Nat} (h : server.isOver id t = false) (hst : s ≤ t) :
    server.isOver id s = false := by
  cases hs : server.isOver id s with
  | false => rfl
  | true => nomatch h.symm.trans (isOver_mono hs hst)

variable (server)

def single (id : UInt64) (begun ended : Nat) : Server where
  begun j := if j = id then some begun else none
  ended j := if j = id then some ended else none
  grows ha hb h := by
    simp only [Option.ite_none_right_eq_some] at ha hb
    exact absurd (ha.1.trans hb.1.symm ▸ h) (UInt64.lt_irrefl _)

/-- The run is told as it stood at an instant. -/
structure Reports (run : Run) (now : Nat) : Prop where
  there : server.isThere run.id now = true
  ended : run.isTerminal = server.isOver run.id now

instance (run : Run) (now : Nat) : Decidable (server.Reports run now) :=
  decidable_of_iff (server.isThere run.id now = true ∧ run.isTerminal = server.isOver run.id now)
    ⟨fun h => ⟨h.1, h.2⟩, fun h => ⟨h.there, h.ended⟩⟩

end Server

def Input.run? : Input → Option Run
  | .listed _ _ (.ok l) => l.runs.head?
  | .triggered _ _ (.ok r) => some r.run
  | _ => none

def Request.isList : Request → Bool
  | .list _ _ => true
  | _ => false

namespace Controller

theorem call?_of_brings {c : Controller} {i : Input} {run : Run} (h : c.brings? i = some run) :
    i.run? = some run ∧ ∃ q, i.call? = some q ∧ q.epoch? = some c.epoch := by
  unfold brings? at h
  split at h
  · split at h
    · next he => exact ⟨h, _, rfl, congrArg some he⟩
    · nomatch h
  · split at h
    · next he => exact ⟨h, _, rfl, congrArg some he⟩
    · nomatch h
  · nomatch h

end Controller

namespace History

variable (timing : Timing)

def sentAt (q : Request) : History → Option Nat
  | [] => none
  | (t, i) :: past =>
    if q ∈ ((controller timing past).step t i).calls then some t else sentAt q past

/-- Every answer reports its run as it stood between the making of the call and its end. -/
def Honest (server : Server) : History → Prop
  | [] => True
  | (t, i) :: past => Honest server past ∧
    ∀ q ∈ i.call?, ∀ run ∈ i.run?, ∃ sent ∈ sentAt timing q past, ∃ read ≤ t,
      sent ≤ read ∧ server.Reports run read

instance decidableHonest (server : Server) :
    (past : History) → Decidable (Honest timing server past)
  | [] => .isTrue trivial
  | (t, i) :: past =>
    have := decidableHonest server past
    inferInstanceAs (Decidable (_ ∧ ∀ q ∈ i.call?, ∀ run ∈ i.run?,
      ∃ sent ∈ sentAt timing q past, ∃ read ≤ t, sent ≤ read ∧ server.Reports run read))

/-- A call of the epoch that is pending, and was made before a run ended. -/
structure Lags (server : Server) (id : UInt64) (past : History) (q : Request) : Prop where
  pending : q ∈ pending timing past
  epoch : q.epoch? = some (controller timing past).epoch
  early : ∃ sent, sentAt timing q past = some sent ∧ server.isOver id sent = false

variable {timing} {server : Server} {past : History}

theorem Orderly.eq_of_isList_eq (h : Orderly timing past) {q q' : Request}
    (hq : q ∈ pending timing past) (hq' : q' ∈ pending timing past)
    (he : q.epoch? = some (controller timing past).epoch)
    (he' : q'.epoch? = some (controller timing past).epoch) (hl : q.isList = q'.isList) :
    q = q' := by
  cases q with
  | list epoch seq =>
    obtain rfl := Option.some.inj he
    cases q' with
    | list epoch' seq' =>
      obtain rfl := Option.some.inj he'
      rw [((h.list_mem_pending_iff seq).1 hq).2, ((h.list_mem_pending_iff seq').1 hq').2]
    | _ => nomatch hl
  | trigger epoch k =>
    obtain rfl := Option.some.inj he
    cases q' with
    | list epoch' seq' => nomatch hl
    | trigger epoch' k' =>
      obtain rfl := Option.some.inj he'
      rw [h.submission.alone hq hq']
    | wake due => nomatch he'
  | wake due => nomatch he

theorem Lags.of_cons {t : Nat} {i : Input} {id : UInt64} {q : Request}
    (h : Lags timing server id ((t, i) :: past) q) (hr : i.isReset = false)
    (ho : server.isOver id t = true) : Lags timing server id past q ∧ i.call? ≠ some q := by
  obtain ⟨hp, he, sent, hs, hn⟩ := h
  have hepoch : (controller timing ((t, i) :: past)).epoch = _ := epoch_cons hr
  by_cases hc : q ∈ ((controller timing past).step t i).calls
  · obtain rfl : t = sent := by simpa [sentAt, hc] using hs
    simp [ho] at hn
  · obtain ⟨hq, hne⟩ := (mem_pending_cons.1 hp).resolve_right hc
    exact ⟨⟨hq, hepoch ▸ he, sent, by simpa [sentAt, hc] using hs, hn⟩, hne⟩

/-- Whoever brings a run has made a call of the epoch that is still pending, and the run has been
read since. -/
theorem Honest.of_brings {t : Nat} {i : Input} {run : Run}
    (hh : Honest timing server ((t, i) :: past))
    (ho : Orderly timing ((t, i) :: past)) (h : (controller timing past).brings? i = some run) :
    ∃ q sent read, i.call? = some q ∧ q ∈ pending timing past ∧
      q.epoch? = some (controller timing past).epoch ∧ sentAt timing q past = some sent ∧
      sent ≤ read ∧ read ≤ t ∧ server.Reports run read := by
  obtain ⟨hrun, q, hq, he⟩ := Controller.call?_of_brings h
  obtain ⟨sent, hs, read, hlt, hle, hrep⟩ := hh.2 q hq run hrun
  exact ⟨q, sent, read, hq, (admits_iff_mem_pending hq).1 ho.2.2, he, hs, hle, hlt, hrep⟩

theorem Honest.isOver_of_brings {t : Nat} {i : Input} {run : Run}
    (hh : Honest timing server ((t, i) :: past)) (ho : Orderly timing ((t, i) :: past))
    (h : (controller timing past).brings? i = some run) (hr : run.isTerminal = true) :
    server.isOver run.id t = true := by
  obtain ⟨q, sent, read, -, -, -, -, -, hle, hrep⟩ := hh.of_brings ho h
  exact Server.isOver_mono (hrep.ended ▸ hr) hle

theorem Honest.lags_of_brings {t : Nat} {i : Input} {run : Run}
    (hh : Honest timing server ((t, i) :: past)) (ho : Orderly timing ((t, i) :: past))
    (h : (controller timing past).brings? i = some run) (hr : run.isTerminal = false) :
    ∃ q, i.call? = some q ∧ Lags timing server run.id past q := by
  obtain ⟨q, sent, read, hq, hp, he, hs, hle, -, hrep⟩ := hh.of_brings ho h
  exact ⟨q, hq, hp, he, sent, hs, Server.not_isOver_mono (hrep.ended ▸ hr) hle⟩

end History

end RunWatch
