import RunWatch.Console
import RunWatch.Proofs.Quiet
/-!
A console beside a controller, each at its own pace. The controller carries out its actions one by
one: events queue for the console, of the snapshots the newest is kept, and replies wait until they
are noticed. While it follows, the console reads events and looks at the snapshot in whatever order
it likes, and before it ends it reads the events that are left. Main statement: when it begins to
read what is left, nothing more is to come.
-/
set_option autoImplicit false

namespace RunWatch

namespace Console

/-- What a controller's action means for a console that is not looking: the backlog holds the events
that it has not read. -/
def receive (c : Console) : Action → Console
  | .emit e => { c with backlog := c.backlog ++ [e] }
  | .publish s => { c with seen := s }
  | _ => c

def read (clock : Timestamp) (c : Console) : Console :=
  match c.backlog with
  | [] => c
  | e :: rest =>
    let c := { c with backlog := rest }
    if c.json then c else c.tell clock e

def close (clock : Timestamp) (c : Console) (fault : Option Fault) : Console :=
  match c.errand with
  | .start _ => (if c.json then c else c.printSnapshot clock).conclude fault
  | _ =>
    let c := c.printSnapshot clock
    c.conclude c.verdict

structure Same (c d : Console) : Prop where
  errand : d.errand = c.errand
  json : d.json = c.json
  seen : d.seen = c.seen

variable {c d e : Console}

@[simp] theorem errand_receive (c : Console) (a : Action) : (c.receive a).errand = c.errand := by
  cases a <;> rfl

@[simp] theorem json_receive (c : Console) (a : Action) : (c.receive a).json = c.json := by
  cases a <;> rfl

@[simp] theorem phase_receive (c : Console) (a : Action) : (c.receive a).phase = c.phase := by
  cases a <;> rfl

@[simp] theorem printed_receive (c : Console) (a : Action) :
    (c.receive a).printed = c.printed := by cases a <;> rfl

theorem Same.trans (h : c.Same d) (h' : d.Same e) : c.Same e :=
  ⟨h'.errand.trans h.errand, h'.json.trans h.json, h'.seen.trans h.seen⟩

theorem same_tell (clock : Timestamp) (c : Console) (e : Event) : c.Same (c.tell clock e) := by
  unfold tell
  split
  · exact ⟨rfl, rfl, rfl⟩
  · split <;> exact ⟨rfl, rfl, rfl⟩

theorem same_read (clock : Timestamp) (c : Console) : c.Same (c.read clock) := by
  unfold read
  split
  · exact ⟨rfl, rfl, rfl⟩
  · next e rest _ =>
    have h : c.Same { c with backlog := rest } := ⟨rfl, rfl, rfl⟩
    simp only
    split
    · exact h
    · exact h.trans (same_tell clock _ e)

theorem phase_read (clock : Timestamp) (c : Console) :
    (c.read clock).phase = c.phase ∨ (c.read clock).phase = .crashed := by
  unfold read
  split
  · exact .inl rfl
  · simp only
    split
    · exact .inl rfl
    · unfold tell
      split
      · exact .inl rfl
      · split
        · exact .inr rfl
        · exact .inl rfl
        · exact .inl rfl

theorem same_printSnapshot (clock : Timestamp) (c : Console) : c.Same (c.printSnapshot clock) := by
  unfold printSnapshot
  split
  · exact ⟨rfl, rfl, rfl⟩
  · split
    · exact ⟨rfl, rfl, rfl⟩
    · split <;> exact ⟨rfl, rfl, rfl⟩

theorem same_interrupt (c : Console) : c.Same c.interrupt := by
  unfold interrupt
  split <;> exact ⟨rfl, rfl, rfl⟩

theorem same_conclude (c : Console) (fault : Option Fault) : c.Same (c.conclude fault) := by
  unfold conclude
  split <;> exact ⟨rfl, rfl, rfl⟩

theorem same_close (clock : Timestamp) (c : Console) (fault : Option Fault) :
    c.Same (c.close clock fault) := by
  unfold close
  split
  · split
    · exact same_conclude c fault
    · exact (same_printSnapshot clock c).trans (same_conclude _ fault)
  · exact (same_printSnapshot clock c).trans (same_conclude _ _)

end Console

inductive Leave where
  | staying
  | draining
  | drained
  deriving DecidableEq

structure Vigil where
  past : History := []
  /-- What it has not carried out yet of what it was last asked for. -/
  outbox : List Action := []
  carried : List Action := []
  queue : List (Caller × Command)
  answers : List (Caller × Reply) := []
  console : Console
  /-- The fault with which a start is to end. -/
  fault : Option Fault := none
  leave : Leave := .staying
  interrupted : Bool := false

namespace Vigil

/-- The callers of a console are numbered: its errand comes first, and then the reset. -/
def start (errand : Errand) (json : Bool) : Vigil where
  queue := [(0, errand.command)]
  console := { errand, json }

def handle (timing : Timing) (v : Vigil) (t : Nat) (i : Input) : Vigil :=
  { v with
    past := (t, i) :: v.past
    outbox := ((v.past.controller timing).step t i).actions }

def carry (v : Vigil) (a : Action) (rest : List Action) : Vigil :=
  { v with
    outbox := rest
    carried := v.carried ++ [a]
    answers := v.answers ++ a.reply?.toList
    console := v.console.receive a }

def follow (v : Vigil) : Vigil :=
  if v.console.seen.polling then { v with console := { v.console with phase := .following } }
  else { v with leave := .draining }

def resume (v : Vigil) (r : Reply) : Vigil :=
  match v.console.errand, r with
  | .status, _ => { v with leave := .drained }
  | .watch, _ => v.follow
  | .start wait, .outcome o =>
    let c := v.console.print (if v.console.json then .out o.toJson.pretty else .err o.line)
    match o with
    | .error message _ _ _ =>
      { v with
        console := c
        fault := some { account := "manual check failed: " ++ message, reported := true }
        leave := .draining }
    | _ => if wait then { v with console := c }.follow else { v with console := c.conclude none }
  | .start _, .done => v

inductive Step (timing : Timing) (v : Vigil) : Vigil → Prop where
  | take {t : Nat} {k : Caller} {cmd : Command} {rest : List (Caller × Command)}
      (ho : v.outbox = []) (ht : v.past.now ≤ t) (hq : v.queue = (k, cmd) :: rest) :
      Step timing v ({ v with queue := rest }.handle timing t (.command k cmd))
  | handle {t : Nat} {i : Input} (ho : v.outbox = []) (ht : v.past.now ≤ t)
      (hi : v.past.Admits timing i) (hn : i.order? = none) : Step timing v (v.handle timing t i)
  | carry {a : Action} {rest : List Action} (ho : v.outbox = a :: rest) :
      Step timing v (v.carry a rest)
  | resume {r : Reply} (hl : v.leave = .staying) (hp : v.console.phase = .asking)
      (hr : (0, r) ∈ v.answers) : Step timing v (v.resume r)
  | read (clock : Timestamp)
      (hl : v.leave = .draining ∨ v.leave = .staying ∧ v.console.phase = .following) :
      Step timing v { v with console := v.console.read clock }
  | look (hl : v.leave = .staying) (hp : v.console.phase = .following)
      (hs : v.console.seen.polling = false) : Step timing v { v with leave := .draining }
  | interrupt (hl : v.leave = .staying) (hp : v.console.phase = .following) :
      Step timing v { v with
        console := v.console.interrupt
        queue := v.queue ++ [(1, .reset)]
        interrupted := true }
  | forgotten {r : Reply} (hl : v.leave = .staying) (hp : v.console.phase = .resetting)
      (hr : (1, r) ∈ v.answers) : Step timing v { v with leave := .draining }
  | drained (hl : v.leave = .draining) (hb : v.console.json = true ∨ v.console.backlog = []) :
      Step timing v { v with leave := .drained }
  | close (clock : Timestamp) (hl : v.leave = .drained) (ho : v.console.isOver = false) :
      Step timing v { v with console := v.console.close clock v.fault }

inductive Steps (timing : Timing) (v : Vigil) : Vigil → Prop where
  | refl : Steps timing v v
  | tail {w u : Vigil} (h : Steps timing v w) (hu : w.Step timing u) : Steps timing v u

/-- What has been carried out of the actions that a history asks for, and what of its newest step
has not. -/
inductive Carrying (timing : Timing) : History → List Action → List Action → Prop where
  | done (past : History) : Carrying timing past (past.actions timing) []
  | under {before : History} {t : Nat} {i : Input} {sent rest : List Action}
      (h : ((before.controller timing).step t i).actions = sent ++ rest) :
      Carrying timing ((t, i) :: before) (before.actions timing ++ sent) rest

def sent (v : Vigil) : List (Caller × Command) :=
  (if v.interrupted then [(1, .reset)] else []) ++ [(0, v.console.errand.command)]

/-- What a console sees is what its controller has done. -/
structure Kept (timing : Timing) (v : Vigil) : Prop where
  orderly : v.past.Orderly timing
  orders : v.queue.reverse ++ v.past.orders = v.sent
  carrying : Carrying timing v.past v.carried v.outbox
  answers : ∀ p ∈ v.answers, .reply p.1 p.2 ∈ v.carried
  seen : v.console.seen = shownAfter v.carried

/-- Nothing more is told of or shown, now or later. -/
structure Silent (timing : Timing) (v : Vigil) : Prop where
  outbox : ∀ a ∈ v.outbox, a.isAnswer = true
  queue : v.queue = []
  quiet : v.past.Quiet timing

variable {timing : Timing} {v w : Vigil} {k : Caller} {r : Reply} {before : History} {t : Nat}
  {i : Input}

theorem Carrying.actions {past : History} {carried outbox : List Action}
    (h : Carrying timing past carried outbox) : carried ++ outbox = past.actions timing := by
  cases h with
  | done => exact List.append_nil _
  | under h => rw [List.append_assoc, ← h, History.actions]

theorem Carrying.mem_step {carried outbox : List Action}
    (h : Carrying timing ((t, i) :: before) carried outbox) {a : Action} (ha : a ∈ outbox) :
    a ∈ ((before.controller timing).step t i).actions := by
  cases h with
  | done => cases ha
  | under h => exact h ▸ List.mem_append_right _ ha

theorem nodup_sent (v : Vigil) : (v.sent.map Prod.fst).Nodup := by
  unfold sent
  cases v.interrupted <;> simp

theorem command_ne_reset (e : Errand) : e.command ≠ .reset := by cases e <;> simp [Errand.command]

theorem Kept.mem_actions (h : Kept timing v) {a : Action} (ha : a ∈ v.carried) :
    a ∈ v.past.actions timing :=
  h.carrying.actions ▸ List.mem_append_left _ ha

theorem Kept.mem_orders (h : Kept timing v) (hr : .reply k r ∈ v.carried) :
    k ∈ v.past.orders.map Prod.fst := h.orderly.mem_orders (h.mem_actions hr)

theorem Kept.queue_eq_nil (h : Kept timing v) (hr : .reply k r ∈ v.carried) {cmd : Command}
    {earlier : List (Caller × Command)} (hs : v.sent = (k, cmd) :: earlier) : v.queue = [] := by
  have horders := h.orders
  have hnodup := nodup_sent v
  cases hq : v.queue.reverse with
  | nil => simpa using hq
  | cons p rest =>
    rw [hs] at hnodup horders
    rw [hq, List.cons_append] at horders
    obtain ⟨-, rfl⟩ := List.cons.inj horders
    refine absurd ?_ (List.nodup_cons.1 hnodup).1
    rw [List.map_append]
    exact List.mem_append_right _ (h.mem_orders hr)

variable {before : History} {t : Nat} {i : Input} {done rest : List Action}

theorem Kept.orders_before (h : Kept timing v) (hq : v.queue = []) (hp : v.past = (t, i) :: before)
    {cmd : Command} {earlier : List (Caller × Command)} (hs : v.sent = (k, cmd) :: earlier)
    (hr : .reply k r ∈ before.actions timing) : i.order? = none ∧ before.orders = v.sent := by
  have hy := h.orderly
  have ho := h.orders
  rw [hp] at hy ho
  rw [hq, List.reverse_nil, List.nil_append] at ho
  have hk := hy.1.mem_orders hr
  cases hn : i.order? with
  | none => exact ⟨rfl, by rw [← ho, History.orders_cons_of_none hn]⟩
  | some p =>
    have hcons : History.orders ((t, i) :: before) = p :: before.orders := by
      simp [History.orders, hn]
    rw [hcons, hs] at ho
    obtain ⟨rfl, rfl⟩ := List.cons.inj ho
    have hnodup := nodup_sent v
    rw [hs] at hnodup
    exact absurd hk (List.nodup_cons.1 hnodup).1

theorem Kept.not_waiting (h : Kept timing v) (hq : v.queue = []) (hp : v.past = (t, i) :: before)
    {cmd : Command} {earlier : List (Caller × Command)} (hs : v.sent = (k, cmd) :: earlier)
    (hi : i.isReset = true) : k ∉ (before.controller timing).fetches.callers := by
  intro hk
  have hy := h.orderly
  have ho := h.orders
  rw [hp] at hy ho
  obtain ⟨j, rfl⟩ := Input.isReset_iff.1 hi
  rw [hq, hs, List.reverse_nil, List.nil_append, History.orders_cons_command] at ho
  obtain ⟨rfl, -⟩ := Prod.mk.inj (List.cons.inj ho).1
  have hle := hy.1.count_waitedFor_le j
  have hpos : 0 < (before.waitedFor timing).count j :=
    List.count_pos_iff.2 (List.mem_append_right _ hk)
  exact hy.2.2 (List.count_pos_iff.1 (by omega))

/-- Once the command that was sent last has been answered, all of the newest step is on show, or
nothing of it, and then the answer came before that step. -/
theorem Kept.seen_cases (h : Kept timing v) {cmd : Command} {earlier : List (Caller × Command)}
    (hs : v.sent = (k, cmd) :: earlier) (hr : .reply k r ∈ v.carried) :
    (v.console.seen = (v.past.controller timing).session.snapshot ∧
        ∀ a ∈ v.outbox, a.isAnswer = true) ∨
      ∃ (t : Nat) (i : Input) (before : History), v.past = (t, i) :: before ∧ i.order? = none ∧
        before.orders = v.sent ∧ .reply k r ∈ before.actions timing ∧
          v.console.seen = (before.controller timing).session.snapshot := by
  have hq := h.queue_eq_nil hr hs
  have hcarrying := h.carrying
  rw [h.seen]
  generalize hp : v.past = past at hcarrying
  generalize v.carried = carried at hr hcarrying
  generalize v.outbox = outbox at hcarrying
  cases hcarrying with
  | done => exact .inl ⟨History.shownAfter_actions timing past, by simp⟩
  | @under before t i done rest ha =>
    have hshowing := Controller.step_showing t (before.controller timing) i
    rw [shownAfter_append, History.shownAfter_actions]
    by_cases hpub : .publish ((before.controller timing).step t i).state.session.snapshot ∈ done
    · -- the newest step has shown the session, and only answers come after that
      refine .inl ⟨hshowing.last_shown ha hpub _, fun a hm => ?_⟩
      obtain ⟨s₁, s₂, rfl⟩ := List.append_of_mem hpub
      rw [List.append_assoc, List.cons_append] at ha
      exact (hshowing.of_publish ha).2 a (List.mem_append_right _ hm)
    · rw [hshowing.nothing_shown ha hpub]
      rcases List.mem_append.1 hr with hr | hr
      · obtain ⟨hn, ho⟩ := h.orders_before hq hp hs hr
        exact .inr ⟨t, i, before, rfl, hn, ho, hr, rfl⟩
      · obtain ⟨s₁, s₂, rfl⟩ := List.append_of_mem hr
        rw [List.append_assoc, List.cons_append] at ha
        rcases Controller.shown_before_reply ha with hd | hm | ⟨-, hrest, hsame⟩
        · obtain ⟨w, hw, hk, -⟩ := hd.waiting
          exact absurd (List.mem_map.2 ⟨w, hw, hk⟩) (h.not_waiting hq hp hs hd.reset)
        · exact absurd (List.mem_append_left _ hm) hpub
        · refine .inl ⟨?_, fun a hm => by simp [(List.append_eq_nil_iff.1 hrest).2] at hm⟩
          rw [History.controller, hsame]
          rfl

/-- Once the command that was sent last has been answered nothing more is to come, if the controller
whose session is on show is quiet then. -/
theorem Kept.silent (h : Kept timing v) {cmd : Command} {earlier : List (Caller × Command)}
    (hs : v.sent = (k, cmd) :: earlier) (hr : .reply k r ∈ v.carried)
    (hquiet : ∀ past : History, past.Orderly timing → past.orders = v.sent →
      .reply k r ∈ past.actions timing →
      v.console.seen = (past.controller timing).session.snapshot → past.Quiet timing) :
    Silent timing v := by
  have hq := h.queue_eq_nil hr hs
  have hy := h.orderly
  rcases h.seen_cases hs hr with ⟨hseen, ha⟩ | ⟨t, i, before, hp, hn, ho, hr, hseen⟩
  · have ho := h.orders
    rw [hq, List.reverse_nil, List.nil_append] at ho
    exact ⟨ha, hq, hquiet _ hy ho (h.mem_actions hr) hseen⟩
  · rw [hp] at hy
    have hbefore := hquiet before hy.1 ho hr hseen
    have hcarrying := h.carrying
    rw [hp] at hcarrying
    exact ⟨fun a ha => hbefore.answers hy.2.2 hn a (hcarrying.mem_step ha), hq,
      hp ▸ hbefore.cons hy.2.2 hn⟩

theorem sent_of_interrupted (hi : v.interrupted = true) :
    v.sent = [(1, .reset), (0, v.console.errand.command)] := by simp [sent, hi]

theorem sent_of_not_interrupted (hi : v.interrupted = false) :
    v.sent = [(0, v.console.errand.command)] := by simp [sent, hi]

theorem Kept.silent_of_reset (h : Kept timing v) (hi : v.interrupted = true)
    (hr : .reply 1 r ∈ v.carried) : Silent timing v := by
  have hs := sent_of_interrupted hi
  exact h.silent hs hr fun past hy ho _ _ => hy.quiet_of_reset (ho.trans hs)

theorem Kept.silent_of_error (h : Kept timing v) (hi : v.interrupted = false) {o : Outcome}
    (he : o.isError = true) (hr : .reply 0 (.outcome o) ∈ v.carried) : Silent timing v := by
  have hs := sent_of_not_interrupted hi
  refine h.silent hs hr fun past hy ho hr _ => ?_
  have hone : past.orders <:+ [(0, v.console.errand.command)] := by simp [ho, hs]
  exact hy.quiet_of_error hone (command_ne_reset _) he hr

theorem Kept.silent_of_seen (h : Kept timing v) (hi : v.interrupted = false)
    (hr : .reply 0 r ∈ v.carried) (hseen : v.console.seen.polling = false) : Silent timing v := by
  have hs := sent_of_not_interrupted hi
  refine h.silent hs hr fun past hy ho hr hshown => ?_
  have hone : past.orders <:+ [(0, v.console.errand.command)] := by simp [ho, hs]
  rw [hshown] at hseen
  exact hy.quiet hone (command_ne_reset _) (mem_replies hr) hseen

theorem Kept.of_same (h : Kept timing v)
    (hw : w = { v with console := w.console, fault := w.fault, leave := w.leave })
    (hc : v.console.Same w.console) : Kept timing w := by
  rw [hw]
  refine ⟨h.orderly, ?_, h.carrying, h.answers, hc.seen.trans h.seen⟩
  simp only [sent, hc.errand]
  exact h.orders

theorem same_follow (v : Vigil) :
    v.follow = { v with console := v.follow.console, leave := v.follow.leave } ∧
      v.console.Same v.follow.console := by
  unfold follow
  split <;> exact ⟨rfl, rfl, rfl, rfl⟩

theorem same_resume (v : Vigil) (r : Reply) :
    v.resume r = { v with
      console := (v.resume r).console, fault := (v.resume r).fault, leave := (v.resume r).leave } ∧
      v.console.Same (v.resume r).console := by
  unfold resume
  split
  · exact ⟨rfl, rfl, rfl, rfl⟩
  · have hf := same_follow v
    exact ⟨by rw [hf.1], hf.2⟩
  · next wait o _ =>
    generalize hc : v.console.print _ = c
    have hsame : v.console.Same c := hc ▸ ⟨rfl, rfl, rfl⟩
    cases o with
    | error => exact ⟨rfl, hsame⟩
    | _ =>
      cases wait with
      | true =>
        have hf := same_follow { v with console := c }
        exact ⟨by simp only [if_true]; rw [hf.1], hsame.trans hf.2⟩
      | false => exact ⟨rfl, hsame.trans (Console.same_conclude c none)⟩
  · exact ⟨rfl, rfl, rfl, rfl⟩

theorem Step.same (h : v.Step timing w) :
    w.console.errand = v.console.errand ∧ w.console.json = v.console.json := by
  have of {c : Console} (hc : v.console.Same c) :
      c.errand = v.console.errand ∧ c.json = v.console.json := ⟨hc.errand, hc.json⟩
  cases h with
  | @carry a => exact ⟨v.console.errand_receive a, v.console.json_receive a⟩
  | resume => exact of (same_resume v _).2
  | read clock => exact of (Console.same_read clock _)
  | interrupt => exact of (Console.same_interrupt _)
  | close clock => exact of (Console.same_close clock _ _)
  | _ => exact ⟨rfl, rfl⟩

theorem Steps.errand {errand : Errand} {json : Bool} (h : (start errand json).Steps timing v) :
    v.console.errand = errand := by
  induction h with
  | refl => rfl
  | tail _ hu ih => exact hu.same.1.trans ih

theorem Kept.handle (h : Kept timing v) (ho : v.outbox = []) (ht : v.past.now ≤ t)
    (hi : v.past.Admits timing i) {queue : List (Caller × Command)}
    (hq : queue.reverse ++ History.orders ((t, i) :: v.past) = v.sent) :
    Kept timing ({ v with queue := queue }.handle timing t i) := by
  have hdone := h.carrying.actions
  rw [ho, List.append_nil] at hdone
  refine ⟨⟨h.orderly, ht, hi⟩, hq, ?_, h.answers, h.seen⟩
  have hc : Carrying timing ((t, i) :: v.past) (v.past.actions timing ++ [])
      ((v.past.controller timing).step t i).actions := .under rfl
  rwa [List.append_nil, ← hdone] at hc

theorem Kept.admits_of_queue (h : Kept timing v) {cmd : Command} {rest : List (Caller × Command)}
    (hq : v.queue = (k, cmd) :: rest) : v.past.Admits timing (.command k cmd) := by
  show k ∉ v.past.commanders
  have hnodup := nodup_sent v
  rw [← h.orders, hq, List.reverse_cons, List.append_assoc, List.map_append] at hnodup
  rw [History.commanders_eq]
  exact (List.nodup_cons.1 (List.nodup_append.1 hnodup).2.1).1

theorem Kept.take (h : Kept timing v) (ho : v.outbox = []) (ht : v.past.now ≤ t) {cmd : Command}
    {rest : List (Caller × Command)} (hq : v.queue = (k, cmd) :: rest) :
    Kept timing ({ v with queue := rest }.handle timing t (.command k cmd)) := by
  refine h.handle ho ht (h.admits_of_queue hq) ?_
  rw [History.orders_cons_command, ← h.orders, hq, List.reverse_cons, List.append_assoc]
  rfl

theorem Kept.carry (h : Kept timing v) {a : Action} {rest : List Action}
    (ho : v.outbox = a :: rest) : Kept timing (v.carry a rest) := by
  refine ⟨h.orderly, ?_, ?_, fun p hp => ?_, ?_⟩
  · have hs : (v.carry a rest).sent = v.sent := by cases a <;> rfl
    exact h.orders.trans hs.symm
  · have hc := h.carrying
    rw [ho] at hc
    show Carrying timing v.past (v.carried ++ [a]) rest
    generalize v.past = past at hc
    generalize v.carried = carried at hc
    cases hc with
    | under ha =>
      rw [List.append_assoc]
      exact .under (ha.trans (by simp))
  · rcases List.mem_append.1 hp with hp | hp
    · exact List.mem_append_left _ (h.answers p hp)
    · refine List.mem_append_right _ (List.mem_singleton.2 ?_)
      cases a with
      | reply k r =>
        obtain rfl := List.mem_singleton.1 hp
        rfl
      | _ => nomatch hp
  · show (v.console.receive a).seen = shownAfter (v.carried ++ [a])
    rw [shownAfter_append, ← h.seen]
    cases a <;> rfl

structure Posted (timing : Timing) (v : Vigil) : Prop where
  asking (hl : v.leave = .staying) (hp : v.console.phase = .asking) : v.interrupted = false
  following (hl : v.leave = .staying) (hp : v.console.phase = .following) :
    v.interrupted = false ∧ ∃ r, .reply 0 r ∈ v.carried
  resetting (hl : v.leave = .staying) (hp : v.console.phase = .resetting) :
    v.interrupted = true ∧ ∃ r, .reply 0 r ∈ v.carried
  leaving (hl : v.leave ≠ .staying) (he : v.console.errand ≠ .status) : Silent timing v

theorem Kept.step (h : Kept timing v) (hp : Posted timing v) (hw : v.Step timing w) :
    Kept timing w := by
  cases hw with
  | take ho ht hq => exact h.take ho ht hq
  | handle ho ht hi hn =>
    exact h.handle ho ht hi (by rw [History.orders_cons_of_none hn, h.orders])
  | carry ho => exact h.carry ho
  | resume => exact h.of_same (same_resume v _).1 (same_resume v _).2
  | read clock => exact h.of_same rfl (Console.same_read clock _)
  | look | forgotten | drained => exact h.of_same rfl ⟨rfl, rfl, rfl⟩
  | interrupt hl hf =>
    have hi := (hp.following hl hf).1
    have hc := v.console.same_interrupt
    refine ⟨h.orderly, ?_, h.carrying, h.answers, hc.seen.trans h.seen⟩
    have ho := h.orders
    simp only [sent, hi, Bool.false_eq_true, if_false, List.nil_append] at ho
    simp only [sent, hc.errand, if_true, List.reverse_append, List.append_assoc, ho]
    rfl
  | close clock => exact h.of_same rfl (Console.same_close clock _ _)

theorem Silent.handle (h : Silent timing v) (hi : v.past.Admits timing i) (hn : i.order? = none)
    (t : Nat) : Silent timing (v.handle timing t i) :=
  ⟨h.quiet.answers hi hn, h.queue, h.quiet.cons hi hn⟩

theorem Silent.carry (h : Silent timing v) {a : Action} {rest : List Action}
    (ho : v.outbox = a :: rest) : a.isAnswer = true ∧ Silent timing (v.carry a rest) := by
  have ha := h.outbox
  rw [ho] at ha
  exact ⟨ha a List.mem_cons_self, fun b hb => ha b (.tail _ hb), h.queue, h.quiet⟩

theorem Posted.follow (h : Kept timing v) (hl : v.leave = .staying) (hi : v.interrupted = false)
    (hr : .reply 0 r ∈ v.carried) : Posted timing v.follow := by
  unfold Vigil.follow
  split
  · exact ⟨nofun, fun _ _ => ⟨hi, r, hr⟩, nofun, fun hn => absurd hl hn⟩
  · next hs =>
    have hsilent := h.silent_of_seen hi hr (by simpa using hs)
    exact ⟨nofun, nofun, nofun, fun _ _ => ⟨hsilent.outbox, hsilent.queue, hsilent.quiet⟩⟩

theorem Posted.resume (h : Kept timing v) (hp : Posted timing v) (hl : v.leave = .staying)
    (ha : v.console.phase = .asking) (hr : .reply 0 r ∈ v.carried) :
    Posted timing (v.resume r) := by
  have hi := hp.asking hl ha
  unfold Vigil.resume
  split
  · next he => exact ⟨nofun, nofun, nofun, fun _ hn => absurd he hn⟩
  · exact .follow h hl hi hr
  · next wait o he =>
    generalize hc : v.console.print _ = c
    have hk : Kept timing { v with console := c } := h.of_same rfl (hc ▸ ⟨rfl, rfl, rfl⟩)
    cases ho : o.isError with
    | true =>
      have hsilent := h.silent_of_error hi ho hr
      cases o with
      | error =>
        exact ⟨nofun, nofun, nofun, fun _ _ => ⟨hsilent.outbox, hsilent.queue, hsilent.quiet⟩⟩
      | _ => nomatch ho
    | false =>
      have going : Posted timing (if wait then { v with console := c }.follow
          else { v with console := c.conclude none }) := by
        cases wait with
        | true => exact .follow hk hl hi hr
        | false =>
          have hover : (c.conclude none).phase = .ended none := by
            have : c.phase = .asking := hc ▸ ha
            simp [Console.conclude, Console.isOver, this]
          exact ⟨fun _ hp => (nomatch hover.symm.trans hp),
            fun _ hp => (nomatch hover.symm.trans hp), fun _ hp => (nomatch hover.symm.trans hp),
            fun hn => absurd hl hn⟩
      cases o with
      | error => nomatch ho
      | _ => exact going
  · exact hp

theorem Posted.step (h : Kept timing v) (hp : Posted timing v) (hw : v.Step timing w) :
    Posted timing w := by
  have leave (hn : v.leave ≠ .staying) {w : Vigil} (hl : w.leave ≠ .staying)
      (hs : Silent timing v → Silent timing w) (he : w.console.errand = v.console.errand) :
      Posted timing w :=
    ⟨fun hl' => absurd hl' hl, fun hl' => absurd hl' hl, fun hl' => absurd hl' hl,
      fun _ hne => hs (hp.leaving hn (he ▸ hne))⟩
  cases hw with
  | take ho ht hq =>
    refine ⟨hp.asking, hp.following, hp.resetting, fun hl he => ?_⟩
    have := (hp.leaving hl he).queue
    simp [hq] at this
  | handle ho ht hi hn =>
    exact ⟨hp.asking, hp.following, hp.resetting, fun hl he => (hp.leaving hl he).handle hi hn _⟩
  | @carry a rest ho =>
    have hphase : (v.carry a rest).console.phase = v.console.phase := v.console.phase_receive a
    have herrand : (v.carry a rest).console.errand = v.console.errand :=
      v.console.errand_receive a
    have more : (∃ r, .reply 0 r ∈ v.carried) → ∃ r, .reply 0 r ∈ (v.carry a rest).carried :=
      fun ⟨r, hr⟩ => ⟨r, List.mem_append_left _ hr⟩
    exact ⟨fun hl ha => hp.asking hl (hphase ▸ ha),
      fun hl hf => (hp.following hl (hphase ▸ hf)).imp_right more,
      fun hl hf => (hp.resetting hl (hphase ▸ hf)).imp_right more,
      fun hl he => ((hp.leaving hl (herrand ▸ he)).carry ho).2⟩
  | resume hl ha hr => exact .resume h hp hl ha (h.answers _ hr)
  | read clock hl =>
    have hphase := v.console.phase_read clock
    have herrand := (v.console.same_read clock).errand
    rcases hl with hl | ⟨hl, hf⟩
    · exact leave (by simp [hl]) (by simp [hl]) (fun hs => ⟨hs.outbox, hs.queue, hs.quiet⟩) herrand
    · refine ⟨fun _ ha => ?_, fun _ _ => hp.following hl hf, fun _ ha => ?_,
        fun hn => absurd hl hn⟩
      · simp_all
      · simp_all
  | look hl hf hs =>
    obtain ⟨hi, r, hr⟩ := hp.following hl hf
    have hsilent := h.silent_of_seen hi hr hs
    exact ⟨nofun, nofun, nofun, fun _ _ => ⟨hsilent.outbox, hsilent.queue, hsilent.quiet⟩⟩
  | interrupt hl hf =>
    have hphase : v.console.interrupt.phase = .resetting := by simp [Console.interrupt, hf]
    exact ⟨fun _ ha => (nomatch hphase.symm.trans ha), fun _ ha => (nomatch hphase.symm.trans ha),
      fun _ _ => ⟨rfl, (hp.following hl hf).2⟩, fun hn => absurd hl hn⟩
  | forgotten hl hf hr =>
    have hsilent := h.silent_of_reset (hp.resetting hl hf).1 (h.answers _ hr)
    exact ⟨nofun, nofun, nofun, fun _ _ => ⟨hsilent.outbox, hsilent.queue, hsilent.quiet⟩⟩
  | drained hl =>
    exact leave (by simp [hl]) nofun (fun hs => ⟨hs.outbox, hs.queue, hs.quiet⟩) rfl
  | close clock hl =>
    exact leave (by simp [hl]) (by simp [hl]) (fun hs => ⟨hs.outbox, hs.queue, hs.quiet⟩)
      (Console.same_close clock _ _).errand

/-- Whatever happens, the books are kept; and once a console reads what is left, nothing more is to
come. -/
theorem Steps.posted {errand : Errand} {json : Bool} (h : (start errand json).Steps timing v) :
    Kept timing v ∧ Posted timing v := by
  induction h with
  | refl =>
    exact ⟨⟨trivial, rfl, .done [], nofun, rfl⟩, fun _ _ => rfl, nofun, nofun,
      fun hn => absurd rfl hn⟩
  | tail _ hu ih => exact ⟨ih.1.step ih.2 hu, ih.2.step ih.1 hu⟩

end Vigil

end RunWatch
