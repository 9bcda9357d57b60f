import RunWatch.Proofs.Farewell
/-!
An executor among those who use it: commands queue until the controller takes them, calls end in any
order, and what they brought queues until it is handled. The controller takes whatever it finds, be
it a command, the end of a call or a timer, and may be ended from outside at any moment. Main
statement: in every system that can come about, the books are in order.
-/
set_option autoImplicit false

namespace RunWatch

def Request.isCall : Request → Bool
  | .wake _ => false
  | _ => true

structure System where
  executor : Executor
  now : Nat := 0
  /-- All commands that were ever issued, each under the number of its caller. -/
  commands : List Command := []
  queue : List (Caller × Command) := []
  calls : List Request := []
  ended : List Input := []
  happened : List Happening := []

namespace System

def start (timing : Timing) : System := { executor := .start timing }

def settle (s : System) (x : Executor) : System :=
  let (requests, trace, executor) := x.take
  { s with
    executor
    calls := s.calls ++ requests.filter Request.isCall
    happened := s.happened ++ trace }

/-- The system after its executor has moved. Whatever is queued for a controller that is gone is
lost, and those whose calls had ended learn it. -/
def moved (s : System) (x : Executor) : System :=
  if x.controller.isSome then s.settle x
  else { s with queue := [], ended := [] }.settle (s.ended.foldl (·.handle s.now ·) x)

def handle (s : System) (i : Input) : System := s.moved (s.executor.handle s.now i)

def submit (s : System) (cmd : Command) : System :=
  let t := { s with commands := s.commands ++ [cmd] }
  if s.executor.controller.isSome then
    { t with
      executor := s.executor.enlist cmd
      queue := s.queue ++ [(s.executor.nextCaller, cmd)] }
  else t.moved (s.executor.issue s.now cmd)

def complete (s : System) (i : Input) : System :=
  if s.executor.controller.isSome then { s with ended := s.ended ++ [i] } else s.handle i

def kill (s : System) : System := s.moved s.executor.kill

inductive Step (s : System) : System → Prop where
  | elapse (d : Nat) : Step s { s with now := s.now + d }
  | submit (cmd : Command) : Step s (s.submit cmd)
  | takeCommand {k : Caller} {cmd : Command} {rest : List (Caller × Command)}
      (h : s.queue = (k, cmd) :: rest) : Step s ({ s with queue := rest }.handle (.command k cmd))
  | callEnds {r : Request} {i : Input} {before after : List Request}
      (h : s.calls = before ++ r :: after) (hi : i.Ends r) :
      Step s ({ s with calls := before ++ after }.complete i)
  | takeEnded {i : Input} {rest : List Input} (h : s.ended = i :: rest) :
      Step s ({ s with ended := rest }.handle i)
  | pollDue : Step s (s.handle .pollDue)
  | startingDue : Step s (s.handle .startingDue)
  | kill : Step s s.kill

inductive Steps (s : System) : System → Prop where
  | refl : Steps s s
  | tail {t u : System} (h : Steps s t) (hu : t.Step u) : Steps s u

def starting (s : System) : List Caller :=
  s.ended.flatMap Input.starter ++ s.calls.filterMap Request.starter?

def answered (s : System) : List Caller := s.happened.filterMap Happening.answered?

structure Ready (s : System) (x : Executor) : Prop where
  ledger : x.Ledger [] (s.queue.map Prod.fst) s.starting s.answered
  knows : x.Knows s.commands
  queued : ∀ p ∈ s.queue, s.commands[p.1]? = some p.2
  ended : ∀ i ∈ s.ended, i.commander = []

/-- The books of a system are in order. -/
structure Sound (s : System) : Prop where
  ready : s.Ready s.executor
  requests : s.executor.requests = []
  trace : s.executor.trace = []
  gone : s.executor.controller = none → s.queue = [] ∧ s.ended = []

theorem starter?_filter_isCall (rs : List Request) :
    (rs.filter Request.isCall).filterMap Request.starter? = rs.filterMap Request.starter? := by
  induction rs with
  | nil => rfl
  | cons r rs ih =>
    cases r <;> simp [List.filter_cons, List.filterMap_cons, Request.isCall, ih]

variable {s : System} {x : Executor}

theorem Ready.settle (h : s.Ready x)
    (hx : x.controller = none → s.queue = [] ∧ s.ended = []) : (s.settle x).Sound := by
  refine ⟨⟨?_, h.knows.take, h.queued, h.ended⟩, rfl, rfl, hx⟩
  have ha : (s.settle x).answered = s.answered ++ x.trace.filterMap Happening.answered? :=
    List.filterMap_append
  rw [ha]
  refine h.ledger.take.of_count fun k => ?_
  have hc : (s.settle x).starting =
      s.ended.flatMap Input.starter ++ (s.calls.filterMap Request.starter? ++
        x.requests.filterMap Request.starter?) := by
    simp [starting, System.settle, Executor.take, starter?_filter_isCall]
  rw [hc]
  simp only [starting, List.count_append]
  omega

theorem controller_foldl_handle {x : Executor} (hx : x.controller = none) (now : Nat)
    (is : List Input) : (is.foldl (·.handle now ·) x).controller = none := by
  induction is generalizing x with
  | nil => exact hx
  | cons i is ih => exact ih (x.controller_handle_none hx now i)

theorem drain {is : List Input} {queue calls told : List Caller} {commands : List Command}
    (hl : x.Ledger [] queue (is.flatMap Input.starter ++ calls) told) (hk : x.Knows commands)
    (hc : ∀ i ∈ is, i.commander = []) (now : Nat) :
    (is.foldl (·.handle now ·) x).Ledger [] queue calls told ∧
      (is.foldl (·.handle now ·) x).Knows commands ∧
      ∀ n, x.Parted n commands → (is.foldl (·.handle now ·) x).Parted n commands := by
  induction is generalizing x with
  | nil => exact ⟨hl, hk, fun n h => h⟩
  | cons i is ih =>
    have hi : i.commander = [] := hc i List.mem_cons_self
    have hl' : x.Ledger [] (i.commander ++ queue) (i.starter ++ (is.flatMap Input.starter ++ calls))
        told := by
      simpa [hi] using hl
    have hcmd : ∀ k cmd, i = .command k cmd → commands[k]? = some cmd := by
      intro k cmd hcmd
      rw [hcmd] at hi
      nomatch hi
    have hs : i.starter ⊆ x.calling :=
      List.Subset.trans (List.subset_append_left _ _) hl'.calls_subset
    obtain ⟨hly, hky, hpy⟩ := ih (hl'.handle now) (hk.handle now hcmd) fun j hj =>
      hc j (List.mem_cons_of_mem _ hj)
    exact ⟨hly, hky, fun n hp => hpy n (hp.handle hk hs now)⟩

/-- However the executor has moved, the books are in order when the system has followed. -/
theorem Ready.moved (h : s.Ready x) : (s.moved x).Sound := by
  unfold System.moved
  split
  · next hx => exact h.settle fun hn => by simp [hn] at hx
  · next hx =>
    have hn : x.controller = none := by simpa using hx
    obtain ⟨hl, hk, -⟩ := drain h.ledger h.knows h.ended s.now
    refine Ready.settle ⟨?_, hk, by simp, by simp⟩ fun _ => ⟨rfl, rfl⟩
    exact hl.of_gone (controller_foldl_handle hn s.now s.ended) []

theorem Sound.of_start (timing : Timing) : (start timing).Sound where
  ready := ⟨⟨fun _ => rfl, fun _ => rfl, fun _ => rfl⟩, ⟨rfl, by simp [start, Executor.start],
    by simp [start, Executor.start]⟩, by simp [start], by simp [start]⟩
  requests := rfl
  trace := rfl
  gone := by simp [start, Executor.start]

/-- The books of a system out of which an input was taken that is to be handled. -/
structure Holds (s : System) (i : Input) : Prop where
  ledger : s.executor.Ledger [] (i.commander ++ s.queue.map Prod.fst) (i.starter ++ s.starting)
    s.answered
  knows : s.executor.Knows s.commands
  command : ∀ k cmd, i = .command k cmd → s.commands[k]? = some cmd
  queued : ∀ p ∈ s.queue, s.commands[p.1]? = some p.2
  ended : ∀ i ∈ s.ended, i.commander = []

theorem Holds.ready {i : Input} (h : s.Holds i) : s.Ready (s.executor.handle s.now i) :=
  ⟨h.ledger.handle s.now, h.knows.handle s.now h.command, h.queued, h.ended⟩

theorem count_starter_of_ends {r : Request} {i : Input} (h : i.Ends r) (k : Caller) :
    i.starter.count k = ([r].filterMap Request.starter?).count k := by
  cases h <;> rfl

theorem count_starting {r : Request} {i : Input} {before after : List Request}
    (hc : s.calls = before ++ r :: after) (hi : i.Ends r) (k : Caller) :
    s.starting.count k =
      i.starter.count k + { s with calls := before ++ after }.starting.count k := by
  have hr : r :: after = [r] ++ after := rfl
  rw [count_starter_of_ends hi]
  simp only [starting, hc, hr, List.filterMap_append, List.count_append]
  omega

namespace Sound

theorem holds_command (h : s.Sound) {k : Caller} {cmd : Command} {rest : List (Caller × Command)}
    (hs : s.queue = (k, cmd) :: rest) : { s with queue := rest }.Holds (.command k cmd) := by
  obtain ⟨hl, hk, hq, he⟩ := h.ready
  rw [hs] at hl
  refine ⟨hl, hk, ?_, fun p hp => hq p (hs ▸ List.mem_cons_of_mem _ hp), he⟩
  intro j c hc
  cases hc
  exact hq (k, cmd) (hs ▸ List.mem_cons_self)

theorem holds_call (h : s.Sound) {r : Request} {i : Input} {before after : List Request}
    (hs : s.calls = before ++ r :: after) (hi : i.Ends r) :
    { s with calls := before ++ after }.Holds i := by
  obtain ⟨hl, hk, hq, he⟩ := h.ready
  have hcom : i.commander = [] := by cases hi <;> rfl
  refine ⟨?_, hk, ?_, hq, he⟩
  · rw [hcom]
    exact hl.of_count fun k => by rw [count_starting hs hi, List.count_append]
  · intro k cmd hcmd
    rw [hcmd] at hi
    nomatch hi

theorem holds_ended (h : s.Sound) {i : Input} {rest : List Input} (hs : s.ended = i :: rest) :
    { s with ended := rest }.Holds i := by
  obtain ⟨hl, hk, hq, he⟩ := h.ready
  have hcom : i.commander = [] := he i (hs ▸ List.mem_cons_self)
  have hst : s.starting = i.starter ++ { s with ended := rest }.starting := by
    simp [starting, hs]
  rw [hst] at hl
  refine ⟨?_, hk, ?_, hq, fun j hj => he j (hs ▸ List.mem_cons_of_mem _ hj)⟩
  · rw [hcom]
    exact hl
  · intro k cmd hcmd
    rw [hcmd] at hcom
    nomatch hcom

theorem holds_timer (h : s.Sound) {i : Input} (hi : i = .pollDue ∨ i = .startingDue) :
    s.Holds i := by
  obtain ⟨hl, hk, hq, he⟩ := h.ready
  rcases hi with rfl | rfl <;> exact ⟨hl, hk, nofun, hq, he⟩

theorem ready_issue (h : s.Sound) (hn : s.executor.controller = none) (cmd : Command) :
    { s with commands := s.commands ++ [cmd] }.Ready (s.executor.issue s.now cmd) := by
  obtain ⟨hl, hk, hq, he⟩ := h.ready
  refine ⟨hl.issue_gone s.now cmd hn, ?_, fun p hp => Executor.getElem?_append_some (hq p hp) cmd,
    he⟩
  rw [Executor.issue_none hn]
  exact (hk.enlist cmd).reply _ _

theorem ready_kill (h : s.Sound) : s.Ready s.executor.kill := by
  obtain ⟨hl, hk, hq, he⟩ := h.ready
  exact ⟨hl.kill, hk.kill, hq, he⟩

theorem step {t : System} (h : s.Sound) (ht : s.Step t) : t.Sound := by
  obtain ⟨⟨hl, hk, hq, he⟩, hreq, htr, hg⟩ := id h
  cases ht with
  | elapse d => exact ⟨⟨hl, hk, hq, he⟩, hreq, htr, hg⟩
  | submit cmd =>
    unfold submit
    split
    · next hx =>
      refine ⟨⟨?_, hk.enlist cmd, fun p hp => ?_, he⟩, hreq, htr, fun hn => ?_⟩
      · have hm : (s.queue ++ [(s.executor.nextCaller, cmd)]).map Prod.fst =
            s.queue.map Prod.fst ++ [s.executor.nextCaller] := List.map_append
        exact hm ▸ hl.enlist cmd hx
      · rcases List.mem_append.1 hp with hp | hp
        · exact Executor.getElem?_append_some (hq p hp) cmd
        · obtain rfl := List.mem_singleton.1 hp
          simp [hk.count]
      · simp [show s.executor.controller = none from hn] at hx
    · next hx => exact (h.ready_issue (by simpa using hx) cmd).moved
  | takeCommand hs => exact (h.holds_command hs).ready.moved
  | @callEnds r i before after hs hi =>
    unfold complete
    split
    · next hx =>
      refine ⟨⟨hl.of_count fun k => ?_, hk, hq, fun j hj => ?_⟩, hreq, htr, fun hn => ?_⟩
      · rw [count_starting hs hi]
        simp only [starting, List.flatMap_append, List.flatMap_singleton, List.count_append]
        omega
      · rcases List.mem_append.1 hj with hj | hj
        · exact he j hj
        · rw [List.mem_singleton.1 hj]
          cases hi <;> rfl
      · simp [show s.executor.controller = none from hn] at hx
    · exact (h.holds_call hs hi).ready.moved
  | takeEnded hs => exact (h.holds_ended hs).ready.moved
  | pollDue => exact (h.holds_timer (.inl rfl)).ready.moved
  | startingDue => exact (h.holds_timer (.inr rfl)).ready.moved
  | kill => exact h.ready_kill.moved

theorem steps {t : System} (h : s.Sound) (ht : s.Steps t) : t.Sound := by
  induction ht with
  | refl => exact h
  | tail _ hu ih => exact ih.step hu

end Sound

end System

end RunWatch
