import RunWatch.Proofs.Pace
import RunWatch.Simulation.Flow
/-!
A simulated command is a vigil. In the simulated world calls end when the server has answered them,
timers fire when they fall due, and the console sees everything at once. What happens there may
happen in a vigil, so what holds of all vigils holds of every simulated command.
-/
set_option autoImplicit false

namespace RunWatch

namespace Executor

variable {x : Executor}

theorem records_perform {a : Action} (h : (x.perform a).controller.isSome) :
    (x.perform a).trace = x.trace ++ a.happening?.toList ∧
      (x.perform a).nextCaller = x.nextCaller := by
  cases a with
  | wakeAt due =>
    simp only [perform] at h ⊢
    split at h
    · next hd =>
      rw [if_pos hd]
      exact ⟨(List.append_nil _).symm, rfl⟩
    · rw [stop_eq] at h
      cases h
  | _ => exact ⟨rfl, rfl⟩

theorem records_performAll {as : List Action} (h : (x.performAll as).controller.isSome) :
    (x.performAll as).trace = x.trace ++ as.filterMap Action.happening? ∧
      (x.performAll as).nextCaller = x.nextCaller := by
  induction as generalizing x with
  | nil => exact ⟨(List.append_nil _).symm, rfl⟩
  | cons a as ih =>
    simp only [performAll] at h ⊢
    split at h
    · next ha =>
      obtain ⟨ht, hn⟩ := ih h
      obtain ⟨ht', hn'⟩ := records_perform ha
      rw [if_pos ha, ht, hn, ht', hn', List.append_assoc]
      cases hh : a.happening? <;> simp [hh]
    · next ha => exact absurd h ha

theorem records_handle {c : Controller} (hx : x.controller = some c) {now : Nat} {i : Input}
    (h : (x.handle now i).controller.isSome) :
    (x.handle now i).trace = x.trace ++ (c.step now i).actions.filterMap Action.happening? ∧
      (x.handle now i).nextCaller = x.nextCaller := by
  rw [handle_some hx] at h ⊢
  exact records_performAll h

end Executor

namespace Simulation

namespace World

variable {w u : World} {timing : Timing} {past : History} {t : Nat} {i : Input}

def calls (w : World) : List Request := w.pending.filterMap fun p => p.2.call?

theorem serve_eq (w : World) (q : Request) : w.serve q =
    { w with server := (w.serve q).server, pending := (w.serve q).pending } := by
  cases q <;> rfl

theorem calls_serve (w : World) (q : Request) :
    (w.serve q).calls = w.calls ++ [q].filter Request.isCall := by
  cases q with
  | wake => exact (List.append_nil _).symm
  | list => exact List.filterMap_append
  | trigger => exact List.filterMap_append

theorem mem_pending_serve {q : Request} {p : Nat × Input} (h : p ∈ (w.serve q).pending) :
    p ∈ w.pending ∨ w.now ≤ p.1 ∧ ∃ q, p.2.Ends q := by
  cases q with
  | wake => exact .inl h
  | list epoch seq =>
    refine (List.mem_append.1 h).imp_right fun hm => ?_
    obtain rfl := List.mem_singleton.1 hm
    exact ⟨Nat.le_add_right _ _, _, .listed _⟩
  | trigger epoch k =>
    refine (List.mem_append.1 h).imp_right fun hm => ?_
    obtain rfl := List.mem_singleton.1 hm
    exact ⟨Nat.le_add_right _ _, _, .triggered _⟩

theorem foldl_serve (w : World) (qs : List Request) :
    qs.foldl serve w = { w with
      server := (qs.foldl serve w).server, pending := (qs.foldl serve w).pending } ∧
    (qs.foldl serve w).calls = w.calls ++ qs.filter Request.isCall ∧
    ∀ p ∈ (qs.foldl serve w).pending, p ∈ w.pending ∨ w.now ≤ p.1 ∧ ∃ q, p.2.Ends q := by
  induction qs generalizing w with
  | nil => exact ⟨rfl, (List.append_nil _).symm, fun _ hp => .inl hp⟩
  | cons q qs ih =>
    obtain ⟨heq, hcalls, hlater⟩ := ih (w.serve q)
    have hserve := w.serve_eq q
    refine ⟨?_, ?_, fun p hp => ?_⟩
    · rw [List.foldl_cons, heq, hserve]
    · rw [List.foldl_cons, hcalls, calls_serve, List.append_assoc, ← List.filter_append]
      rfl
    · have hnow : (w.serve q).now = w.now := by rw [hserve]
      rcases hlater p hp with hp | hp
      · exact mem_pending_serve hp
      · exact .inr (hnow ▸ hp)

def sooner (first o : Option (Nat × Input × World)) : Option (Nat × Input × World) :=
  match first, o with
  | some f, some x => if x.1 < f.1 then some x else some f
  | some f, none => some f
  | none, o => o

theorem le_of_some_eq {α : Type} {x y : Nat × α} (h : some x = some y) : x.1 ≤ y.1 :=
  Nat.le_of_eq (congrArg Prod.fst (Option.some.inj h))

theorem sooner_eq_some {first o : Option (Nat × Input × World)} {x : Nat × Input × World}
    (h : sooner first o = some x) : (first = some x ∨ o = some x) ∧
      (∀ y, first = some y → x.1 ≤ y.1) ∧ ∀ y, o = some y → x.1 ≤ y.1 := by
  cases first with
  | none => exact ⟨.inr h, by simp, fun y hy => le_of_some_eq (h.symm.trans hy)⟩
  | some f =>
    cases o with
    | none => exact ⟨.inl h, fun y hy => le_of_some_eq (h.symm.trans hy), by simp⟩
    | some g =>
      simp only [sooner] at h
      split at h
      · next hlt =>
        refine ⟨.inr h, fun y hy => ?_, fun y hy => le_of_some_eq (h.symm.trans hy)⟩
        exact Nat.le_trans (le_of_some_eq h.symm)
          (Nat.le_trans (Nat.le_of_lt hlt) (le_of_some_eq hy))
      · next hlt =>
        refine ⟨.inl h, fun y hy => le_of_some_eq (h.symm.trans hy), fun y hy => ?_⟩
        exact Nat.le_trans (le_of_some_eq h.symm)
          (Nat.le_trans (Nat.le_of_not_lt hlt) (le_of_some_eq hy))

theorem sooner_eq_none {first o : Option (Nat × Input × World)} :
    sooner first o = none ↔ first = none ∧ o = none := by
  cases first with
  | none => simp [sooner]
  | some f =>
    cases o with
    | none => simp [sooner]
    | some x =>
      simp only [sooner]
      split <;> simp

theorem sooner_of_three {a b c : Option (Nat × Input × World)} {x : Nat × Input × World}
    (h : sooner (sooner a b) c = some x) :
    (a = some x ∨ b = some x ∨ c = some x) ∧ ∀ y, a = some y → x.1 ≤ y.1 := by
  obtain ⟨hx, hle, -⟩ := sooner_eq_some h
  cases hs : sooner a b with
  | none =>
    rw [hs] at hx
    refine ⟨.inr (.inr (hx.resolve_left (by simp))), fun y hy => ?_⟩
    simp [(sooner_eq_none.1 hs).1] at hy
  | some z =>
    obtain ⟨hz, hza, -⟩ := sooner_eq_some hs
    refine ⟨?_, fun y hy => Nat.le_trans (hle z hs) (hza y hy)⟩
    rcases hx with hx | hx
    · obtain rfl := Option.some.inj (hs.symm.trans hx)
      exact hz.imp_right .inl
    · exact .inr (.inr hx)

theorem takeEarliest_eq_none {l : List (Nat × Input)} (h : takeEarliest l = none) : l = [] := by
  cases l with
  | nil => rfl
  | cons p rest =>
    simp only [takeEarliest] at h
    split at h
    · split at h <;> nomatch h
    · nomatch h

theorem takeEarliest_eq_some {l left : List (Nat × Input)} {p : Nat × Input}
    (h : takeEarliest l = some (p, left)) :
    (∃ before after, l = before ++ p :: after ∧ left = before ++ after) ∧
      ∀ q ∈ left, p.1 ≤ q.1 := by
  induction l generalizing p left with
  | nil => nomatch h
  | cons r rest ih =>
    simp only [takeEarliest] at h
    split at h
    · next q left' hr =>
      obtain ⟨⟨before, after, rfl, rfl⟩, hle⟩ := ih hr
      split at h
      · next hlt =>
        obtain ⟨rfl, rfl⟩ := Prod.mk.inj (Option.some.inj h)
        refine ⟨⟨r :: before, after, rfl, rfl⟩, fun s hs => ?_⟩
        rcases List.mem_cons.1 hs with rfl | hs
        · exact Nat.le_of_lt hlt
        · exact hle s hs
      · next hlt =>
        obtain ⟨rfl, rfl⟩ := Prod.mk.inj (Option.some.inj h)
        refine ⟨⟨[], _, rfl, rfl⟩, fun s hs => ?_⟩
        have hq := Nat.le_of_not_lt hlt
        rcases List.mem_append.1 hs with hs | hs
        · exact Nat.le_trans hq (hle s (List.mem_append_left _ hs))
        · rcases List.mem_cons.1 hs with rfl | hs
          · exact hq
          · exact Nat.le_trans hq (hle s (List.mem_append_right _ hs))
    · next hr =>
      obtain rfl := takeEarliest_eq_none hr
      obtain ⟨rfl, rfl⟩ := Prod.mk.inj (Option.some.inj h)
      exact ⟨⟨[], [], rfl, rfl⟩, by simp⟩

inductive Occurs (w : World) (t : Nat) : Input → World → Prop where
  | call {i : Input} {before after : List (Nat × Input)}
      (h : w.pending = before ++ (t, i) :: after) :
      Occurs w t i { w with pending := before ++ after }
  | poll : Occurs w t .pollDue w
  | starting : Occurs w t .startingDue w

def ending (w : World) (limit : Nat) : Option (Nat × Input × World) :=
  ((takeEarliest w.pending).filter (·.1.1 ≤ limit)).map
    fun (p, pending) => (p.1, p.2, { w with pending })

def firing (w : World) (limit : Nat) (due : Controller → Option Nat) (i : Input) :
    Option (Nat × Input × World) :=
  (w.executor.controller.bind fun c => Instant.firing? (due c) w.now limit).map fun t => (t, i, w)

theorem next?_eq (w : World) (limit : Nat) : w.next? limit =
    sooner (sooner (w.ending limit) (w.firing limit (·.poll.due) .pollDue))
      (w.firing limit (·.starting.due) .startingDue) := rfl

theorem ending_eq_some {limit : Nat} (h : w.ending limit = some (t, i, u)) :
    (t, i) ∈ w.pending ∧ w.Occurs t i u ∧ t ≤ limit ∧ ∀ p ∈ u.pending, t ≤ p.1 := by
  obtain ⟨⟨⟨t, i⟩, left⟩, hp, heq⟩ := Option.map_eq_some_iff.1 h
  obtain ⟨ht, hlimit⟩ := Option.filter_eq_some_iff.1 hp
  obtain ⟨⟨before, after, hpending, rfl⟩, hle⟩ := takeEarliest_eq_some ht
  cases heq
  exact ⟨hpending ▸ List.mem_append_right _ List.mem_cons_self, .call hpending,
    of_decide_eq_true hlimit, hle⟩

theorem ending_of_pending (limit : Nat) {p : Nat × Input} (hp : p ∈ w.pending) :
    limit < p.1 ∨ ∃ o, w.ending limit = some o ∧ o.1 ≤ p.1 := by
  cases ht : takeEarliest w.pending with
  | none =>
    rw [takeEarliest_eq_none ht] at hp
    nomatch hp
  | some r =>
    obtain ⟨q, left⟩ := r
    obtain ⟨⟨before, after, hpending, rfl⟩, hle⟩ := takeEarliest_eq_some ht
    have hq : q.1 ≤ p.1 := by
      rw [hpending] at hp
      rcases List.mem_append.1 hp with hp | hp
      · exact hle p (List.mem_append_left _ hp)
      · rcases List.mem_cons.1 hp with rfl | hp
        · exact Nat.le_refl _
        · exact hle p (List.mem_append_right _ hp)
    by_cases hl : q.1 ≤ limit
    · exact .inr ⟨(q.1, q.2, { w with pending := before ++ after }), by simp [ending, ht, hl], hq⟩
    · exact .inl (by omega)

theorem firing_eq_some {limit : Nat} {due : Controller → Option Nat} {j : Input}
    (h : w.firing limit due j = some (t, i, u)) : i = j ∧ u = w ∧ w.now ≤ t ∧ t ≤ limit := by
  obtain ⟨fired, hf, heq⟩ := Option.map_eq_some_iff.1 h
  obtain ⟨c, -, hc⟩ := Option.bind_eq_some_iff.1 hf
  cases heq
  refine ⟨rfl, rfl, ?_⟩
  cases hd : due c with
  | none => simp [Instant.firing?, hd] at hc
  | some d =>
    simp only [Instant.firing?, hd, Option.map_some, Option.filter_eq_some_iff,
      Option.some.injEq, decide_eq_true_eq] at hc
    omega

/-- What occurs next is the first that can, and comes before the calls that are left. -/
theorem next?_eq_some {limit : Nat} (h : w.next? limit = some (t, i, u)) :
    w.Occurs t i u ∧ ((∀ p ∈ w.pending, w.now ≤ p.1) → w.now ≤ t) ∧ t ≤ limit ∧
      ∀ p ∈ u.pending, t ≤ p.1 := by
  rw [next?_eq] at h
  obtain ⟨hx, hle⟩ := sooner_of_three h
  have timer (hlimit : t ≤ limit) {p : Nat × Input} (hp : p ∈ w.pending) : t ≤ p.1 := by
    rcases ending_of_pending limit hp with hlt | ⟨o, ho, hop⟩
    · omega
    · exact Nat.le_trans (hle o ho) hop
  rcases hx with hx | hx | hx
  · obtain ⟨hp, ho, hlimit, hu⟩ := ending_eq_some hx
    exact ⟨ho, fun hl => hl _ hp, hlimit, hu⟩
  · obtain ⟨rfl, rfl, hnow, hlimit⟩ := firing_eq_some hx
    exact ⟨.poll, fun _ => hnow, hlimit, fun p hp => timer hlimit hp⟩
  · obtain ⟨rfl, rfl, hnow, hlimit⟩ := firing_eq_some hx
    exact ⟨.starting, fun _ => hnow, hlimit, fun p hp => timer hlimit hp⟩

theorem next?_eq_none {limit : Nat} (h : w.next? limit = none) {p : Nat × Input}
    (hp : p ∈ w.pending) : limit < p.1 := by
  rw [next?_eq, sooner_eq_none, sooner_eq_none] at h
  refine (ending_of_pending limit hp).resolve_right fun ⟨o, ho, _⟩ => ?_
  exact nomatch h.1.1.symm.trans ho

/-- A world in which a controller has handled a history, and what is under way there. -/
structure Follows (timing : Timing) (w : World) (past : History) : Prop where
  controller : w.executor.controller = some (past.controller timing)
  orderly : past.Orderly timing
  clock : past.now ≤ w.now
  calls (q : Request) : w.calls.count q = (past.pending timing).count q
  later : ∀ p ∈ w.pending, w.now ≤ p.1 ∧ ∃ q, p.2.Ends q
  requests : w.executor.requests = []
  trace : w.executor.trace = []

theorem follows_start (server : Server) (timing : Timing) :
    Follows timing (start server timing) [] where
  controller := rfl
  orderly := trivial
  clock := Nat.le_refl 0
  calls _ := rfl
  later := by simp [start]
  requests := rfl
  trace := rfl

structure Taken (w : World) (x : Executor) (u : World) : Prop where
  executor : u.executor = { x with requests := [], trace := [] }
  now : u.now = w.now
  trace : u.trace = w.trace ++ x.trace.map fun h => (w.now, h)
  calls : u.calls = w.calls ++ x.requests.filter Request.isCall
  later : ∀ p ∈ u.pending, p ∈ w.pending ∨ w.now ≤ p.1 ∧ ∃ q, p.2.Ends q

theorem taken_moved (w : World) (x : Executor) : w.Taken x (w.moved x) := by
  have hm : w.moved x = x.requests.foldl serve { w with
    executor := { x with requests := [], trace := [] }
    trace := w.trace ++ x.trace.map fun h => (w.now, h) } := rfl
  obtain ⟨hs, hc, hl⟩ := foldl_serve { w with
    executor := { x with requests := [], trace := [] }
    trace := w.trace ++ x.trace.map fun h => (w.now, h) } x.requests
  rw [← hm] at hs hc hl
  exact ⟨by rw [hs], by rw [hs], by rw [hs], hc, hl⟩

structure Enters (timing : Timing) (u : World) (past : History) (t : Nat) (i : Input)
    (trace : List (Nat × Happening)) (nextCaller : Caller) : Prop where
  follows : u.Follows timing ((t, i) :: past)
  trace : u.trace = trace ++ (((past.controller timing).step t i).actions.filterMap
    Action.happening?).map fun h => (t, h)
  nextCaller : u.executor.nextCaller = nextCaller

/-- An input is handled that the controller may be given, and the controller survives it. -/
theorem Follows.handle (hx : w.executor.controller = some (past.controller timing))
    (hreq : w.executor.requests = []) (htr : w.executor.trace = []) (ho : past.Orderly timing)
    (hn : past.now ≤ w.now) (hi : past.Admits timing i)
    (hq : ∀ q, w.calls.count q = if i.call? = some q then 0 else (past.pending timing).count q)
    (hl : ∀ p ∈ w.pending, w.now ≤ p.1 ∧ ∃ q, p.2.Ends q)
    (ha : (w.handle i).executor.controller.isSome) :
    (w.handle i).Enters timing past w.now i w.trace w.executor.nextCaller := by
  have ht := w.taken_moved (w.executor.handle w.now i)
  change w.Taken _ (w.handle i) at ht
  have halive : (w.executor.handle w.now i).controller.isSome := by rwa [ht.executor] at ha
  obtain ⟨c', hc'⟩ := Option.isSome_iff_exists.1 halive
  obtain ⟨c, hc, rfl, -, hr⟩ := Executor.handle_alive hc'
  obtain rfl := Option.some.inj (hx.symm.trans hc)
  obtain ⟨htrace, hcaller⟩ := Executor.records_handle hx halive
  rw [hreq, List.nil_append] at hr
  rw [htr, List.nil_append] at htrace
  have hcalls : (w.executor.handle w.now i).requests.filter Request.isCall =
      ((past.controller timing).step w.now i).calls := by
    rw [hr, List.filter_filterMap]
    rfl
  refine ⟨⟨?_, ⟨ho, hn, hi⟩, ?_, fun q => ?_, fun p hp => ?_, ?_, ?_⟩, ?_, ?_⟩
  · rw [ht.executor]
    exact hc'
  · exact Nat.le_of_eq ht.now.symm
  · rw [ht.calls, hcalls, List.count_append, hq, History.count_pending_cons]
  · rw [ht.now]
    exact (ht.later p hp).elim (hl p) id
  · rw [ht.executor]
  · rw [ht.executor]
  · rw [ht.trace, htrace]
  · rw [ht.executor]
    exact hcaller

theorem Follows.occur (h : w.Follows timing past) {limit : Nat}
    (hn : w.next? limit = some (t, i, u))
    (ha : ({ u with now := t }.handle i).executor.controller.isSome) :
    past.now ≤ t ∧ past.Admits timing i ∧ i.order? = none ∧
      Enters timing ({ u with now := t }.handle i) past t i w.trace w.executor.nextCaller := by
  obtain ⟨ho, hnow, -, hle⟩ := next?_eq_some hn
  have hclock := Nat.le_trans h.clock (hnow fun p hp => (h.later p hp).1)
  cases ho with
  | @call i before after hp =>
    have hsub {p : Nat × Input} (hm : p ∈ before ++ after) : p ∈ w.pending := by
      rw [hp]
      exact (List.mem_append.1 hm).elim (List.mem_append_left _)
        fun hm => List.mem_append_right _ (List.mem_cons_of_mem _ hm)
    obtain ⟨-, q, hends⟩ := h.later (t, i) (hp ▸ List.mem_append_right _ List.mem_cons_self)
    have hcall := Input.call?_eq_some_iff.2 hends
    have hcount (p : Request) : w.calls.count p =
        (World.calls { w with pending := before ++ after }).count p + [q].count p := by
      simp only [World.calls, hp, List.filterMap_append, List.filterMap_cons, hcall,
        List.count_append, List.count_cons, List.count_nil]
      omega
    obtain ⟨hadmits, hleft⟩ := h.orderly.admits_of_count hcall h.calls hcount
    exact ⟨hclock, hadmits, by cases hends <;> rfl, Follows.handle h.controller h.requests h.trace
      h.orderly hclock hadmits hleft (fun p hm => ⟨hle p hm, (h.later p (hsub hm)).2⟩) ha⟩
  | poll =>
    exact ⟨hclock, trivial, rfl, Follows.handle h.controller h.requests h.trace h.orderly hclock
      trivial h.calls (fun p hp => ⟨hle p hp, (h.later p hp).2⟩) ha⟩
  | starting =>
    exact ⟨hclock, trivial, rfl, Follows.handle h.controller h.requests h.trace h.orderly hclock
      trivial h.calls (fun p hp => ⟨hle p hp, (h.later p hp).2⟩) ha⟩

theorem Follows.issue (h : w.Follows timing past) {cmd : Command}
    (hi : past.Admits timing (.command w.executor.nextCaller cmd))
    (ha : (w.issue cmd).executor.controller.isSome) :
    Enters timing (w.issue cmd) past w.now (.command w.executor.nextCaller cmd) w.trace
      (w.executor.nextCaller + 1) := by
  have hissue : w.issue cmd =
      { w with executor := w.executor.enlist cmd }.handle (.command w.executor.nextCaller cmd) := by
    rw [World.issue, Executor.issue_some (by simp [h.controller])]
    rfl
  rw [hissue] at ha ⊢
  exact Follows.handle h.controller h.requests h.trace h.orderly h.clock hi h.calls h.later ha

theorem controller_handle_none (h : w.executor.controller = none) (i : Input) :
    (w.handle i).executor.controller = none := by
  rw [World.handle, (w.taken_moved _).executor]
  exact Executor.controller_handle_none h w.now i

theorem controller_issue_none (h : w.executor.controller = none) (cmd : Command) :
    (w.issue cmd).executor.controller = none := by
  rw [World.issue, (w.taken_moved _).executor, Executor.issue_none h]
  exact h

end World

namespace Flow

variable {f : Flow} {v : Vigil} {timing : Timing} {errand : Errand} {json : Bool}
  {clock : Timestamp}

theorem foldl_happening (clock : Timestamp) (t : Nat) (as : List Action) (c : Console) :
    ((as.filterMap Action.happening?).map fun h => (t, h)).foldl (fun c h => c.see clock h.2) c =
      as.foldl (Console.watch clock) c := by
  induction as generalizing c with
  | nil => rfl
  | cons a as ih =>
    rw [List.foldl_cons, ← ih]
    unfold Console.watch
    cases hh : a.happening? <;> simp [hh]

theorem controller_interrupt_none (h : f.world.executor.controller = none) :
    (f.interrupt clock).world.executor.controller = none := by
  unfold interrupt
  simp only
  split
  · exact World.controller_issue_none h .reset
  · exact h

theorem controller_runWith_none (h : f.world.executor.controller = none) (fuel : Nat)
    (interruptAt : Option Nat) (limit : Nat) :
    (f.runWith clock fuel interruptAt limit).world.executor.controller = none := by
  induction fuel generalizing f interruptAt with
  | zero => exact h
  | succ fuel ih =>
    unfold runWith
    split
    · exact h
    · simp only
      split
      · next t i u hn =>
        refine ih (World.controller_handle_none ?_ i) interruptAt
        cases (World.next?_eq_some hn).1 <;> exact h
      · split
        · refine ih ?_ none
          exact controller_interrupt_none h
        · exact h

/-- A simulated command and the vigil that it is. -/
structure Shadows (timing : Timing) (errand : Errand) (json : Bool) (f : Flow) (v : Vigil) :
    Prop where
  world : f.world.Follows timing v.past
  steps : (Vigil.start errand json).Steps timing v
  abreast : v.Abreast f.console
  outbox : v.outbox = []
  queue : v.queue = []
  trace : f.world.trace = []
  callers : f.world.executor.nextCaller = v.sent.length

theorem shadows_absorb {u : World} {past : History} {t : Nat} {i : Input} {n : Caller}
    (he : u.Enters timing past t i [] n) (hs : (Vigil.start errand json).Steps timing v)
    (ha : v.Abreast f.console) (hp : v.past = (t, i) :: past)
    (ho : v.outbox = ((past.controller timing).step t i).actions) (hq : v.queue = [])
    (hn : n = v.sent.length) (clock : Timestamp) :
    ∃ w : Vigil, Shadows timing errand json (absorb clock { f with world := u }) w ∧
      w.interrupted = v.interrupted := by
  obtain ⟨console, fault, leave, carried, answers, hsteps, habreast⟩ := ha.carryAll hs clock
  have hw := he.follows
  rw [← hp] at hw
  have hsent : v.console.errand = console.errand :=
    hs.errand.trans hsteps.errand.symm
  refine ⟨{ v with console, fault, leave, carried, answers, outbox := [] },
    ⟨⟨hw.controller, hw.orderly, hw.clock, hw.calls, hw.later, hw.requests, hw.trace⟩,
    hsteps, ?_, rfl, hq, rfl, ?_⟩, rfl⟩
  · have hc : (absorb clock { f with world := u }).console =
        v.outbox.foldl (Console.watch clock) f.console := by
      rw [← foldl_happening clock t, ho]
      show u.trace.foldl _ f.console = _
      rw [he.trace, List.nil_append]
    rw [hc]
    exact habreast
  · refine he.nextCaller.trans (hn.trans ?_)
    simp only [Vigil.sent, hsent]

theorem now_issue (f : Flow) (clock : Timestamp) (cmd : Command) :
    (f.issue clock cmd).world.now = f.world.now := (f.world.taken_moved _).now

theorem now_interrupt (f : Flow) (clock : Timestamp) :
    (f.interrupt clock).world.now = f.world.now := by
  unfold interrupt
  simp only
  split
  · exact now_issue _ clock .reset
  · rfl

theorem Shadows.occur (h : Shadows timing errand json f v) {limit t : Nat} {i : Input} {u : World}
    (hn : f.world.next? limit = some (t, i, u))
    (ha : ({ u with now := t }.handle i).executor.controller.isSome) (clock : Timestamp) :
    ∃ w : Vigil, Shadows timing errand json
        (absorb clock { f with world := { u with now := t }.handle i }) w ∧
      w.interrupted = v.interrupted := by
  obtain ⟨hclock, hadmits, horder, he⟩ := h.world.occur hn ha
  rw [h.trace] at he
  exact shadows_absorb (v := v.handle timing t i) he
    (h.steps.tail (.handle h.outbox hclock hadmits horder)) (h.abreast.congr rfl rfl rfl)
    rfl rfl h.queue h.callers clock

theorem shadows_issue {cmd : Command} (hw : f.world.Follows timing v.past)
    (hs : (Vigil.start errand json).Steps timing v) (ha : v.Abreast f.console)
    (ho : v.outbox = []) (ht : f.world.trace = [])
    (hq : v.queue = [(f.world.executor.nextCaller, cmd)])
    (hn : f.world.executor.nextCaller + 1 = v.sent.length)
    (halive : (f.world.issue cmd).executor.controller.isSome) (clock : Timestamp) :
    ∃ w : Vigil, Shadows timing errand json (f.issue clock cmd) w ∧
      w.interrupted = v.interrupted := by
  have he := hw.issue (hs.posted.1.admits_of_queue hq) halive
  rw [ht] at he
  exact shadows_absorb he (hs.tail (.take ho hw.clock hq)) (ha.congr rfl rfl rfl) rfl rfl rfl hn
    clock

theorem Shadows.interrupt (h : Shadows timing errand json f v) (hi : v.interrupted = false)
    (halive : (f.interrupt clock).world.executor.controller.isSome) :
    ∃ w : Vigil, Shadows timing errand json (f.interrupt clock) w := by
  by_cases hp : f.console.phase = .following
  · obtain ⟨hl, hv, habreast⟩ := h.abreast.interrupt hp
    have hphase : f.console.interrupt.phase = .resetting := by simp [Console.interrupt, hp]
    have hissue : f.interrupt clock =
        issue clock { f with console := f.console.interrupt } .reset := by
      simp only [Flow.interrupt, hphase, if_true]
    rw [hissue] at halive ⊢
    have hs := h.steps.tail (.interrupt hl hv)
    obtain ⟨w, hw, -⟩ := shadows_issue (f := { f with console := f.console.interrupt })
      (v := { v with
        console := v.console.interrupt
        queue := v.queue ++ [(1, .reset)]
        interrupted := true })
      h.world hs habreast h.outbox h.trace (by simp [h.queue, h.callers, Vigil.sent, hi])
      (by simp [h.callers, Vigil.sent, hi]) halive clock
    exact ⟨w, hw⟩
  · have hc : f.console.interrupt = f.console := if_neg hp
    have hphase : f.console.phase ≠ .resetting := fun hr => by
      obtain ⟨hl, hv⟩ := h.abreast.of_not_over (by simp [Console.isOver, hr])
      exact Bool.false_ne_true (hi.symm.trans (h.steps.posted.2.resetting hl (hv ▸ hr)).1)
    have hf : f.interrupt clock = f := by
      simp only [Flow.interrupt, hc, if_neg hphase]
    rw [hf]
    exact ⟨v, h⟩

theorem Shadows.wait (h : Shadows timing errand json f v) {soon : Nat}
    (hn : f.world.next? soon = none) (hnow : f.world.now ≤ soon) :
    Shadows timing errand json { f with world := { f.world with now := soon } } v :=
  ⟨⟨h.world.controller, h.world.orderly, Nat.le_trans h.world.clock hnow, h.world.calls,
    fun p hp => ⟨Nat.le_of_lt (World.next?_eq_none hn hp), (h.world.later p hp).2⟩,
    h.world.requests, h.world.trace⟩, h.steps, h.abreast, h.outbox, h.queue, h.trace, h.callers⟩

theorem Shadows.runWith (h : Shadows timing errand json f v) {fuel : Nat}
    {interruptAt : Option Nat} {limit : Nat}
    (hnow : f.world.now ≤ (interruptAt.filter (· ≤ limit)).getD limit)
    (hi : interruptAt.isSome → v.interrupted = false)
    (halive : (f.runWith clock fuel interruptAt limit).world.executor.controller.isSome) :
    ∃ w : Vigil, Shadows timing errand json (f.runWith clock fuel interruptAt limit) w := by
  have survives {g : Flow} {at? : Option Nat} {fuel : Nat}
      (ha : (g.runWith clock fuel at? limit).world.executor.controller.isSome) :
      g.world.executor.controller.isSome := by
    cases hg : g.world.executor.controller with
    | some => rfl
    | none => simp [controller_runWith_none hg] at ha
  induction fuel generalizing f v interruptAt with
  | zero => exact ⟨v, h⟩
  | succ fuel ih =>
    unfold Flow.runWith at halive ⊢
    by_cases ho : f.console.isOver = true
    · rw [if_pos ho]
      exact ⟨v, h⟩
    · rw [if_neg ho] at halive ⊢
      simp only at halive ⊢
      generalize hsoon : (interruptAt.filter (· ≤ limit)).getD limit = soon at hnow halive ⊢
      cases hn : f.world.next? soon with
      | some o =>
        obtain ⟨t, i, u⟩ := o
        simp only [hn] at halive ⊢
        obtain ⟨w, hw, hwi⟩ := h.occur hn (survives halive) clock
        refine ih hw ?_ (fun hs => hwi.trans (hi hs)) halive
        have ht : (absorb clock { f with world := { u with now := t }.handle i }).world.now = t :=
          (World.taken_moved { u with now := t } _).now
        rw [hsoon, ht]
        exact (World.next?_eq_some hn).2.2.1
      | none =>
        simp only [hn] at halive ⊢
        have hwait := h.wait hn hnow
        by_cases hs : (interruptAt.filter (· ≤ limit)).isSome = true
        · rw [if_pos hs] at halive ⊢
          obtain ⟨at?, hat⟩ := Option.isSome_iff_exists.1 hs
          obtain ⟨hsome, hle⟩ := Option.filter_eq_some_iff.1 hat
          obtain ⟨w, hw⟩ := hwait.interrupt (hi (by rw [hsome]; rfl)) (survives halive)
          refine ih hw ?_ nofun halive
          rw [now_interrupt, ← hsoon, hat]
          exact of_decide_eq_true hle
        · rw [if_neg hs] at halive ⊢
          exact ⟨v, hwait⟩

/-- Every simulated command is a vigil, as long as its controller lives. -/
theorem exists_vigil {server : Server} {interruptAt : Option Nat} {limit : Nat}
    (h : ((start clock server timing errand json).run clock interruptAt
      limit).world.executor.controller.isSome) :
    ∃ v : Vigil, (Vigil.start errand json).Steps timing v ∧
      v.Abreast ((start clock server timing errand json).run clock interruptAt limit).console := by
  have halive : ((World.start server timing).issue errand.command).executor.controller.isSome := by
    cases hg : ((World.start server timing).issue errand.command).executor.controller with
    | some => rfl
    | none =>
      have hstart : (start clock server timing errand json).world.executor.controller = none := hg
      simp [run, controller_runWith_none hstart] at h
  have habreast : (Vigil.start errand json).Abreast { errand, json } := .live rfl rfl rfl nofun
  obtain ⟨v, hv, hi⟩ := shadows_issue (f := ⟨.start server timing, { errand, json }, []⟩)
    (World.follows_start server timing) .refl habreast rfl rfl rfl rfl halive clock
  have hnow : (start clock server timing errand json).world.now = 0 := now_issue _ clock _
  obtain ⟨w, hw⟩ := Shadows.runWith hv (hnow ▸ Nat.zero_le _) (fun _ => hi) h
  exact ⟨w, hw.steps, hw.abreast⟩

/-- A simulated command that has ended is a vigil that has ended so and has printed the same. -/
theorem exists_vigil_of_ended {server : Server} {interruptAt : Option Nat} {limit : Nat}
    (h : ((start clock server timing errand json).run clock interruptAt
      limit).world.executor.controller.isSome) {fault : Option Fault}
    (hf : ((start clock server timing errand json).run clock interruptAt
      limit).console.phase = .ended fault) :
    ∃ v : Vigil, (Vigil.start errand json).Steps timing v ∧ v.console.phase = .ended fault ∧
      v.console.printed =
        ((start clock server timing errand json).run clock interruptAt limit).console.printed := by
  obtain ⟨v, hv, ha⟩ := exists_vigil h
  obtain ⟨hp, hw⟩ := ha.of_over (by simp [Console.isOver, hf])
  exact ⟨v, hv, hp.trans hf, hw⟩

end Flow

end Simulation

end RunWatch
