import RunWatch.Proofs.Ledger
set_option autoImplicit false

namespace RunWatch.Executor

/-- An executor that has the callers of `commands` on its books, each under the number of the
command. -/
structure Knows (x : Executor) (commands : List Command) : Prop where
  count : x.nextCaller = commands.length
  waiting : ∀ p ∈ x.waiting, commands[p.1]? = some p.2
  calling : ∀ k ∈ x.calling, commands[k]? = some .start

variable {x y : Executor} {commands : List Command}

theorem getElem?_append_some {k : Caller} {c : Command} (hk : commands[k]? = some c)
    (cmd : Command) : (commands ++ [cmd])[k]? = some c := by
  obtain ⟨hlt, -⟩ := List.getElem?_eq_some_iff.1 hk
  rw [List.getElem?_append_left hlt, hk]

namespace Knows

theorem of_subset (h : x.Knows commands) (hn : y.nextCaller = x.nextCaller)
    (hw : y.waiting ⊆ x.waiting) (hc : y.calling ⊆ x.calling) : y.Knows commands :=
  ⟨hn.trans h.count, fun p hp => h.waiting p (hw hp), fun k hk => h.calling k (hc hk)⟩

theorem reply (h : x.Knows commands) (k : Caller) (r : Reply) : (x.reply k r).Knows commands :=
  h.of_subset rfl List.filter_sublist.subset (List.Subset.refl _)

theorem stop (h : x.Knows commands) : x.stop.Knows commands := by
  rw [stop_eq]
  exact h.of_subset rfl List.filter_sublist.subset (List.Subset.refl _)

theorem perform {a : Action} (h : x.Knows commands)
    (ha : ∀ epoch k, a = .trigger epoch k → commands[k]? = some .start) :
    (x.perform a).Knows commands := by
  cases a with
  | reply k r => exact h.reply k r
  | trigger epoch k =>
    refine ⟨h.count, h.waiting, fun j hj => ?_⟩
    rcases List.mem_cons.1 hj with rfl | hj
    · exact ha epoch j rfl
    · exact h.calling j hj
  | wakeAt due =>
    simp only [Executor.perform]
    split
    · exact ⟨h.count, h.waiting, h.calling⟩
    · exact h.stop
  | _ => exact ⟨h.count, h.waiting, h.calling⟩

theorem performAll {as : List Action} (h : x.Knows commands)
    (ha : ∀ epoch k, .trigger epoch k ∈ as → commands[k]? = some .start) :
    (x.performAll as).Knows commands := by
  induction as generalizing x with
  | nil => exact h
  | cons a as ih =>
    have hp : (x.perform a).Knows commands :=
      h.perform fun epoch k hk => ha epoch k (hk ▸ List.mem_cons_self)
    simp only [Executor.performAll]
    split
    · exact ih hp fun epoch k hk => ha epoch k (List.mem_cons_of_mem _ hk)
    · exact hp

theorem endCall (h : x.Knows commands) (i : Input) : (x.endCall i).Knows commands := by
  cases i with
  | triggered epoch k r =>
    exact h.of_subset rfl (List.Subset.refl _) List.filter_sublist.subset
  | _ => exact h

theorem handle {i : Input} (h : x.Knows commands) (now : Nat)
    (hi : ∀ k cmd, i = .command k cmd → commands[k]? = some cmd) :
    (x.handle now i).Knows commands := by
  cases hx : x.controller with
  | none =>
    rw [handle_none hx]
    cases i with
    | triggered epoch k r => exact (h.endCall _).reply k _
    | _ => exact h
  | some c =>
    rw [handle_some hx]
    have he := h.endCall i
    refine performAll ⟨h.count, h.waiting, he.calling⟩ fun epoch k hk => ?_
    have hm : (epoch, k) ∈ (c.step now i).actions.filterMap Action.trigger? :=
      List.mem_filterMap.2 ⟨_, hk, rfl⟩
    rw [Controller.step_starts] at hm
    exact hi k .start (Controller.mem_starts hm).2

theorem enlist (h : x.Knows commands) (cmd : Command) :
    (x.enlist cmd).Knows (commands ++ [cmd]) := by
  refine ⟨?_, fun p hp => ?_, fun k hk => getElem?_append_some (h.calling k hk) cmd⟩
  · rw [List.length_append]
    exact congrArg (· + 1) h.count
  · rcases List.mem_append.1 hp with hp | hp
    · exact getElem?_append_some (h.waiting p hp) cmd
    · obtain rfl := List.mem_singleton.1 hp
      simp [h.count]

theorem take (h : x.Knows commands) : x.take.2.2.Knows commands :=
  ⟨h.count, h.waiting, h.calling⟩

theorem kill (h : x.Knows commands) : x.kill.Knows commands := by
  unfold Executor.kill
  split
  · exact h.stop
  · exact h

end Knows

/-- What is said last to whoever issued a command, which was among the first `n` if the controller
was still there. -/
def lastWord (n : Nat) (k : Caller) : Command → Reply
  | .start => Controller.localError (if k < n then stoppedMeanwhile else notRunning)
  | _ => .done

theorem strandedReply_eq {n : Nat} {k : Caller} (h : k < n) (cmd : Command) :
    strandedReply cmd = lastWord n k cmd := by
  cases cmd <;> simp [strandedReply, lastWord, Controller.localError, h]

theorem goneReply_eq {n : Nat} {k : Caller} (h : n ≤ k) (cmd : Command) :
    goneReply cmd = lastWord n k cmd := by
  cases cmd <;> simp [goneReply, lastWord, Controller.localError, Nat.not_lt.2 h]

/-- The controller has gone after `n` commands: calls are under way for some of these only, and all
that is recorded as said are last words. -/
structure Parted (x : Executor) (n : Nat) (commands : List Command) : Prop where
  gone : x.controller = none
  calling : ∀ k ∈ x.calling, k < n
  said : ∀ k r, .replied k r ∈ x.trace → ∃ cmd, commands[k]? = some cmd ∧ r = lastWord n k cmd

namespace Parted

theorem stop (h : x.Knows commands) (ht : x.trace = []) :
    x.stop.Parted commands.length commands := by
  have hlt {k : Caller} {cmd : Command} (hk : commands[k]? = some cmd) : k < commands.length :=
    (List.getElem?_eq_some_iff.1 hk).1
  rw [stop_eq]
  refine ⟨rfl, fun k hk => hlt (h.calling k hk), fun k r hr => ?_⟩
  simp only [ht, List.nil_append, List.mem_append, List.mem_map, List.mem_singleton, reduceCtorEq,
    or_false, Happening.replied.injEq] at hr
  obtain ⟨p, hp, rfl, rfl⟩ := hr
  have hw := h.waiting p (List.mem_filter.1 hp).1
  exact ⟨p.2, hw, strandedReply_eq (hlt hw) p.2⟩

theorem handle {n : Nat} {i : Input} (h : x.Parted n commands) (hx : x.Knows commands)
    (hi : i.starter ⊆ x.calling) (now : Nat) : (x.handle now i).Parted n commands := by
  rw [handle_none h.gone]
  cases i with
  | triggered epoch k r =>
    have hk : k ∈ x.calling := hi (List.mem_singleton_self k)
    refine ⟨h.gone, fun j hj => h.calling j (List.mem_filter.1 hj).1, fun j r hr => ?_⟩
    rcases List.mem_append.1 hr with hr | hr
    · exact h.said j r hr
    · obtain ⟨rfl, rfl⟩ := Happening.replied.inj (List.mem_singleton.1 hr)
      exact ⟨.start, hx.calling j hk, strandedReply_eq (h.calling j hk) .start⟩
  | _ => exact h

theorem issue {n : Nat} (h : x.Parted n commands) (hx : x.Knows commands)
    (hn : n ≤ commands.length) (now : Nat) (cmd : Command) :
    (x.issue now cmd).Parted n (commands ++ [cmd]) := by
  rw [issue_none h.gone]
  refine ⟨h.gone, h.calling, fun k r hr => ?_⟩
  rcases List.mem_append.1 hr with hr | hr
  · obtain ⟨c, hc, hl⟩ := h.said k r hr
    exact ⟨c, getElem?_append_some hc cmd, hl⟩
  · obtain ⟨rfl, rfl⟩ := Happening.replied.inj (List.mem_singleton.1 hr)
    exact ⟨cmd, by simp [hx.count], goneReply_eq (hx.count ▸ hn) cmd⟩

end Parted

end RunWatch.Executor
