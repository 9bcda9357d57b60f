import RunWatch.Proofs.Calls
set_option autoImplicit false

namespace RunWatch

/-- What a controller has handled so far, the newest first, each with its instant. -/
abbrev History := List (Nat × Input)

namespace History

variable (timing : Timing)

def controller : History → Controller
  | [] => { timing }
  | (now, i) :: past => ((controller past).step now i).state

def actions : History → List Action
  | [] => []
  | (now, i) :: past => actions past ++ ((controller timing past).step now i).actions

def requests (past : History) : List Request := (past.actions timing).filterMap Action.request?

def listCalls (past : History) : Nat := ((past.actions timing).filterMap Action.list?).length

theorem issued_controller (past : History) :
    (past.controller timing).fetches.issued = past.listCalls timing := by
  induction past with
  | nil => rfl
  | cons e past ih =>
    obtain ⟨now, i⟩ := e
    simp only [controller, listCalls, actions, List.filterMap_append, List.length_append] at ih ⊢
    cases (controller timing past).step_calls now i with
    | none h ha => simp [h, ha, ih]
    | one h ha => simp [h, ha, ih]

/-- No list call has a number beyond the count of calls. -/
theorem seq_le_listCalls {past : History} {epoch seq : Nat}
    (h : .list epoch seq ∈ past.actions timing) : seq ≤ past.listCalls timing := by
  induction past with
  | nil => simp [actions] at h
  | cons e past ih =>
    obtain ⟨now, i⟩ := e
    have hi := issued_controller timing past
    simp only [actions, listCalls, List.filterMap_append, List.length_append, List.mem_append] at *
    rcases h with h | h
    · have := ih h
      omega
    · have hm : (epoch, seq) ∈ ((controller timing past).step now i).actions.filterMap
          Action.list? := List.mem_filterMap.2 ⟨_, h, rfl⟩
      cases (controller timing past).step_calls now i with
      | none _ ha => simp [ha] at hm
      | one _ ha =>
        simp only [ha, List.mem_singleton, Prod.mk.injEq] at hm ⊢
        simp only [List.length_singleton]
        omega

theorem epoch_le_of_mem {past : History} {r : Request} (hr : r ∈ past.requests timing)
    {epoch : Nat} (he : r.epoch? = some epoch) : epoch ≤ (past.controller timing).epoch := by
  induction past with
  | nil => simp [requests, actions] at hr
  | cons e past ih =>
    obtain ⟨now, i⟩ := e
    have hle := Controller.epoch_le_step now (controller timing past) i
    rw [requests, actions, List.filterMap_append, List.mem_append] at hr
    rcases hr with hr | hr
    · exact Nat.le_trans (ih hr) hle
    · rw [Controller.epoch_of_mem_step hr he]
      exact hle

theorem epoch_cons {timing : Timing} {past : History} {t : Nat} {i : Input}
    (hr : i.isReset = false) :
    (controller timing ((t, i) :: past)).epoch = (controller timing past).epoch := by
  simp [controller, Controller.step_epoch, hr]

theorem epoch_le_append (since past : History) :
    (past.controller timing).epoch ≤ ((since ++ past).controller timing).epoch := by
  induction since with
  | nil => exact Nat.le_refl _
  | cons e since ih => exact Nat.le_trans ih (Controller.epoch_le_step _ _ _)

theorem timing_controller (past : History) :
    (past.controller timing).timing = timing ∧
      (past.controller timing).poll.interval = timing.pollInterval := by
  induction past with
  | nil => exact ⟨rfl, rfl⟩
  | cons e past ih =>
    obtain ⟨now, i⟩ := e
    obtain ⟨ht, hi⟩ := Controller.step_timing now (controller timing past) i
    exact ⟨ht.trans ih.1, hi.trans ih.2⟩

end History

end RunWatch
