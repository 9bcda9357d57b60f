import RunWatch.Proofs.Phase
import RunWatch.Proofs.Telling
import RunWatch.Summary
import RunWatch.Text.Parts
/-!
The line of a summary that tells the state of a session. The line picks the first state that
applies, and whether a start is possible is worked out apart from it. Main statement: in every
snapshot that is shown the two agree, for a submission that counts as starting is open, and polling
is on exactly while a run is active.
-/
set_option autoImplicit false

namespace RunWatch

def Session.uncooled (s : Session) : Session :=
  { s with safety := { s.safety with cooldownActive := false } }

/-- The phrases of a line, which bars divide. -/
def phrases (line : String) : List String :=
  (Text.splitOn (· == '|') line.toList).map fun cs => Text.trim (String.ofList cs)

def Says (line phrase : String) : Prop := phrase ∈ phrases line

theorem phrases_of_not_bar {a : String} (ha : '|' ∉ a.toList) : phrases a = [Text.trim a] := by
  have hnot : ∀ c ∈ a.toList, (c == '|') = false := fun _ hc => beq_eq_false_iff_ne.2 fun h =>
    ha (h ▸ hc)
  simp [phrases, Text.splitOn_of_not_sep hnot]

theorem phrases_append {a : String} (ha : '|' ∉ a.toList) (b : String) :
    phrases (a ++ "|" ++ b) = Text.trim a :: phrases b := by
  have hnot : ∀ c ∈ a.toList, (c == '|') = false := fun _ hc => beq_eq_false_iff_ne.2 fun h =>
    ha (h ▸ hc)
  have hlist : (a ++ "|" ++ b).toList = a.toList ++ '|' :: b.toList := by simp
  simp [phrases, hlist, Text.splitOn_append_sep hnot]

namespace Snapshot

def stateNames : List String := ["starting", "submitting", "running", "blocked", "idle"]

variable (s : Snapshot)

theorem stateName_mem : s.stateName ∈ stateNames := by
  unfold stateName stateNames
  repeat' split
  all_goals simp

theorem phrases_stateLine : phrases s.stateLine = ["State: " ++ s.stateName,
    "polling " ++ yesNo s.polling, "can start " ++ yesNo s.canStart] := by
  have hline : s.stateLine = "State: " ++ s.stateName ++ " " ++ "|" ++
      (" polling " ++ yesNo s.polling ++ " " ++ "|" ++ (" can start " ++ yesNo s.canStart)) := by
    have hpolling : " | polling " = " " ++ "|" ++ " polling " := by decide
    have hstart : " | can start " = " " ++ "|" ++ " can start " := by decide
    rw [stateLine, hpolling, hstart]
    simp only [String.append_assoc]
  have hstate : ∀ name ∈ stateNames, '|' ∉ ("State: " ++ name ++ " ").toList ∧
      Text.trim ("State: " ++ name ++ " ") = "State: " ++ name := by decide +kernel
  have hpolling : ∀ b, '|' ∉ (" polling " ++ yesNo b ++ " ").toList ∧
      Text.trim (" polling " ++ yesNo b ++ " ") = "polling " ++ yesNo b := by decide +kernel
  have hstart : ∀ b, '|' ∉ (" can start " ++ yesNo b).toList ∧
      Text.trim (" can start " ++ yesNo b) = "can start " ++ yesNo b := by decide +kernel
  obtain ⟨hbar, htrim⟩ := hstate _ s.stateName_mem
  rw [hline, phrases_append hbar, phrases_append (hpolling s.polling).1,
    phrases_of_not_bar (hstart s.canStart).1, htrim, (hpolling s.polling).2,
    (hstart s.canStart).2]

theorem says_state_iff (name : String) :
    Says s.stateLine ("State: " ++ name) ↔ s.stateName = name := by
  simp [Says, phrases_stateLine, ← String.toList_inj]
  exact eq_comm

theorem says_polling_iff : Says s.stateLine "polling yes" ↔ s.polling = true := by
  cases hp : s.polling <;> simp [Says, phrases_stateLine, ← String.toList_inj, hp, yesNo]

theorem says_canStart_iff : Says s.stateLine "can start yes" ↔ s.canStart = true := by
  cases hc : s.canStart <;> simp [Says, phrases_stateLine, ← String.toList_inj, hc, yesNo]

theorem stateName_eq_starting_iff : s.stateName = "starting" ↔ s.likelyRunning = true := by
  unfold stateName
  repeat' split
  all_goals simp_all

theorem stateName_eq_running_iff : s.stateName = "running" ↔
    s.likelyRunning = false ∧ s.submitting = false ∧ s.runActive = true := by
  unfold stateName
  repeat' split
  all_goals simp_all

theorem stateName_eq_blocked_iff : s.stateName = "blocked" ↔ s.likelyRunning = false ∧
    s.submitting = false ∧ s.runActive = false ∧ s.safety.cooldownActive = true := by
  unfold stateName
  repeat' split
  all_goals simp_all

theorem stateName_eq_idle_iff : s.stateName = "idle" ↔ s.likelyRunning = false ∧
    s.submitting = false ∧ s.runActive = false ∧ s.safety.cooldownActive = false := by
  unfold stateName
  repeat' split
  all_goals simp_all

theorem stateLine_of_lines? {remaining : Binary64} {lines : List String}
    (h : s.lines? remaining = some lines) : lines[1]? = some s.stateLine := by
  obtain ⟨line, -, rfl⟩ := Option.map_eq_some_iff.1 h
  rfl

end Snapshot

namespace Session

variable {s : Session}

theorem canStart_eq_true_iff : s.canStart = true ↔
    s.submitting = false ∧ s.runActive = false ∧ s.safety.cooldownActive = false := by
  simp [canStart, and_assoc]

theorem canStart_uncooled_iff : s.canStart = false ∧ s.uncooled.canStart = true ↔
    s.submitting = false ∧ s.runActive = false ∧ s.safety.cooldownActive = true := by
  have hactive : s.uncooled.runActive = s.runActive := rfl
  have huncooled : s.uncooled.canStart = true ↔ s.submitting = false ∧ s.runActive = false := by
    rw [canStart_eq_true_iff, hactive]
    simp [uncooled]
  rw [huncooled, ← Bool.not_eq_true, canStart_eq_true_iff]
  cases s.safety.cooldownActive <;> simp

end Session

namespace History

variable {timing : Timing} {past : History} {t : Nat} {i : Input} {s : Snapshot}

theorem snapshot_of_publish (h : .publish s ∈ ((controller timing past).step t i).actions) :
    s = (controller timing ((t, i) :: past)).session.snapshot := by
  obtain ⟨before, after, hsplit⟩ := List.append_of_mem h
  exact ((controller timing past).step_showing t i).of_publish hsplit |>.1

/-- A start counts as starting while its call is pending, and at no other time. -/
theorem Orderly.starting_iff (h : Orderly timing past) :
    (controller timing past).session.likelyRunning = true ↔ Phase.starting.Holds timing past := by
  constructor
  · intro hlikely
    obtain ⟨p, hp⟩ := h.phase
    have hflag : p.flags.2 = true := (congrArg Prod.snd hp.flags).trans hlikely
    cases p with
    | starting => exact hp
    | idle => cases hflag
    | submitted => cases hflag
  · intro hp
    exact (congrArg Prod.snd hp.flags).symm

theorem Orderly.likelyRunning_eq_false (h : Orderly timing past)
    (hclosed : (controller timing past).session.submitting = false) :
    (controller timing past).session.likelyRunning = false := by
  cases hlikely : (controller timing past).session.likelyRunning with
  | false => rfl
  | true =>
    have hopen : true = (controller timing past).session.submitting :=
      congrArg Prod.fst (h.starting_iff.1 hlikely).flags
    rw [hclosed] at hopen
    cases hopen

/-- In the summary of every snapshot that is shown, whatever time remains of a cooldown, the state
is idle exactly when it says that a start is possible, starting exactly while a start is pending
whose starting phase is over, running only when it says that it is polled, and blocked exactly when
a start would be possible but for the cooldown. -/
theorem state_agrees_with_gate (h : Orderly timing ((t, i) :: past))
    (hs : .publish s ∈ ((controller timing past).step t i).actions) (remaining : Binary64) :
    let session := (controller timing ((t, i) :: past)).session
    s = session.snapshot ∧ ∀ lines ∈ s.lines? remaining, ∃ line, lines[1]? = some line ∧
      (Says line "State: idle" ↔ Says line "can start yes") ∧
      (Says line "State: starting" ↔ Phase.starting.Holds timing ((t, i) :: past)) ∧
      (Says line "State: running" → Says line "polling yes") ∧
      (Says line "State: blocked" ↔
        session.canStart = false ∧ session.uncooled.canStart = true) := by
  obtain rfl := snapshot_of_publish hs
  intro session
  have hclosed : session.submitting = false → session.likelyRunning = false :=
    h.likelyRunning_eq_false
  have hpolling : session.polling = session.runActive := (settled timing ((t, i) :: past)).polling
  have hsays (name : String) : Says session.snapshot.stateLine ("State: " ++ name) ↔
      session.snapshot.stateName = name := session.snapshot.says_state_iff name
  have hidle := hsays "idle"
  have hstarting := hsays "starting"
  have hrunning := hsays "running"
  have hblocked := hsays "blocked"
  simp only [String.reduceAppend] at hidle hstarting hrunning hblocked
  refine ⟨rfl, fun lines hl => ⟨_, session.snapshot.stateLine_of_lines? hl, ?idle, ?starting,
    ?running, ?blocked⟩⟩
  case idle =>
    rw [hidle, session.snapshot.stateName_eq_idle_iff, session.snapshot.says_canStart_iff]
    exact Iff.trans (and_iff_right_of_imp fun hfree => hclosed hfree.1)
      Session.canStart_eq_true_iff.symm
  case starting =>
    rw [hstarting, session.snapshot.stateName_eq_starting_iff]
    exact h.starting_iff
  case running =>
    rw [hrunning, session.snapshot.stateName_eq_running_iff, session.snapshot.says_polling_iff]
    rintro ⟨-, -, hactive⟩
    exact hpolling.trans hactive
  case blocked =>
    rw [hblocked, session.snapshot.stateName_eq_blocked_iff, Session.canStart_uncooled_iff]
    exact and_iff_right_of_imp fun hfree => hclosed hfree.1

/-- A start counts as starting while a run is active and a cooldown is on. Once that run has ended
and the start is refused, the cooldown is all that is left. -/
theorem state_agrees_with_gate_during_cooldown :
    let listing (status : RunStatus) : Except Failure Listing :=
      .ok ⟨[⟨7, .manual, status, none, none, 0, 0, 0, 0⟩],
        .object [("cooldown_active", .bool true)]⟩
    let starting : History := [(3500000000, .startingDue), (2000000000, .command 1 .start),
      (1000000000, .listed 0 1 (listing .running)), (0, .command 0 .bootstrap)]
    let refused : History := (7000000000, .triggered 0 1 (.error (.cooldown .null "hold" none))) ::
      (6500000000, .listed 0 2 (listing .success)) :: (6000000000, .pollDue) :: starting
    (Orderly {} starting ∧ ∃ lines line,
      (controller {} starting).session.snapshot.lines? .zero = some lines ∧
        lines[1]? = some line ∧ Says line "State: starting") ∧
      Orderly {} refused ∧ ∃ lines line,
        (controller {} refused).session.snapshot.lines? .zero = some lines ∧
          lines[1]? = some line ∧ Says line "State: blocked" := by
  intro listing starting refused
  have hstarting : Orderly {} starting := by decide
  have hrefused : Orderly {} refused := by decide
  have hshown : .publish (controller {} starting).session.snapshot ∈
      ((controller {} starting.tail).step 3500000000 .startingDue).actions := by decide
  have hshown' : .publish (controller {} refused).session.snapshot ∈
      ((controller {} refused.tail).step 7000000000
        (.triggered 0 1 (.error (.cooldown .null "hold" none)))).actions := by decide
  obtain ⟨lines, hlines⟩ := Option.isSome_iff_exists.1 (by decide +kernel :
    ((controller {} starting).session.snapshot.lines? .zero).isSome = true)
  obtain ⟨lines', hlines'⟩ := Option.isSome_iff_exists.1 (by decide +kernel :
    ((controller {} refused).session.snapshot.lines? .zero).isSome = true)
  obtain ⟨-, hagrees⟩ := state_agrees_with_gate hstarting hshown .zero
  obtain ⟨-, hagrees'⟩ := state_agrees_with_gate hrefused hshown' .zero
  obtain ⟨line, hline, -, hstart, -⟩ := hagrees lines hlines
  obtain ⟨line', hline', -, -, -, hblocked⟩ := hagrees' lines' hlines'
  have hphase : Phase.starting.Holds {} starting := hstarting.starting_iff.1 (by decide)
  exact ⟨⟨hstarting, lines, line, hlines, hline, hstart.2 hphase⟩,
    hrefused, lines', line', hlines', hline', hblocked.2 (by decide)⟩

end History

end RunWatch
