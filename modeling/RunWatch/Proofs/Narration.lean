import RunWatch.Proofs.Vigil
/-!
What is told of a run. A console that prints text tells on the error stream of every event that its
controller has emitted by the time the last snapshot is printed, in the order in which they were
emitted, each once; in whatever order it reads events and looks at snapshots, and whenever the user
interrupts.
-/
set_option autoImplicit false

namespace RunWatch

def Line.error? : Line → Option String
  | .out _ => none
  | .err text => some text

def errors (ls : List Line) : List String := ls.filterMap Line.error?

@[simp] theorem errors_nil : errors [] = [] := rfl

@[simp] theorem errors_append (ls ms : List Line) : errors (ls ++ ms) = errors ls ++ errors ms :=
  List.filterMap_append

@[simp] theorem errors_err (text : String) : errors [.err text] = [text] := rfl

@[simp] theorem errors_out (text : String) : errors [.out text] = [] := rfl

@[simp] theorem errors_map_out (texts : List String) : errors (texts.map .out) = [] :=
  List.filterMap_eq_nil_iff.2 fun l hl => by
    obtain ⟨text, -, rfl⟩ := List.mem_map.1 hl
    rfl

/-- Texts that tell of some events, of each by the clock as it stood when it was told. An event that
is not spoken of has no text. -/
inductive Tale : List Event → List String → Prop where
  | nil : Tale [] []
  | unspoken {es : List Event} {ls : List String} (h : Tale es ls) {clock : Timestamp} {e : Event}
      (he : e.line? clock = some none) : Tale (es ++ [e]) ls
  | told {es : List Event} {ls : List String} (h : Tale es ls) {clock : Timestamp} {e : Event}
      {text : String} (he : e.line? clock = some (some text)) : Tale (es ++ [e]) (ls ++ [text])

namespace Console

variable {c : Console}

theorem read_text (clock : Timestamp) (hj : c.json = false) {e : Event} {rest : List Event}
    (hb : c.backlog = e :: rest) (hc : (c.read clock).phase ≠ .crashed) :
    (c.read clock).backlog = rest ∧ (c.read clock).phase = c.phase ∧
      ∃ told, e.line? clock = some told ∧
        errors (c.read clock).printed = errors c.printed ++ told.toList := by
  unfold read tell at hc ⊢
  simp only [hb, hj, Bool.false_eq_true, if_false] at hc ⊢
  split at hc
  · next hcrashed => exact absurd hcrashed hc
  · next hphase =>
    rw [if_neg hphase]
    cases hl : e.line? clock with
    | none => simp [hl, crash] at hc
    | some told => cases told <;> simp [print]

theorem backlog_receive (c : Console) (a : Action) :
    (c.receive a).backlog = c.backlog ++ events [a] := by
  cases a <;> simp [receive, events, Action.event?]

theorem errors_printSnapshot (clock : Timestamp) (c : Console) :
    errors (c.printSnapshot clock).printed = errors c.printed := by
  unfold printSnapshot
  split
  · rfl
  · split
    · simp [print]
    · split <;> simp [printAll, crash]

theorem errors_conclude (c : Console) (fault : Option Fault) :
    errors (c.conclude fault).printed = errors c.printed := by
  unfold conclude
  split <;> rfl

theorem backlog_close (clock : Timestamp) (c : Console) (fault : Option Fault) :
    (c.close clock fault).backlog = c.backlog := by
  have hconclude (c : Console) (fault : Option Fault) : (c.conclude fault).backlog = c.backlog := by
    unfold conclude
    split <;> rfl
  have hprint (c : Console) : (c.printSnapshot clock).backlog = c.backlog := by
    unfold printSnapshot
    split
    · rfl
    · split
      · rfl
      · split <;> rfl
  unfold close
  split
  · rw [hconclude]
    split
    · rfl
    · exact hprint c
  · simp only [hconclude, hprint]

theorem errors_close (clock : Timestamp) (c : Console) (fault : Option Fault) :
    errors (c.close clock fault).printed = errors c.printed := by
  unfold close
  split
  · rw [errors_conclude]
    split
    · rfl
    · exact errors_printSnapshot clock c
  · simp only [errors_conclude, errors_printSnapshot]

end Console

namespace Vigil

def notice (v : Vigil) : List String := if v.interrupted then [Console.interrupted] else []

/-- What comes first on the error stream once an errand is answered: of a start its outcome. -/
inductive Lead (carried : List Action) : Errand → List String → Prop where
  | none {e : Errand} (h : ∀ wait, e ≠ .start wait) : Lead carried e []
  | outcome {wait : Bool} {o : Outcome} (h : .reply 0 (.outcome o) ∈ carried) :
      Lead carried (.start wait) [o.line]

/-- What a console has told: of the events that were emitted, those that do not wait in the backlog.
The notice of an interrupt may stand anywhere between them. -/
structure Narrates (v : Vigil) (lead : List String) (told : List Event)
    (before after : List String) : Prop where
  leads : Lead v.carried v.console.errand lead
  emitted : events v.carried = told ++ v.console.backlog
  tale : Tale told (before ++ after)
  printed : errors v.console.printed = lead ++ before ++ v.notice ++ after
  uninterrupted (h : v.interrupted = false) : after = []

structure Narration (v : Vigil) : Prop where
  text : v.console.json = false
  asking (hl : v.leave = .staying) (hp : v.console.phase = .asking) :
    v.console.printed = [] ∧ v.console.backlog = events v.carried
  narrates (ha : ¬(v.leave = .staying ∧ v.console.phase = .asking))
    (hc : v.console.phase ≠ .crashed) : ∃ lead told before after, v.Narrates lead told before after
  drained (hl : v.leave = .drained) (he : v.console.errand ≠ .status) : v.console.backlog = []
  ended {fault : Option Fault} (h : v.console.phase = .ended fault) :
    v.leave = .drained ∨ v.console.errand = .start false ∧
      ∃ o, o.isError = false ∧ .reply 0 (.outcome o) ∈ v.carried

variable {timing : Timing} {v w : Vigil} {lead before after : List String} {told : List Event}

theorem Lead.append {carried : List Action} {e : Errand} (h : Lead carried e lead)
    (as : List Action) : Lead (carried ++ as) e lead := by
  cases h with
  | none h => exact .none h
  | outcome h => exact .outcome (List.mem_append_left _ h)

theorem Narrates.congr (h : v.Narrates lead told before after) (hc : w.carried = v.carried)
    (hi : w.interrupted = v.interrupted) (he : w.console.errand = v.console.errand)
    (hb : w.console.backlog = v.console.backlog)
    (hp : errors w.console.printed = errors v.console.printed) :
    w.Narrates lead told before after :=
  ⟨hc ▸ he ▸ h.leads, by rw [hc, hb, h.emitted], h.tale, by rw [hp, h.printed, notice, notice, hi],
    fun hn => h.uninterrupted (hi ▸ hn)⟩

theorem narrates_of_answered (hlead : Lead v.carried v.console.errand lead)
    (hb : v.console.backlog = events v.carried) (hi : v.interrupted = false)
    (hw : errors v.console.printed = lead) : v.Narrates lead [] [] [] :=
  ⟨hlead, hb.symm, .nil, by simp [hw, notice, hi], fun _ => rfl⟩

theorem Narrates.carry (h : v.Narrates lead told before after) (a : Action)
    (rest : List Action) : (v.carry a rest).Narrates lead told before after := by
  refine ⟨?_, ?_, h.tale, ?_, h.uninterrupted⟩
  · show Lead (v.carried ++ [a]) (v.console.receive a).errand lead
    rw [Console.errand_receive]
    exact h.leads.append [a]
  · show events (v.carried ++ [a]) = told ++ (v.console.receive a).backlog
    rw [events_append, h.emitted, Console.backlog_receive, List.append_assoc]
  · show errors (v.console.receive a).printed = _
    rw [Console.printed_receive]
    exact h.printed

theorem Narrates.read (h : v.Narrates lead told before after) (hj : v.console.json = false)
    (clock : Timestamp) (hc : (v.console.read clock).phase ≠ .crashed) :
    ∃ told before after,
      { v with console := v.console.read clock }.Narrates lead told before after := by
  have hlead : Lead v.carried (v.console.read clock).errand lead :=
    (v.console.same_read clock).errand ▸ h.leads
  cases hb : v.console.backlog with
  | nil =>
    have hread : v.console.read clock = v.console := by simp [Console.read, hb]
    rw [hread]
    exact ⟨told, before, after, h⟩
  | cons e rest =>
    obtain ⟨hbacklog, -, text?, hline, hprinted⟩ := Console.read_text clock hj hb hc
    have hemitted : events v.carried = told ++ [e] ++ (v.console.read clock).backlog := by
      rw [h.emitted, hb, hbacklog, List.append_assoc]
      rfl
    cases text? with
    | none =>
      refine ⟨told ++ [e], before, after, hlead, hemitted, h.tale.unspoken hline, ?_,
        h.uninterrupted⟩
      exact hprinted.trans (by rw [h.printed]; exact List.append_nil _)
    | some text =>
      have htale := h.tale.told hline
      cases hi : v.interrupted with
      | false =>
        have hafter := h.uninterrupted hi
        refine ⟨told ++ [e], before ++ [text], [], hlead, hemitted, ?_, ?_, fun _ => rfl⟩
        · simpa [hafter] using htale
        · refine hprinted.trans ?_
          simp [h.printed, hafter, notice, hi]
      | true =>
        refine ⟨told ++ [e], before, after ++ [text], hlead, hemitted, ?_, ?_, nofun⟩
        · rwa [List.append_assoc] at htale
        · refine hprinted.trans ?_
          simp [h.printed, notice, hi]

theorem Narration.carry (h : v.Narration) (hp : Posted timing v) {a : Action}
    {rest : List Action} (ho : v.outbox = a :: rest) : (v.carry a rest).Narration := by
  have hphase : (v.carry a rest).console.phase = v.console.phase := v.console.phase_receive a
  have herrand : (v.carry a rest).console.errand = v.console.errand := v.console.errand_receive a
  have hprinted : (v.carry a rest).console.printed = v.console.printed :=
    v.console.printed_receive a
  have hbacklog : (v.carry a rest).console.backlog = v.console.backlog ++ events [a] :=
    v.console.backlog_receive a
  refine ⟨?_, fun hl ha => ?_, fun ha hc => ?_, fun hl he => ?_, fun he => ?_⟩
  · exact (v.console.json_receive a).trans h.text
  · obtain ⟨hw, hb⟩ := h.asking hl (hphase ▸ ha)
    exact ⟨hprinted.trans hw, by rw [hbacklog, hb]; exact (events_append v.carried [a]).symm⟩
  · rw [hphase] at ha hc
    obtain ⟨lead, told, before, after, hn⟩ := h.narrates ha hc
    exact ⟨lead, told, before, after, hn.carry a rest⟩
  · -- nothing is told of any more, so nothing comes into the backlog
    rw [herrand] at he
    have hl : v.leave = .drained := hl
    have hnone := Action.event?_of_isAnswer ((hp.leaving (by simp [hl]) he).carry ho).1
    rw [hbacklog, h.drained hl he]
    simp [events, hnone]
  · rw [hphase] at he
    rw [herrand]
    exact (h.ended he).imp_right fun ⟨hs, o, ho, hr⟩ => ⟨hs, o, ho, List.mem_append_left _ hr⟩

theorem Narrates.leaving (h : v.Narrates lead told before after) (hj : v.console.json = false)
    (hp : ∀ fault, v.console.phase ≠ .ended fault) (fault : Option Fault) {leave : Leave}
    (hl : leave ≠ .staying)
    (hd : leave = .drained → v.console.errand ≠ .status → v.console.backlog = []) :
    { v with fault, leave }.Narration :=
  ⟨hj, fun hs => absurd hs hl, fun _ _ => ⟨_, _, _, _, h.congr rfl rfl rfl rfl rfl⟩, hd,
    fun he => absurd he (hp _)⟩

theorem narration_follow (hj : v.console.json = false) (hl : v.leave = .staying)
    (ha : v.console.phase = .asking) (hn : v.Narrates lead told before after) :
    v.follow.Narration := by
  unfold Vigil.follow
  split
  · exact ⟨hj, nofun, fun _ _ => ⟨_, _, _, _, hn.congr rfl rfl rfl rfl rfl⟩,
      fun hd => (nomatch hl.symm.trans hd), nofun⟩
  · exact hn.leaving hj (by simp [ha]) v.fault (by simp) (by simp)

theorem Narration.resume (h : v.Narration) (hp : Posted timing v) (hl : v.leave = .staying)
    (ha : v.console.phase = .asking) {r : Reply} (hr : .reply 0 r ∈ v.carried) :
    (v.resume r).Narration := by
  have hi := hp.asking hl ha
  obtain ⟨hw, hb⟩ := h.asking hl ha
  have hprinted : errors v.console.printed = [] := by rw [hw]; rfl
  unfold Vigil.resume
  split
  · next he =>
    have hn := narrates_of_answered (.none (by simp [he])) hb hi hprinted
    exact hn.leaving h.text (by simp [ha]) v.fault (by simp) fun _ hne => absurd he hne
  · next he =>
    exact narration_follow h.text hl ha (narrates_of_answered (.none (by simp [he])) hb hi hprinted)
  · next wait o he =>
    rw [if_neg (by simp [h.text])]
    generalize hc : v.console.print (.err o.line) = c
    have herrand : c.errand = .start wait := hc ▸ he
    have hj : c.json = false := hc ▸ h.text
    have ha : c.phase = .asking := hc ▸ ha
    have hn : { v with console := c }.Narrates [o.line] [] [] [] :=
      narrates_of_answered (herrand ▸ .outcome hr) (hc ▸ hb) hi (by simp [← hc, Console.print, hw])
    have going (ho : o.isError = false) : (if wait then { v with console := c }.follow
        else { v with console := c.conclude none }).Narration := by
      cases wait with
      | true => exact narration_follow hj hl ha hn
      | false =>
        have hend : c.conclude none = { c with phase := .ended none } := by
          simp [Console.conclude, Console.isOver, ha]
        rw [if_neg Bool.false_ne_true, hend]
        exact ⟨hj, by simp, fun _ _ => ⟨_, _, _, _, hn.congr rfl rfl rfl rfl rfl⟩,
          by simp [hl], fun _ => .inr ⟨herrand, o, ho, hr⟩⟩
    cases o with
    | error => exact hn.leaving hj (by simp [ha]) _ (by simp) (by simp)
    | _ => exact going rfl
  · exact h

theorem Narration.read (h : v.Narration) (clock : Timestamp)
    (hl : v.leave = .draining ∨ v.leave = .staying ∧ v.console.phase = .following) :
    { v with console := v.console.read clock }.Narration := by
  have hsame := v.console.same_read clock
  have hphase := v.console.phase_read clock
  have hstay : ¬(v.leave = .staying ∧ v.console.phase = .asking) := by
    rcases hl with hl | ⟨-, hf⟩ <;> simp_all
  refine ⟨hsame.json.trans h.text, fun hs ha => ?_, fun _ hc => ?_, fun hd => ?_, fun he => ?_⟩
  · rcases hphase with hp | hp
    · exact absurd ⟨hs, hp ▸ ha⟩ hstay
    · exact nomatch hp.symm.trans ha
  · have hcrashed : v.console.phase ≠ .crashed := fun hv => hc (by
      rcases hphase with hp | hp
      · exact hp.trans hv
      · exact hp)
    obtain ⟨lead, told, before, after, hn⟩ := h.narrates hstay hcrashed
    exact ⟨lead, hn.read h.text clock hc⟩
  · rcases hl with hl | ⟨hl, -⟩ <;> exact nomatch hl.symm.trans hd
  · rcases hphase with hp | hp
    · rw [hsame.errand]
      exact h.ended (hp ▸ he)
    · exact nomatch hp.symm.trans he

theorem Narration.depart (h : v.Narration)
    (hp : v.console.phase = .following ∨ v.console.phase = .resetting) :
    { v with leave := .draining }.Narration := by
  have going {p : Phase} (hn : p ≠ .following) (hr : p ≠ .resetting) : v.console.phase ≠ p := by
    rintro rfl
    exact hp.elim hn hr
  obtain ⟨lead, told, before, after, hs⟩ := h.narrates
    (fun ha => going (by simp) (by simp) ha.2) (going (by simp) (by simp))
  exact hs.leaving h.text (fun _ => going (by simp) (by simp)) v.fault (by simp) (by simp)

theorem Narration.interrupt (h : v.Narration) (hi : v.interrupted = false)
    (hf : v.console.phase = .following) (queue : List (Caller × Command)) :
    { v with console := v.console.interrupt, queue, interrupted := true }.Narration := by
  have hc : v.console.interrupt =
      { v.console.print (.err Console.interrupted) with phase := .resetting } := if_pos hf
  rw [hc]
  refine ⟨h.text, fun _ ha => (nomatch ha), fun _ _ => ?_, h.drained, fun he => (nomatch he)⟩
  obtain ⟨lead, told, before, after, hn⟩ := h.narrates (by simp [hf]) (by simp [hf])
  have hafter := hn.uninterrupted hi
  refine ⟨lead, told, before, [], hn.leads, hn.emitted, hafter ▸ hn.tale, ?_, fun _ => rfl⟩
  have hprinted := hn.printed
  simp only [notice, hi, Bool.false_eq_true, if_false, hafter, List.append_nil] at hprinted
  simp [Console.print, notice, hprinted]

theorem Narration.close (h : v.Narration) (clock : Timestamp) (hl : v.leave = .drained)
    (ho : v.console.isOver = false) :
    { v with console := v.console.close clock v.fault }.Narration := by
  have hsame := v.console.same_close clock v.fault
  have hb := v.console.backlog_close clock v.fault
  refine ⟨hsame.json.trans h.text, fun hs => (nomatch hl.symm.trans hs), fun _ _ => ?_,
    fun hd he => hb.trans (h.drained hd (hsame.errand ▸ he)), fun _ => .inl hl⟩
  obtain ⟨lead, told, before, after, hn⟩ := h.narrates (by simp [hl]) fun hc => by
    simp [Console.isOver, hc] at ho
  exact ⟨lead, told, before, after,
    hn.congr rfl rfl hsame.errand hb (v.console.errors_close clock v.fault)⟩

theorem Narration.step (h : v.Narration) (hk : Kept timing v) (hp : Posted timing v)
    (hw : v.Step timing w) : w.Narration := by
  cases hw with
  | take | handle =>
    refine ⟨h.text, h.asking, fun ha hc => ?_, h.drained, h.ended⟩
    obtain ⟨lead, told, before, after, hn⟩ := h.narrates ha hc
    exact ⟨lead, told, before, after, hn.congr rfl rfl rfl rfl rfl⟩
  | carry ho => exact h.carry hp ho
  | resume hl ha hr => exact h.resume hp hl ha (hk.answers _ hr)
  | read clock hl => exact h.read clock hl
  | look hl hf hs => exact h.depart (.inl hf)
  | interrupt hl hf => exact h.interrupt (hp.following hl hf).1 hf _
  | forgotten hl hf hr => exact h.depart (.inr hf)
  | drained hl hb =>
    refine ⟨h.text, nofun, fun _ hc => ?_, fun _ _ => hb.resolve_left (by simp [h.text]),
      fun _ => .inl rfl⟩
    obtain ⟨lead, told, before, after, hn⟩ := h.narrates (by simp [hl]) hc
    exact ⟨lead, told, before, after, hn.congr rfl rfl rfl rfl rfl⟩
  | close clock hl ho => exact h.close clock hl ho

theorem Steps.narration {errand : Errand} (h : (start errand false).Steps timing v) :
    v.Narration := by
  induction h with
  | refl => exact ⟨rfl, fun _ _ => ⟨rfl, rfl⟩, fun hn => absurd ⟨rfl, rfl⟩ hn, nofun, nofun⟩
  | tail ht hu ih => exact ih.step ht.posted.1 ht.posted.2 hu

inductive Attends (answers : List (Caller × Reply)) : Errand → Prop where
  | watch : Attends answers .watch
  | wait : Attends answers (.start true)
  | error {wait : Bool} {o : Outcome} (ho : o.isError = true) (h : (0, .outcome o) ∈ answers) :
      Attends answers (.start wait)

/-- What a console has told that has ended: what comes first, and then of every event that was
emitted, in this order, its text by the clock as it stood. The notice of an interrupt stands once
among them if there was one. -/
structure ToldAll (v : Vigil) (lead before after : List String) : Prop where
  leads : Lead v.carried v.console.errand lead
  tale : Tale (events v.carried) (before ++ after)
  printed : errors v.console.printed = lead ++ before ++ v.notice ++ after

/-- A console that has ended has told of every event that its controller has emitted, whatever the
server answered and whenever the user interrupted. -/
theorem tells_all_events {errand : Errand} (h : (start errand false).Steps timing v)
    {fault : Option Fault} (hf : v.console.phase = .ended fault) (ht : Attends v.answers errand) :
    ∃ lead before after, v.ToldAll lead before after := by
  have hn := h.narration
  have hk := h.posted.1
  have hl : v.leave = .drained := by
    refine (hn.ended hf).resolve_right fun ⟨hs, o, ho, hr⟩ => ?_
    rw [h.errand] at hs
    subst hs
    cases ht with
    | error ho' hr' =>
      obtain rfl := Reply.outcome.inj
        (hk.orderly.reply_unique (hk.mem_actions hr) (hk.mem_actions (hk.answers _ hr')))
      exact nomatch ho.symm.trans ho'
  have hb : v.console.backlog = [] := hn.drained hl fun he => by
    rw [h.errand] at he
    subst he
    nomatch ht
  obtain ⟨lead, told, before, after, hs⟩ := hn.narrates (by simp [hl]) (by simp [hf])
  have he := hs.emitted
  rw [hb, List.append_nil] at he
  exact ⟨lead, before, after, hs.leads, he ▸ hs.tale, hs.printed⟩

/-- The user interrupts when one of two events has been read; the other is told of after that, and
then the reset. -/
theorem tells_all_events_when_interrupted :
    let run : Run := ⟨7, .manual, .running, none, none, 0, 0, 0, 0⟩
    ∃ v, (start .watch false).Steps {} v ∧ v.console.phase = .ended none ∧
      events v.carried = [.runUpdated run, .pollingStarted, .notice .reset] ∧
      errors v.console.printed =
        ["Run #7 [manual] running | started - | finished - | " ++
            "scholars 0 | new pubs 0 | failed 0 | partial 0",
          Console.interrupted, "Watching for updates…", "Run controller reset"] ∧
      ∃ lead before after, v.ToldAll lead before after := by
  intro run
  have answered : (start .watch false).Steps {} _ := Steps.refl
    |>.tail (.take (t := 0) rfl (by decide) rfl) |>.tail (.carry rfl)
    |>.tail (.handle (t := 5) (i := .listed 0 1 (.ok ⟨[run], .null⟩)) rfl (by decide) (by decide)
      rfl)
    |>.tail (.carry rfl) |>.tail (.carry rfl) |>.tail (.carry rfl) |>.tail (.carry rfl)
    |>.tail (.carry rfl)
  have forgotten := answered
    |>.tail (.resume (r := .done) rfl rfl (by decide)) |>.tail (.read ⟨0, 0⟩ (.inr ⟨rfl, rfl⟩))
    |>.tail (.interrupt rfl rfl) |>.tail (.take (t := 6) rfl (by decide) rfl)
    |>.tail (.carry rfl) |>.tail (.carry rfl) |>.tail (.carry rfl)
  have ended := forgotten
    |>.tail (.forgotten (r := .done) rfl rfl (by decide)) |>.tail (.read ⟨0, 0⟩ (.inl rfl))
    |>.tail (.read ⟨0, 0⟩ (.inl rfl)) |>.tail (.drained rfl (.inr rfl))
    |>.tail (.close ⟨0, 0⟩ rfl rfl)
  refine ⟨_, ended, ?ends, ?_, ?_, tells_all_events ended ?ends .watch⟩ <;> decide +kernel

end Vigil

end RunWatch
