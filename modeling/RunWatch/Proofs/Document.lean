import RunWatch.Program
import RunWatch.Proofs.Printing
import RunWatch.Simulation.Flow
/-!
The document of a program that prints JSON. A command prints its document once and at no other time
anything else to the output, and a fault of which it tells in this way is one that the program does
not tell again. So there is always one document: that of the command, or else that of the fault
because of which there is none.
-/
set_option autoImplicit false

namespace RunWatch

def Line.output? : Line → Option String
  | .out text => some text
  | .err _ => none

/-- What some lines write to the output; in JSON each of these texts is a document. -/
def outputs (ls : List Line) : List String := ls.filterMap Line.output?

@[simp] theorem outputs_nil : outputs [] = [] := rfl

@[simp] theorem outputs_append (ls ms : List Line) :
    outputs (ls ++ ms) = outputs ls ++ outputs ms := List.filterMap_append

@[simp] theorem outputs_out (text : String) : outputs [.out text] = [text] := rfl

@[simp] theorem outputs_err (text : String) : outputs [.err text] = [] := rfl

@[simp] theorem outputs_map_out (texts : List String) : outputs (texts.map .out) = texts := by
  simp [outputs, List.filterMap_map, Function.comp_def, Line.output?]

/-- The document of a command that uses the controller, and the fault with which it then ends. -/
inductive Errand.Document : Errand → String → Option Fault → Prop where
  | snapshot {e : Errand} (h : ∀ wait, e ≠ .start wait) (s : Snapshot) :
      Document e s.toJson.pretty ({ errand := e, json := true, seen := s } : Console).verdict
  | outcome {wait : Bool} {o : Outcome} (h : o.isError = false) :
      Document (.start wait) o.toJson.pretty none
  | refusal {wait : Bool} (message : String) (status : Option Nat) (code id : Option String) :
      Document (.start wait) (Outcome.error message status code id).toJson.pretty
        (some { account := "manual check failed: " ++ message, reported := true })

inductive Task.Document : Task → String → Option Fault → Prop where
  | errand {e : Errand} {d : String} {fault : Option Fault} (h : e.Document d fault) :
      Document (.errand e) d fault
  | listing (limit : UInt64) (l : Listing) :
      Document (.runs limit) (Json.object [("runs", .array (l.runs.map Run.toJson)),
        ("safety_state", (SafetyState.normalize l.safety).toJson)]).sorted.pretty none

/-- The document of a command is read back as the value of which it was printed. -/
theorem Task.Document.read {t : Task} {d : String} {fault : Option Fault}
    (h : t.Document d fault) :
    ∃ v : Json, d = v.pretty ∧ Json.ofBytes? d.toUTF8 = some v.sorted := by
  suffices ∃ v : Json, d = v.pretty ∧ v.Fits 127 by
    obtain ⟨v, rfl, hv⟩ := this
    exact ⟨v, rfl, (Json.ofBytes?_print hv).1⟩
  cases h with
  | errand h =>
    cases h with
    | snapshot _ s => exact ⟨_, rfl, s.fits_toJson 124⟩
    | outcome => exact ⟨_, rfl, Outcome.fits_toJson 126 _⟩
    | refusal => exact ⟨_, rfl, Outcome.fits_toJson 126 _⟩
  | listing limit l =>
    have hruns : Json.ItemsFit (l.runs.map Run.toJson) 125 :=
      Json.itemsFit_iff.2 (List.forall_mem_map.2 fun r _ => r.fits_toJson 124)
    refine ⟨_, rfl, Json.Fits.sorted _ ?_⟩
    simp [Json.EntriesFit, hruns, SafetyState.fits_toJson 124]

theorem Errand.Document.reported {e : Errand} {d : String} {f : Fault}
    (h : e.Document d (some f)) : f.reported = true := by
  generalize hf : some f = fault at h
  cases h with
  | snapshot _ s =>
    obtain ⟨message, -, rfl⟩ := Option.map_eq_some_iff.1 hf.symm
    rfl
  | outcome => nomatch hf
  | refusal =>
    obtain rfl := Option.some.inj hf
    rfl

theorem Task.Document.lastLines {t : Task} {d : String} {fault : Option Fault}
    (h : t.Document d fault) : Program.lastLines true fault = [] := by
  cases fault with
  | none => rfl
  | some f =>
    cases h with
    | errand h => simp [Program.lastLines, Fault.document?, h.reported]

/-- What may reach a console: a happening, by the clock as it stands then, or an interrupt. -/
inductive Stimulus where
  | seen (clock : Timestamp) (h : Happening)
  | interrupted

namespace Console

def meet (c : Console) : Stimulus → Console
  | .seen clock h => c.see clock h
  | .interrupted => c.interrupt

def hear (c : Console) (stimuli : List Stimulus) : Console := stimuli.foldl meet c

def Underway (c : Console) : Prop :=
  match c.errand with
  | .start _ => ∃ o : Outcome, o.isError = false ∧ outputs c.printed = [o.toJson.pretty]
  | _ => outputs c.printed = []

/-- A console runs an errand and prints JSON, and this is what it has written, by how far it has
come. It does not crash. -/
def Written (e : Errand) (c : Console) : Prop :=
  c.errand = e ∧ c.json = true ∧
    match c.phase with
    | .asking => outputs c.printed = []
    | .following | .resetting => c.Underway
    | .ended fault => ∃ d, e.Document d fault ∧ outputs c.printed = [d]
    | .crashed => False

variable {c : Console}

theorem drain_json (clock : Timestamp) (hj : c.json = true) :
    c.drain clock = { c with backlog := [] } := if_pos hj

theorem printSnapshot_json (clock : Timestamp) (hj : c.json = true) (ho : c.isOver = false) :
    c.printSnapshot clock = c.print (.out c.seen.toJson.pretty) := by
  have hc : c.phase ≠ .crashed := fun hc => by simp [isOver, hc] at ho
  rw [printSnapshot, if_neg hc, if_pos hj]

theorem written_conclude {d : String} {fault : Option Fault} (hj : c.json = true)
    (ho : c.isOver = false) (hd : c.errand.Document d fault) (hw : outputs c.printed = [d]) :
    Written c.errand (c.conclude fault) := by
  simp only [conclude, ho, Bool.false_eq_true, if_false]
  exact ⟨rfl, hj, d, hd, hw⟩

theorem written_snapshot (clock : Timestamp) (hj : c.json = true) (ho : c.isOver = false)
    (he : ∀ wait, c.errand ≠ .start wait) (hw : outputs c.printed = []) :
    Written c.errand ((c.printSnapshot clock).conclude (c.printSnapshot clock).verdict) := by
  rw [printSnapshot_json clock hj ho]
  exact written_conclude hj ho (.snapshot he c.seen) (by simp [print, hw])

theorem written_finish (clock : Timestamp) (hj : c.json = true) (ho : c.isOver = false)
    (hu : c.Underway) : Written c.errand (c.finish clock) := by
  unfold finish
  simp only [drain_json clock hj]
  unfold Underway at hu
  split
  · next he =>
    simp only [he] at hu
    obtain ⟨o, hn, hw⟩ := hu
    rw [if_pos hj]
    exact written_conclude hj ho (he ▸ .outcome hn) hw
  · next he =>
    have hs : ∀ wait, c.errand ≠ .start wait := fun wait h => he wait h
    have hw : outputs c.printed = [] := by
      split at hu
      · next h => exact absurd h (hs _)
      · exact hu
    exact written_snapshot clock hj ho hs hw

theorem written_follow (clock : Timestamp) (hj : c.json = true) (ho : c.isOver = false)
    (hu : c.Underway) : Written c.errand (c.follow clock) := by
  unfold follow
  split
  · have hf : Written c.errand { c with phase := .following, backlog := [] } := ⟨rfl, hj, hu⟩
    simpa only [drain, hj, if_true] using hf
  · exact written_finish clock hj ho hu

theorem written_afterStart (clock : Timestamp) {wait : Bool} (hj : c.json = true)
    (ho : c.isOver = false) (he : c.errand = .start wait) (hw : outputs c.printed = [])
    (o : Outcome) : Written c.errand (c.afterStart clock wait o) := by
  unfold afterStart
  simp only [hj, if_true]
  generalize hd : c.print (.out o.toJson.pretty) = told
  have hw : outputs told.printed = [o.toJson.pretty] := by simp [← hd, print, hw]
  have hj : told.json = true := hd ▸ hj
  have ho : told.isOver = false := hd ▸ ho
  rw [show c.errand = told.errand from hd ▸ rfl]
  have he : told.errand = .start wait := hd ▸ he
  have going (hn : o.isError = false) :
      Written told.errand (if wait then told.follow clock else told.conclude none) := by
    cases wait with
    | true =>
      refine written_follow clock hj ho ?_
      simp only [Underway, he]
      exact ⟨o, hn, hw⟩
    | false => exact written_conclude hj ho (he ▸ .outcome hn) hw
  cases o with
  | error message status code id =>
    simp only [hj, if_true]
    exact written_conclude hj ho (he ▸ .refusal message status code id) hw
  | _ => exact going rfl

theorem written_answered (clock : Timestamp) (hj : c.json = true) (ha : c.phase = .asking)
    (hw : outputs c.printed = []) (r : Reply) : Written c.errand (c.answered clock r) := by
  have ho : c.isOver = false := by simp [isOver, ha]
  unfold answered
  split
  · next he => exact written_snapshot clock hj ho (by simp [he]) hw
  · next he => exact written_follow clock hj ho (by simp [Underway, he, hw])
  · next wait o he => exact written_afterStart clock hj ho he hw o
  · refine ⟨rfl, hj, ?_⟩
    simpa only [ha] using hw

theorem Written.see {e : Errand} (h : c.Written e) (clock : Timestamp) (s : Happening) :
    Written e (c.see clock s) := by
  obtain ⟨errand, json, phase, seen, backlog, printed⟩ := c
  obtain ⟨rfl, rfl, h⟩ := h
  cases phase with
  | asking =>
    cases s with
    | replied k r => exact written_answered clock rfl rfl h r
    | _ => exact ⟨rfl, rfl, h⟩
  | following =>
    cases s with
    | shown s =>
      simp only [Console.see]
      split
      · exact ⟨rfl, rfl, h⟩
      · exact written_finish clock rfl rfl h
    | stopped => exact written_finish clock rfl rfl h
    | _ => exact ⟨rfl, rfl, h⟩
  | resetting =>
    cases s with
    | replied k r => exact written_finish clock rfl rfl h
    | _ => exact ⟨rfl, rfl, h⟩
  | ended fault => cases s <;> exact ⟨rfl, rfl, h⟩
  | crashed => exact h.elim

theorem Written.interrupt {e : Errand} (h : c.Written e) : Written e c.interrupt := by
  obtain ⟨errand, json, phase, seen, backlog, printed⟩ := c
  obtain ⟨rfl, rfl, h⟩ := h
  cases phase with
  | following =>
    have hp : outputs (printed ++ [.err interrupted]) = outputs printed := by simp
    have hu : Underway { errand, json := true, phase := .resetting, seen, backlog
                         printed := printed ++ [.err interrupted] } := by
      simpa only [Underway, hp] using h
    exact ⟨rfl, rfl, hu⟩
  | _ => exact ⟨rfl, rfl, h⟩

theorem Written.hear {e : Errand} (h : c.Written e) (stimuli : List Stimulus) :
    Written e (c.hear stimuli) := by
  induction stimuli generalizing c with
  | nil => exact h
  | cons s rest ih =>
    refine ih ?_
    cases s with
    | seen clock s => exact h.see clock s
    | interrupted => exact h.interrupt

end Console

/-- Whatever reaches a console that prints JSON, and in whatever order: once it has ended, it has
written the document of its command and nothing else. -/
theorem Errand.document_of_ended (e : Errand) (stimuli : List Stimulus) {fault : Option Fault}
    (h : (Console.hear { errand := e, json := true } stimuli).phase = .ended fault) :
    ∃ d, e.Document d fault ∧
      outputs (Console.hear { errand := e, json := true } stimuli).printed = [d] := by
  have hw : Console.Written e { errand := e, json := true } := ⟨rfl, rfl, rfl⟩
  simpa only [h] using (hw.hear stimuli).2.2

theorem SettingsFile.untold_of_read {f : SettingsFile} {fault : Fault}
    (h : f.read = .error (.fault fault)) : fault.reported = false := by
  rw [read] at h
  cases hs : f.state with
  | absent =>
    simp only [hs] at h
    split at h
    · cases h
      rfl
    · cases h
  | unreadable cause =>
    simp only [hs] at h
    cases h
    rfl
  | contents bytes =>
    simp only [hs] at h
    split at h
    · cases h
      rfl
    · split at h
      · split at h
        · cases h
        · cases h
          rfl
      · split at h
        · cases h
        · cases h
          rfl
        · cases h

theorem ClientSettings.untold_of_check {c : ClientSettings} {fault : Fault}
    (h : c.check = .error fault) : fault.reported = false := by
  unfold check at h
  split at h
  · cases h
  · cases h
    rfl

theorem Program.untold_of_prepare {i : Invocation} {file : Option SettingsFile} {fault : Fault}
    (h : prepare i file = .error (.fault fault)) : fault.reported = false := by
  unfold prepare at h
  cases hr : Settings.resolve i.overrides file with
  | error stop =>
    rw [hr] at h
    obtain rfl := Except.error.inj h
    cases file with
    | none => cases hr
    | some f =>
      cases hf : f.read with
      | error stop =>
        simp only [Settings.resolve, hf, Except.map] at hr
        obtain rfl := Except.error.inj hr
        exact SettingsFile.untold_of_read hf
      | ok settings =>
        simp only [Settings.resolve, hf, Except.map] at hr
        cases hr
  | ok settings =>
    cases hc : settings.client.check with
    | ok =>
      rw [hr] at h
      simp only [bind, Except.bind, hc] at h
      cases h
    | error refused =>
      rw [hr] at h
      simp only [bind, Except.bind, hc] at h
      obtain rfl := Stop.fault.inj (Except.error.inj h)
      exact ClientSettings.untold_of_check hc

namespace Program

/-- How a program ends: what its command printed, and the fault of the command. A program that comes
to a value which it does not survive does not end in this way. -/
inductive Ends (i : Invocation) (file : Option SettingsFile) :
    List Line → Option Fault → Prop where
  | refused {fault : Fault} (h : prepare i file = .error (.fault fault)) :
      Ends i file [] (some fault)
  | unlisted {settings : Settings} {limit : UInt64} (h : prepare i file = .ok settings)
      (ht : i.task = .runs limit) (f : Failure) : Ends i file [] (some (listingFault f))
  | listed {settings : Settings} {limit : UInt64} (h : prepare i file = .ok settings)
      (ht : i.task = .runs limit) {clock : Timestamp} {l : Listing} {lines : List Line}
      (hl : listingLines? i.json clock l = some lines) : Ends i file lines none
  | carriedOut {settings : Settings} {e : Errand} (h : prepare i file = .ok settings)
      (ht : i.task = .errand e) {stimuli : List Stimulus} {fault : Option Fault}
      (hp : (Console.hear { errand := e, json := i.json } stimuli).phase = .ended fault) :
      Ends i file (Console.hear { errand := e, json := i.json } stimuli).printed fault

def faultDocument (f : Fault) : String := (Json.object [("error", .string f.line)]).compact

theorem read_faultDocument (f : Fault) :
    Json.ofBytes? (faultDocument f).toUTF8 = some (.object [("error", .string f.line)]) := by
  have hfits : (Json.object [("error", .string f.line)]).Fits 127 := by simp [Json.EntriesFit]
  rw [faultDocument, (Json.ofBytes?_print hfits).2]
  simp [Json.sortedEntries, Json.collect, Json.insertEntry]

theorem lastLines_untold {f : Fault} (h : f.reported = false) :
    lastLines true (some f) = [.out (faultDocument f)] := by
  simp [lastLines, Fault.document?, h, faultDocument]

theorem exitCode_ne_zero (fault : Option Fault) : exitCode fault ≠ 0 ↔ fault.isSome = true := by
  cases fault <;> simp [exitCode]

/-- With what its command printed and what is printed last, a program has written one document: that
of the command or, just when the command wrote none, that of the fault. -/
def OneDocument (i : Invocation) (printed : List Line) (fault : Option Fault) : Prop :=
  ∃ d, outputs (printed ++ lastLines i.json fault) = [d] ∧
    (outputs printed = [d] ∧ i.task.Document d fault ∨
      outputs printed = [] ∧ ∃ f, fault = some f ∧ d = faultDocument f)

variable {i : Invocation} {printed : List Line}

theorem oneDocument_of_document (hj : i.json = true) {d : String} {fault : Option Fault}
    (hd : i.task.Document d fault) (hw : outputs printed = [d]) : OneDocument i printed fault :=
  ⟨d, by rw [hj, hd.lastLines, List.append_nil, hw], .inl ⟨hw, hd⟩⟩

theorem oneDocument_of_untold (hj : i.json = true) {f : Fault} (hf : f.reported = false)
    (hw : outputs printed = []) : OneDocument i printed (some f) :=
  ⟨faultDocument f, by rw [hj, lastLines_untold hf, outputs_append, hw]; rfl,
    .inr ⟨hw, f, rfl, rfl⟩⟩

theorem OneDocument.read {fault : Option Fault} (h : OneDocument i printed fault) :
    ∃ d v, outputs (printed ++ lastLines i.json fault) = [d] ∧
      Json.ofBytes? d.toUTF8 = some v := by
  obtain ⟨d, hw, ⟨-, hd⟩ | ⟨-, f, -, rfl⟩⟩ := h
  · obtain ⟨v, -, hv⟩ := hd.read
    exact ⟨d, _, hw, hv⟩
  · exact ⟨_, _, hw, read_faultDocument f⟩

/-- In JSON a program writes one document, however it ends, and its exit code tells whether the
command failed. -/
theorem one_document {file : Option SettingsFile} {fault : Option Fault} (hj : i.json = true)
    (h : Ends i file printed fault) :
    OneDocument i printed fault ∧ (exitCode fault ≠ 0 ↔ fault.isSome = true) := by
  refine ⟨?_, exitCode_ne_zero fault⟩
  cases h with
  | refused h => exact oneDocument_of_untold hj (untold_of_prepare h) rfl
  | unlisted => exact oneDocument_of_untold hj rfl rfl
  | @listed _ limit _ ht _ l _ hl =>
    rw [hj] at hl
    obtain rfl := Option.some.inj hl
    exact oneDocument_of_document hj (ht ▸ .listing limit l) rfl
  | carriedOut _ ht hp =>
    rw [hj] at hp ⊢
    obtain ⟨d, hd, hw⟩ := Errand.document_of_ended _ _ hp
    exact oneDocument_of_document hj (ht ▸ Task.Document.errand hd) hw

theorem one_document_when_interrupted :
    let i : Invocation := { task := .errand .watch, json := true, verbosity := 0, overrides := {} }
    let clock : Timestamp := ⟨0, 0⟩
    let polling : Snapshot := { Session.snapshot {} with polling := true }
    let c := Console.hear { errand := .watch, json := true } [.seen clock (.shown polling),
      .seen clock (.replied 0 .done), .interrupted, .seen clock (.told (.notice .reset)),
      .seen clock (.shown (Session.snapshot {})), .seen clock (.replied 1 .done)]
    i.json = true ∧ Ends i none c.printed none ∧ OneDocument i c.printed none := by
  intro i clock polling c
  have h : Ends i none c.printed none := .carriedOut rfl rfl rfl
  exact ⟨rfl, h, (one_document rfl h).1⟩

end Program

namespace Simulation.Flow

theorem exists_hear_absorb (clock : Timestamp) (f : Flow) :
    ∃ stimuli, (f.absorb clock).console = f.console.hear stimuli :=
  ⟨f.world.trace.map fun h => .seen clock h.2, by
    simp only [Console.hear, List.foldl_map]
    rfl⟩

theorem exists_hear_interrupt (clock : Timestamp) (f : Flow) :
    ∃ stimuli, (f.interrupt clock).console = f.console.hear stimuli := by
  unfold interrupt
  simp only
  split
  · obtain ⟨stimuli, h⟩ := exists_hear_absorb clock
      { f with world := f.world.issue .reset, console := f.console.interrupt }
    exact ⟨.interrupted :: stimuli, h⟩
  · exact ⟨[.interrupted], rfl⟩

theorem exists_hear_runWith (clock : Timestamp) (fuel : Nat) (interruptAt : Option Nat)
    (limit : Nat) (f : Flow) :
    ∃ stimuli, (f.runWith clock fuel interruptAt limit).console = f.console.hear stimuli := by
  induction fuel generalizing interruptAt f with
  | zero => exact ⟨[], rfl⟩
  | succ fuel ih =>
    have onward {g : Flow} (hg : ∃ stimuli, g.console = f.console.hear stimuli)
        (at? : Option Nat) :
        ∃ stimuli, (g.runWith clock fuel at? limit).console = f.console.hear stimuli := by
      obtain ⟨before, hb⟩ := hg
      obtain ⟨after, ha⟩ := ih at? g
      exact ⟨before ++ after, by rw [ha, hb, Console.hear, Console.hear, Console.hear,
        List.foldl_append]⟩
    unfold runWith
    split
    · exact ⟨[], rfl⟩
    · simp only
      split
      · refine onward ?_ interruptAt
        exact exists_hear_absorb clock _
      · split
        · refine onward ?_ none
          exact exists_hear_interrupt clock _
        · exact ⟨[], rfl⟩

/-- A program whose command ends in the simulated world ends so. -/
theorem ends {i : Invocation} {file : Option SettingsFile} {settings : Settings} {e : Errand}
    (h : Program.prepare i file = .ok settings) (ht : i.task = .errand e) (clock : Timestamp)
    (server : Server) (interruptAt : Option Nat) (limit : Nat) {fault : Option Fault}
    (hp : ((start clock server settings.timing e i.json).run clock interruptAt limit).console.phase
      = .ended fault) :
    Program.Ends i file
      ((start clock server settings.timing e i.json).run clock interruptAt limit).console.printed
      fault := by
  obtain ⟨first, hf⟩ := exists_hear_absorb clock
    ⟨(World.start server settings.timing).issue e.command, { errand := e, json := i.json }, []⟩
  obtain ⟨rest, hr⟩ := exists_hear_runWith clock
    ((start clock server settings.timing e i.json).world.fuelUpTo limit + 2) interruptAt limit
    (start clock server settings.timing e i.json)
  have hc : ((start clock server settings.timing e i.json).run clock interruptAt limit).console =
      Console.hear { errand := e, json := i.json } (first ++ rest) := by
    rw [run, hr, Console.hear, Console.hear, List.foldl_append]
    exact congrArg (fun c => Console.hear c rest) hf
  rw [hc] at hp ⊢
  exact .carriedOut h ht hp

end Simulation.Flow

end RunWatch
