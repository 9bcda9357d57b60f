import RunWatch.Envelope
import RunWatch.Proofs.Printing
set_option autoImplicit false

namespace RunWatch

namespace Json

namespace Shape

variable {α : Type}

@[simp] theorem count_natural (n : UInt64) : count (.natural n) = .ok n := rfl

@[simp] theorem raw_eq (v : Json) : raw v = .ok v := rfl

@[simp] theorem variant_string (ofName : String → α) (s : String) :
    variant ofName (.string s) = .ok (ofName s) := rfl

@[simp] theorem optional_text_ofOption (o : Option String) :
    optional text (.ofOption .string o) = .ok o := by
  cases o <;> rfl

theorem list_map {shape : Shape α} {write : α → Json} (h : ∀ a, shape (write a) = .ok a)
    (as : List α) : list shape (.array (as.map write)) = .ok as := by
  simp only [list]
  induction as with
  | nil => rfl
  | cons a as ih =>
    simp [h, ih]
    rfl

theorem check_of_ok {shape : Shape α} {v : Json} {a : α} (h : shape v = .ok a) :
    check shape v = .ok () := by
  simp [check, h, Except.map]

end Shape

/-- Where a record of several fields keeps one: under its name, or at its place. -/
def field? (i : Nat) (name : String) : Json → Option Json
  | .object entries => lookup name entries
  | .array items => items[i]?
  | _ => none

theorem bind_eq_ok {ε α β : Type} {x : Except ε α} {f : α → Except ε β} {b : β} :
    (x >>= f) = .ok b ↔ ∃ a, x = .ok a ∧ f a = .ok b := by
  cases x <;> simp [bind, Except.bind]

theorem RecordShape.build_of_read {α : Type} {r : RecordShape α} {v : Json} {a : α}
    (h : r.read v = .ok a) : ∃ s : Source, s.value? = (fun i name => v.field? i name) ∧
      r.build s = .ok a := by
  unfold RecordShape.read at h
  split at h
  · obtain ⟨-, -, h⟩ := bind_eq_ok.1 h
    exact ⟨_, rfl, h⟩
  · obtain ⟨b, hb, h⟩ := bind_eq_ok.1 h
    split at h
    · cases h
    · cases h
      exact ⟨_, rfl, hb⟩
  · cases h

theorem Source.required_eq_ok {α : Type} {s : Source} {i : Nat} {name : String}
    {shape : Shape α} {a : α} (h : s.required i name shape = .ok a) :
    ∃ v, s.value? i name = some v ∧ shape v = .ok a := by
  unfold Source.required at h
  split at h
  · next v hv => exact ⟨v, hv, h⟩
  · cases h

theorem Source.withDefault_eq_ok {α : Type} {s : Source} {i : Nat} {name : String}
    {shape : Shape α} {d a : α} (h : s.withDefault i name shape d = .ok a) :
    (s.value? i name = none ∧ a = d) ∨ ∃ v, s.value? i name = some v ∧ shape v = .ok a := by
  unfold Source.withDefault at h
  split at h
  · next v hv => exact .inr ⟨v, hv, h⟩
  · next hv =>
    cases h
    exact .inl ⟨hv, rfl⟩

end Json

open Json Json.Shape

namespace Run

def value (r : Run) : Json := .object [
  ("end_dt", .ofOption .string r.endTime),
  ("failed_count", .natural r.failures),
  ("id", .natural r.id),
  ("new_publication_count", .natural r.newPublications),
  ("partial_count", .natural r.partials),
  ("scholar_count", .natural r.scholars),
  ("start_dt", .ofOption .string r.startTime),
  ("status", .string r.status.name),
  ("trigger_type", .string r.trigger.name)]

theorem sorted_toJson (r : Run) : r.toJson.sorted = r.value := by
  simp only [toJson, value, sorted_object, sortedEntries, sorted_natural, sorted_string,
    sorted_ofOption sorted_string, collect, List.foldl_cons, List.foldl_nil]
  simp (disch := decide) only [insertEntry_nil, insertEntry_of_lt, insertEntry_of_gt]

theorem read_value (r : Run) : shape.read r.value = .ok r := by
  simp [value, shape, RecordShape.read, RecordShape.checkEntries, check_of_ok (count_natural _),
    check_of_ok (variant_string _ _), check_of_ok (optional_text_ofOption _), Source.required,
    Source.withDefault, Source.ofEntries, lookup_cons]
  rfl

theorem fields_of_read {v : Json} {run : Run} (h : shape.read v = .ok run) :
    (∃ w, v.field? 1 "trigger_type" = some w ∧ variant Trigger.ofName w = .ok run.trigger) ∧
    (∃ w, v.field? 2 "status" = some w ∧ variant RunStatus.ofName w = .ok run.status) ∧
    ((v.field? 4 "end_dt" = none ∧ run.endTime = none) ∨
      ∃ w, v.field? 4 "end_dt" = some w ∧ optional text w = .ok run.endTime) := by
  obtain ⟨s, hs, h⟩ := RecordShape.build_of_read h
  simp only [shape, bind_eq_ok] at h
  obtain ⟨_, -, trigger, htrigger, status, hstatus, _, -, endTime, hend, _, -, _, -, _, -, _, -,
    hrun⟩ := h
  cases hrun
  have htrigger := Source.required_eq_ok htrigger
  have hstatus := Source.required_eq_ok hstatus
  have hend := Source.withDefault_eq_ok hend
  rw [hs] at htrigger hstatus hend
  exact ⟨htrigger, hstatus, hend⟩

theorem isSome_iff_of_optional {v : Json} {o : Option String} (h : optional text v = .ok o) :
    o.isSome ↔ ∃ t, v = .string t := by
  cases v with
  | null | string _ =>
    cases h
    simp
  | _ => cases h

theorem isTerminal_iff_of_read {v : Json} {run : Run} (h : shape.read v = .ok run)
    (hunknown : run.status = .unknown) :
    run.isTerminal ↔ ∃ t, v.field? 4 "end_dt" = some (.string t) := by
  have hterminal : run.isTerminal = run.endTime.isSome := by simp [isTerminal, hunknown]
  rw [hterminal]
  obtain ⟨-, -, ⟨hfield, hend⟩ | ⟨w, hfield, hend⟩⟩ := fields_of_read h
  · simp [hfield, hend]
  · simp [hfield, isSome_iff_of_optional hend]

end Run

theorem RunStatus.ofName_eq_unknown_iff (s : String) : ofName s = .unknown ↔
    s ∉ ["queued", "running", "success", "partial", "failed"] := by
  unfold ofName
  repeat' split
  all_goals simp_all

theorem Trigger.ofName_eq_other_iff (s : String) :
    ofName s = .other ↔ s ∉ ["manual", "scheduled"] := by
  unfold ofName
  repeat' split
  all_goals simp_all

namespace Listing

/-- A listing as a JSON value: its own entries are in the order of their keys, and the safety
payload is as it came. -/
def value (l : Listing) : Json := .object [
  ("runs", .array (l.runs.map Run.value)),
  ("safety_state", l.safety)]

theorem sorted_toJson (l : Listing) :
    l.toJson.sorted = { l with safety := l.safety.sorted }.value := by
  have hruns : sorted ∘ Run.toJson = Run.value := funext Run.sorted_toJson
  simp only [toJson, value, sorted_object, sortedEntries, sorted_array, List.map_map, hruns,
    collect, List.foldl_cons, List.foldl_nil]
  simp (disch := decide) only [insertEntry_nil, insertEntry_of_gt]

theorem read_value (l : Listing) : shape.read l.value = .ok l := by
  have hruns : list Run.shape.read (.array (l.runs.map Run.value)) = .ok l.runs :=
    list_map Run.read_value l.runs
  simp [value, shape, RecordShape.read, RecordShape.checkEntries, check_of_ok hruns,
    check_of_ok (raw_eq _), Source.withDefault, Source.ofEntries, lookup_cons, hruns]
  rfl

end Listing

namespace Started

def value (r : Started) : Json := .object [
  ("failed_count", .natural r.failures),
  ("idempotency_key", .string r.idempotencyKey),
  ("new_publication_count", .natural r.newPublications),
  ("partial_count", .natural r.partials),
  ("reused_existing_run", .bool r.reused),
  ("run_id", .natural r.runId),
  ("safety_state", r.safety),
  ("scholar_count", .natural r.scholars),
  ("status", .string r.status.name),
  ("succeeded_count", .natural r.successes)]

theorem sorted_toJson (r : Started) :
    r.toJson.sorted = { r with safety := r.safety.sorted }.value := by
  simp only [toJson, value, sorted_object, sortedEntries, sorted_natural, sorted_string,
    sorted_bool, collect, List.foldl_cons, List.foldl_nil]
  simp (disch := decide) only [insertEntry_nil, insertEntry_of_lt, insertEntry_of_gt]

theorem read_value (r : Started) : shape.read r.value = .ok r := by
  obtain ⟨_, status, _, _, _, _, _, _, _, _⟩ := r
  cases status <;> rfl

end Started

namespace Response

/-- A successful answer whose body is a value, or has it next to any meta data. -/
structure Carries (r : Response) (v : Json) : Prop where
  success : r.isSuccess
  holds : ofBytes? r.body = some v ∨
    ∃ m, ofBytes? r.body = some (.object [("data", v), ("meta", m)])

theorem decode_of_carries {α : Type} {shape : Shape α} {r : Response} {v : Json} {a : α}
    (h : r.Carries v) (hdata : v.member? "data" = none) (ha : shape v = .ok a) :
    r.decode shape = .ok a := by
  have hpayload : ∃ body, ofBytes? r.body = some body ∧ payload body = v := by
    obtain hbare | ⟨m, henveloped⟩ := h.holds
    · exact ⟨v, hbare, by simp [payload, hdata]⟩
    · exact ⟨_, henveloped, rfl⟩
  obtain ⟨body, hbody, hpayload⟩ := hpayload
  simp [decode, decodeParsed, h.success, hbody, hpayload, ha]

/-- A listing or an answer to a start is read as it was from what the program writes of it, with the
entries of the safety payload in the order of their keys. -/
theorem decode_toJson (r : Response) :
    (∀ l : Listing, r.Carries l.toJson.sorted →
      r.listing = .ok { l with safety := l.safety.sorted }) ∧
    (∀ s : Started, r.Carries s.toJson.sorted →
      r.started = .ok { s with safety := s.safety.sorted }) := by
  constructor
  · intro l h
    rw [l.sorted_toJson] at h
    exact decode_of_carries h rfl (Listing.read_value _)
  · intro s h
    rw [s.sorted_toJson] at h
    exact decode_of_carries h rfl (Started.read_value _)

theorem carries_of_print {r : Response} {v : Json} (hs : r.isSuccess) (hv : v.Fits 127)
    (hbody : r.body = v.pretty.toUTF8 ∨ r.body = v.compact.toUTF8) : r.Carries v.sorted := by
  obtain ⟨hpretty, hcompact⟩ := ofBytes?_print hv
  refine ⟨hs, .inl ?_⟩
  rcases hbody with hbody | hbody
  · rw [hbody, hpretty]
  · rw [hbody, hcompact]

/-- The same for the text that is printed, in either layout. -/
theorem decode_print {r : Response} (hs : r.isSuccess) :
    (∀ l : Listing, l.safety.Fits 126 →
      r.body = l.toJson.pretty.toUTF8 ∨ r.body = l.toJson.compact.toUTF8 →
      r.listing = .ok { l with safety := l.safety.sorted }) ∧
    (∀ s : Started, s.safety.Fits 126 →
      r.body = s.toJson.pretty.toUTF8 ∨ r.body = s.toJson.compact.toUTF8 →
      r.started = .ok { s with safety := s.safety.sorted }) := by
  obtain ⟨hlisting, hstarted⟩ := r.decode_toJson
  exact ⟨fun l hl hbody => hlisting l (carries_of_print hs (Listing.fits_toJson hl) hbody),
    fun s hl hbody => hstarted s (carries_of_print hs (Started.fits_toJson hl) hbody)⟩

/-- What a listing or an answer to a start is written as, by `sorted_toJson` its value, is read as
the same listing or answer. Every name that is not known is read as the status or the trigger that
stands for these; a run has both from their fields, and the end that is given decides whether a run
of such a status is over. -/
theorem decode_value :
    (∀ (r : Response) (l : Listing), r.Carries l.value → r.listing = .ok l) ∧
    (∀ (r : Response) (s : Started), r.Carries s.value → r.started = .ok s) ∧
    (∀ name, variant RunStatus.ofName (.string name) = .ok .unknown ↔
      name ∉ ["queued", "running", "success", "partial", "failed"]) ∧
    (∀ name, variant Trigger.ofName (.string name) = .ok .other ↔
      name ∉ ["manual", "scheduled"]) ∧
    (∀ (v : Json) (run : Run), Run.shape.read v = .ok run →
      (∃ w, v.field? 2 "status" = some w ∧ variant RunStatus.ofName w = .ok run.status) ∧
      (∃ w, v.field? 1 "trigger_type" = some w ∧ variant Trigger.ofName w = .ok run.trigger) ∧
      (run.status = .unknown →
        (run.isTerminal ↔ ∃ t, v.field? 4 "end_dt" = some (.string t)))) := by
  refine ⟨fun r l h => decode_of_carries h rfl l.read_value,
    fun r s h => decode_of_carries h rfl s.read_value, ?status, ?trigger, ?run⟩
  case status =>
    intro name
    rw [variant_string, Except.ok.injEq, RunStatus.ofName_eq_unknown_iff]
  case trigger =>
    intro name
    rw [variant_string, Except.ok.injEq, Trigger.ofName_eq_other_iff]
  case run =>
    intro v run h
    obtain ⟨htrigger, hstatus, -⟩ := Run.fields_of_read h
    exact ⟨hstatus, htrigger, Run.isTerminal_iff_of_read h⟩

def envelopedListing : Response where
  status := 201
  requestId := none
  body := "\x7b\"data\":\x7b\"runs\":[],\"safety_state\":[1]\x7d,\"meta\":3\x7d".toUTF8

def oddRun : Json := .array
  [.natural 7, .string "auto", .string "paused", .null, .string "late", .natural 5]

theorem decode_value_envelopedListing :
    envelopedListing.listing = .ok { runs := [], safety := .array [.natural 1] } ∧
    ∃ run, Run.shape.read oddRun = .ok run ∧ run.status = .unknown ∧ run.isTerminal := by
  obtain ⟨hlisting, -, -, -, hrun⟩ := decode_value
  refine ⟨hlisting _ _ ⟨rfl, .inr ⟨.natural 3, by rfl⟩⟩, _, rfl, rfl, ?_⟩
  exact ((hrun oddRun _ rfl).2.2 rfl).2 ⟨"late", rfl⟩

end Response

end RunWatch
