import RunWatch.Envelope
import RunWatch.Proofs.Written
import RunWatch.Summary
set_option autoImplicit false

namespace RunWatch

namespace Timestamp

def endOfYears : Int := (⟨lastYear + 1, 1, 1⟩ : Date).dayNumber * secondsPerDay

/-- A text that is a timestamp, of an instant beyond the last year. -/
def Beyond (text : String) : Prop := ∃ t ∈ read? text, endOfYears ≤ t.seconds

instance (text : String) : Decidable (Beyond text) :=
  inferInstanceAs (Decidable (∃ t ∈ read? text, endOfYears ≤ t.seconds))

def IsMinute (t : Timestamp) (s : String) : Prop :=
  ∃ (d : Date) (hour minute : Nat), d.isValid = true ∧ hour < 24 ∧ minute < 60 ∧
    d.dayNumber * secondsPerDay + hour * 3600 + minute * 60 = t.seconds - t.seconds % 60 ∧
    s = dateText d ++ " " ++ Text.padded 2 hour ++ ":" ++ Text.padded 2 minute ++ " UTC"

inductive Displays : Option String → Option String → Prop where
  | dash : Displays none (some "-")
  | minute {text : String} {t : Timestamp} {s : String} (h : read? text = some t)
      (hlt : t.seconds < endOfYears) (hs : t.IsMinute s) : Displays (some text) (some s)
  | beyond {text : String} (h : Beyond text) : Displays (some text) none
  | verbatim {text : String} (h : read? text = none) : Displays (some text) (some text)

theorem year_le_lastYear_iff (t : Timestamp) :
    t.date.year ≤ lastYear ↔ t.seconds < endOfYears := by
  rw [← Int.lt_add_one_iff, date, Date.year_ofDayNumber_lt_iff]
  simp only [endOfYears, secondsPerDay]
  omega

theorem isMinute_minuteText {t : Timestamp} (h : t.seconds < endOfYears) :
    ∃ s, t.minuteText? = some s ∧ t.IsMinute s := by
  refine ⟨_, if_pos ((year_le_lastYear_iff t).2 h), t.date, _, _, Date.isValid_ofDayNumber _, ?_,
    ?_, ?_, rfl⟩
  · simp only [secondsPerDay]
    omega
  · omega
  · simp only [date, Date.dayNumber_ofDayNumber, secondsPerDay]
    omega

theorem displays (time : Option String) : Displays time (display? time) := by
  cases time with
  | none => exact .dash
  | some text =>
    cases ht : read? text with
    | none =>
      have hdisplay : display? (some text) = some text := by simp [display?, ht]
      rw [hdisplay]
      exact .verbatim ht
    | some t =>
      have hdisplay : display? (some text) = t.minuteText? := by simp [display?, ht]
      rw [hdisplay]
      rcases Int.lt_or_le t.seconds endOfYears with hlt | hle
      · obtain ⟨s, hs, hminute⟩ := isMinute_minuteText hlt
        rw [hs]
        exact .minute ht hlt hminute
      · have hyear : ¬ t.date.year ≤ lastYear := by
          rw [year_le_lastYear_iff]
          omega
        rw [minuteText?, if_neg hyear]
        exact .beyond ⟨t, ht, hle⟩

theorem Displays.eq_none_iff {time shown : Option String} (h : Displays time shown) :
    shown = none ↔ ∃ text ∈ time, Beyond text := by
  cases h with
  | dash => simp
  | minute h hlt =>
    have hnot : ¬ endOfYears ≤ _ := Int.not_le.2 hlt
    simp [Beyond, h, hnot]
  | beyond h => simp [h]
  | verbatim h => simp [Beyond, h]

theorem eq_lastDay {d : Date} (hvalid : d.isValid = true) (hyear : d.year ≤ lastYear)
    (h : endOfYears < (d.dayNumber + 2) * secondsPerDay) : d = ⟨9999, 12, 31⟩ := by
  have hlast : endOfYears = 3652365 * secondsPerDay := by decide
  have hlt := dayNumber_lt_of_year_le hvalid hyear
  have heq : d.dayNumber = 3652364 := by
    rw [hlast] at h
    simp only [secondsPerDay] at h
    omega
  rw [← Date.ofDayNumber_dayNumber hvalid, heq]
  decide

/-- A text that is a timestamp beyond the last year begins with the last day of that year. -/
theorem lastDay_of_beyond {text : String} (h : Beyond text) :
    "9999-12-31".toList <+: text.toList := by
  obtain ⟨t, ht, hle⟩ := h
  obtain ⟨w, ⟨hvalid, hchars⟩, rfl⟩ := read?_eq_some_iff.1 ht
  have hdate := eq_lastDay hvalid.date hvalid.year.2 (Int.lt_of_le_of_lt hle hvalid.instant_lt)
  rw [← hchars, Written.chars, hdate]
  exact ⟨_, rfl⟩

end Timestamp

open Timestamp

namespace Run

def times (r : Run) : List String := r.startTime.toList ++ r.endTime.toList

def Tells (r : Run) (line : String) : Prop :=
  ∃ (before started finished after : String), Displays r.startTime (some started) ∧
    Displays r.endTime (some finished) ∧
    line = before ++ " | started " ++ started ++ " | finished " ++ finished ++ after

theorem line?_eq_none_iff (r : Run) : r.line? = none ↔ ∃ text ∈ r.times, Beyond text := by
  have hnone : r.line? = none ↔ display? r.startTime = none ∨ display? r.endTime = none := by
    unfold line?
    cases display? r.startTime <;> cases display? r.endTime <;> simp
  rw [hnone, (displays r.startTime).eq_none_iff, (displays r.endTime).eq_none_iff]
  simp [times, or_and_right, exists_or]

theorem tells_of_line? {r : Run} {line : String} (h : r.line? = some line) : r.Tells line := by
  simp only [line?, Option.bind_eq_bind, Option.bind_eq_some_iff] at h
  obtain ⟨started, hstarted, finished, hfinished, h⟩ := h
  refine ⟨"Run #" ++ toString r.id.toNat ++ " [" ++ r.trigger.name ++ "] " ++ r.status.name,
    started, finished, " | scholars " ++ toString r.scholars.toNat ++ " | new pubs " ++
      toString r.newPublications.toNat ++ " | failed " ++ toString r.failures.toNat ++
      " | partial " ++ toString r.partials.toNat, hstarted ▸ displays r.startTime,
    hfinished ▸ displays r.endTime, ?_⟩
  rw [← Option.some.inj h]
  simp only [String.append_assoc]

end Run

namespace Snapshot

theorem lines?_eq_none_iff (s : Snapshot) (remaining : Binary64) :
    s.lines? remaining = none ↔ ∃ r ∈ s.latestRun, ∃ text ∈ r.times, Beyond text := by
  unfold lines? runLine?
  cases s.latestRun with
  | none => simp
  | some r => simp [Run.line?_eq_none_iff]

end Snapshot

theorem Event.line?_eq_none_iff (e : Event) (now : Timestamp) :
    e.line? now = none ↔ ∃ r, e = .runUpdated r ∧ ∃ text ∈ r.times, Beyond text := by
  cases e <;> simp [Event.line?, Run.line?_eq_none_iff]

/-- Every time is displayed, as a dash, as its minute or as it stands, unless it is a timestamp
beyond the last year. For such a time, and for no other, there is no line about the run, none that
announces it, and none about a session that holds it. Only texts that begin with the last day of the
last year are such timestamps. -/
theorem lines_missing_only_beyond_last_year (time : Option String) (r : Run) (s : Snapshot)
    (remaining : Binary64) (now : Timestamp) (e : Event) :
    (Displays time (display? time) ∧
      ∀ text ∈ time, Beyond text → "9999-12-31".toList <+: text.toList) ∧
    ((r.line? = none ↔ ∃ text ∈ r.times, Beyond text) ∧ ∀ line ∈ r.line?, r.Tells line) ∧
    ((s.lines? remaining = none ↔ ∃ r ∈ s.latestRun, ∃ text ∈ r.times, Beyond text) ∧
      ∀ lines ∈ s.lines? remaining, lines.head? = s.runLine?) ∧
    (e.line? now = none ↔ ∃ r, e = .runUpdated r ∧ ∃ text ∈ r.times, Beyond text) := by
  refine ⟨⟨displays time, fun _ _ => lastDay_of_beyond⟩,
    ⟨r.line?_eq_none_iff, fun _ => Run.tells_of_line?⟩,
    ⟨s.lines?_eq_none_iff remaining, fun lines h => ?_⟩, e.line?_eq_none_iff now⟩
  obtain ⟨line, hline, rfl⟩ := Option.map_eq_some_iff.1 h
  exact hline.symm

/-- A listing with a run that ends half an hour before the years do, an hour behind UTC. -/
def lateListing : Response where
  status := 200
  requestId := none
  body := ("\x7b\"runs\":[\x7b\"id\":7,\"trigger_type\":\"manual\",\"status\":\"success\"," ++
    "\"end_dt\":\"9999-12-31T23:30:00-01:00\"\x7d]\x7d").toUTF8

def lateRun : Run where
  id := 7
  trigger := .manual
  status := .success
  startTime := none
  endTime := some "9999-12-31T23:30:00-01:00"
  scholars := 0
  newPublications := 0
  failures := 0
  partials := 0

def lateSnapshot : Snapshot where
  latestRun := some lateRun
  safety := {}
  submitting := false
  polling := false
  likelyRunning := false
  runActive := false
  canStart := true
  lastError := none

theorem lines_missing_of_lateRun : lateRun.line? = none ∧ lateSnapshot.lines? .zero = none ∧
    "9999-12-31".toList <+: "9999-12-31T23:30:00-01:00".toList := by
  have hbeyond : Beyond "9999-12-31T23:30:00-01:00" := by decide +kernel
  have hlate : ∃ text ∈ lateRun.times, Beyond text := ⟨_, List.mem_singleton_self _, hbeyond⟩
  obtain ⟨⟨-, hday⟩, ⟨hline, -⟩, ⟨hlines, -⟩, -⟩ :=
    lines_missing_only_beyond_last_year lateRun.endTime lateRun lateSnapshot .zero ⟨0, 0⟩
      (.runUpdated lateRun)
  exact ⟨hline.2 hlate, hlines.2 ⟨lateRun, rfl, hlate⟩, hday _ rfl hbeyond⟩

theorem decoded_run_has_no_line :
    lateListing.listing.toOption.bind (·.runs.head?) = some lateRun ∧ lateRun.line? = none ∧
      lateSnapshot.lines? .zero = none := by
  refine ⟨?_, ?_, ?_⟩ <;> decide +kernel

end RunWatch
