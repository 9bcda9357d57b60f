import RunWatch.Envelope
set_option autoImplicit false

namespace RunWatch

/-- What stands under a key, under a key in that, and so on. -/
def Json.at? : List String → Json → Option Json
  | [], v => some v
  | key :: keys, v => (v.member? key).bind (at? keys)

namespace Response

def field? (r : Response) (keys : List String) : Option Json :=
  (Json.ofBytes? r.body).bind (Json.at? keys)

/-- The payload reads as `a`: it stands under `data`, or is the whole body when no such key does. -/
def Delivers {α : Type} (r : Response) (shape : Json.Shape α) (a : α) : Prop :=
  ∃ v, shape v = .ok a ∧
    (r.field? ["data"] = some v ∨ r.field? ["data"] = none ∧ r.field? [] = some v)

/-- The body names a code: a text that is not blank, the blanks around it left out. -/
def HasCode (r : Response) (code : String) : Prop :=
  ∃ s, r.field? ["error", "code"] = some (.string s) ∧ Text.trim s = code ∧ code ≠ ""

def HasRun (r : Response) (id : UInt64) : Prop :=
  r.field? ["error", "details", "run_id"] = some (.natural id) ∨
    ∃ s, r.field? ["error", "details", "run_id"] = some (.string s) ∧
      Text.word? (Text.trim s).toList = some id

def HasRequestId (r : Response) (id : Option String) : Prop :=
  (∃ s, r.field? ["meta", "request_id"] = some (.string s) ∧ id = some s) ∨
    (∀ s, r.field? ["meta", "request_id"] ≠ some (.string s)) ∧ id = r.requestId

/-- The body names a conflict, or names nothing and the status stands for one. -/
def IsConflict (r : Response) : Prop :=
  r.HasCode "run_in_progress" ∨ (∀ code, ¬ r.HasCode code) ∧ r.status = 409

def IsRefusal (r : Response) (code : String) : Prop :=
  (r.HasCode code ∧ code ≠ "run_in_progress" ∧ code ≠ "scrape_cooldown_active") ∨
    (∀ c, ¬ r.HasCode c) ∧ r.status ≠ 409 ∧ code = "http_error"

section Places

variable {r : Response}

theorem field?_cons (key : String) (keys : List String) : r.field? (key :: keys) =
    ((Json.ofBytes? r.body).bind (Json.member? key)).bind (Json.at? keys) := by
  simp only [field?, Json.at?, Option.bind_assoc]

theorem at?_cons (key : String) (keys : List String) (v : Option Json) :
    v.bind (Json.at? (key :: keys)) = (v.bind (Json.member? key)).bind (Json.at? keys) := by
  simp only [Json.at?, Option.bind_assoc]

theorem at?_nil (v : Option Json) : v.bind (Json.at? []) = v := by
  cases v <;> rfl

theorem string?_eq_some {v : Json} {s : String} : v.string? = some s ↔ v = .string s := by
  cases v <;> simp [Json.string?]

theorem trimChars_eq_nil {s : String} : Text.trimChars s.toList = [] ↔ Text.trim s = "" := by
  rw [← Text.toList_trim]
  exact String.toList_eq_nil_iff

theorem bind_string?_eq_some {v : Option Json} {s : String} :
    v.bind Json.string? = some s ↔ v = some (.string s) := by
  simp [Option.bind_eq_some_iff, string?_eq_some]

theorem code?_eq_some {code : String} :
    Failure.code? ((Json.ofBytes? r.body).bind (Json.member? "error")) = some code ↔
      r.HasCode code := by
  simp only [HasCode, field?_cons, at?_cons, at?_nil, Failure.code?, trimChars_eq_nil]
  rw [Option.bind_eq_some_iff]
  simp only [bind_string?_eq_some]
  refine exists_congr fun s => and_congr_right fun _ => ?_
  split
  · next hs => simp_all
  · next hs =>
    rw [Option.some_inj]
    exact ⟨fun h => ⟨h, h ▸ hs⟩, fun h => h.1⟩

theorem code?_eq_none :
    Failure.code? ((Json.ofBytes? r.body).bind (Json.member? "error")) = none ↔
      ∀ code, ¬ r.HasCode code := by
  simp only [← code?_eq_some, Option.eq_none_iff_forall_ne_some, ne_eq]

theorem id?_eq_some {v : Json} {id : UInt64} : Failure.id? v = some id ↔
    v = .natural id ∨ ∃ s, v = .string s ∧ Text.word? (Text.trim s).toList = some id := by
  cases v <;> simp [Failure.id?]

theorem runId_eq_some {id : UInt64} :
    (r.field? ["error", "details", "run_id"]).bind Failure.id? = some id ↔ r.HasRun id := by
  rw [HasRun, Option.bind_eq_some_iff]
  simp only [id?_eq_some]
  constructor
  · rintro ⟨v, hv, rfl | ⟨s, rfl, hs⟩⟩
    · exact .inl hv
    · exact .inr ⟨s, hv, hs⟩
  · rintro (hv | ⟨s, hv, hs⟩)
    · exact ⟨_, hv, .inl rfl⟩
    · exact ⟨_, hv, .inr ⟨s, rfl, hs⟩⟩

theorem requestIdOf_eq {id : Option String} :
    requestIdOf (Json.ofBytes? r.body) r.requestId = id ↔ r.HasRequestId id := by
  simp only [HasRequestId, requestIdOf, field?_cons, at?_cons, at?_nil, ne_eq,
    ← bind_string?_eq_some]
  cases (((Json.ofBytes? r.body).bind (Json.member? "meta")).bind
    (Json.member? "request_id")).bind Json.string? <;> simp [eq_comm]

end Places

section Kinds

variable {α : Type} {shape : Json.Shape α} {r : Response}

theorem delivers_iff {a : α} : r.Delivers shape a ↔
    ∃ body, Json.ofBytes? r.body = some body ∧ shape (payload body) = .ok a := by
  have hdata : r.field? ["data"] = (Json.ofBytes? r.body).bind (Json.member? "data") := by
    rw [field?_cons, at?_nil]
  have hbody : r.field? [] = Json.ofBytes? r.body := at?_nil _
  rw [Delivers, hdata, hbody]
  cases Json.ofBytes? r.body with
  | none => simp
  | some body =>
    cases hv : body.member? "data" <;> simp [payload, hv]

theorem decode_of_success (shape : Json.Shape α) (h : r.isSuccess) :
    (∃ a, r.decode shape = .ok a ∧ ∀ b, r.Delivers shape b ↔ a = b) ∨
    ∃ m, r.decode shape = .error (.transport m) ∧ ∀ a, ¬ r.Delivers shape a := by
  simp only [delivers_iff, decode, decodeParsed, h, if_true]
  cases Json.ofBytes? r.body with
  | none => exact .inr ⟨_, rfl, by simp⟩
  | some body =>
    cases hs : shape (payload body) with
    | ok a => exact .inl ⟨a, by simp [hs]⟩
    | error e => exact .inr ⟨"Unexpected response shape: " ++ e.message, by simp [hs]⟩

theorem decode_of_not_success (h : ¬ r.isSuccess) : r.decode shape =
    .error (.ofBody r.status (Json.ofBytes? r.body)
      (requestIdOf (Json.ofBytes? r.body) r.requestId)) := by
  simp [decode, decodeParsed, h]

theorem isSuccess_iff : r.isSuccess ↔ r.status / 100 = 2 := by
  simp only [isSuccess, Bool.and_eq_true, decide_eq_true_eq]
  omega

/-- The failure that is made of a body, by the code that the body names. -/
theorem ofBody_cases (r : Response) (id : Option String) :
    (r.IsConflict ∧ ∃ m, Failure.ofBody r.status (Json.ofBytes? r.body) id =
      .conflict ((r.field? ["error", "details", "run_id"]).bind Failure.id?) m id) ∨
    (r.HasCode "scrape_cooldown_active" ∧ ∃ m, Failure.ofBody r.status (Json.ofBytes? r.body) id =
      .cooldown ((r.field? ["error", "details", "safety_state"]).getD .null) m id) ∨
    ∃ code, r.IsRefusal code ∧ ∃ m, Failure.ofBody r.status (Json.ofBytes? r.body) id =
      .refused r.status code m id := by
  simp only [field?_cons, at?_cons, at?_nil, Failure.ofBody]
  split
  · next hnone =>
    have hnone := code?_eq_none.1 hnone
    split
    · next h409 => exact .inl ⟨.inr ⟨hnone, h409⟩, _, rfl⟩
    · next h409 => exact .inr (.inr ⟨_, .inr ⟨hnone, h409, rfl⟩, _, rfl⟩)
  · next code hcode =>
    have hcode := code?_eq_some.1 hcode
    split
    · next hconflict =>
      rw [hconflict] at hcode
      exact .inl ⟨.inl hcode, _, rfl⟩
    · next hconflict =>
      split
      · next hcooldown =>
        rw [hcooldown] at hcode
        exact .inr (.inl ⟨hcode, _, rfl⟩)
      · next hcooldown =>
        exact .inr (.inr ⟨code, .inl ⟨hcode, hconflict, hcooldown⟩, _, rfl⟩)

theorem HasCode.unique {c d : String} (hc : r.HasCode c) (hd : r.HasCode d) : c = d :=
  Option.some.inj ((code?_eq_some.2 hc).symm.trans (code?_eq_some.2 hd))

theorem IsConflict.not_cooldown (h : r.IsConflict) : ¬ r.HasCode "scrape_cooldown_active" := by
  intro hcode
  rcases h with hconflict | ⟨hnone, -⟩
  · exact absurd (hconflict.unique hcode) (by decide)
  · exact hnone _ hcode

theorem IsRefusal.not_cooldown {code : String} (h : r.IsRefusal code) :
    ¬ r.HasCode "scrape_cooldown_active" := by
  intro hcooldown
  rcases h with ⟨hcode, -, hne⟩ | ⟨hnone, -⟩
  · exact hne (hcode.unique hcooldown)
  · exact hnone _ hcooldown

theorem IsRefusal.not_conflict {code : String} (h : r.IsRefusal code) : ¬ r.IsConflict := by
  rintro (hconflict | ⟨hnone, h409⟩)
  · rcases h with ⟨hcode, hne, -⟩ | ⟨hnone, -⟩
    · exact hne (hcode.unique hconflict)
    · exact hnone _ hconflict
  · rcases h with ⟨hcode, -⟩ | ⟨-, hne, -⟩
    · exact hnone _ hcode
    · exact hne h409

theorem IsRefusal.unique {c d : String} (hc : r.IsRefusal c) (hd : r.IsRefusal d) : c = d := by
  rcases hc with ⟨hcode, -⟩ | ⟨hnone, -, rfl⟩ <;> rcases hd with ⟨hcode', -⟩ | ⟨hnone', -, rfl⟩
  · exact hcode.unique hcode'
  · exact absurd hcode (hnone' _)
  · exact absurd hcode' (hnone _)
  · rfl

theorem decode_of_failure (shape : Json.Shape α) (h : ¬ r.isSuccess) :
    ∃ f, r.decode shape = .error f ∧
    (∀ run id, (∃ m, f = .conflict run m id) ↔
      r.IsConflict ∧ (∀ n, run = some n ↔ r.HasRun n) ∧ r.HasRequestId id) ∧
    (∀ safety id, (∃ m, f = .cooldown safety m id) ↔ r.HasCode "scrape_cooldown_active" ∧
      safety = (r.field? ["error", "details", "safety_state"]).getD .null ∧ r.HasRequestId id) ∧
    (∀ status code id, (∃ m, f = .refused status code m id) ↔
      r.IsRefusal code ∧ status = r.status ∧ r.HasRequestId id) ∧
    ∀ m, f ≠ .transport m := by
  refine ⟨_, decode_of_not_success h, ?_⟩
  have hrun (run : Option UInt64) :
      (r.field? ["error", "details", "run_id"]).bind Failure.id? = run ↔
        ∀ n, run = some n ↔ r.HasRun n := by
    simp only [← runId_eq_some]
    constructor
    · rintro rfl n
      rfl
    · intro hrun
      exact Option.ext fun n => (hrun n).symm
  have hid := @requestIdOf_eq r
  simp only [← hrun, ← hid]
  generalize requestIdOf (Json.ofBytes? r.body) r.requestId = requestId
  obtain ⟨hconflict, m, hm⟩ | ⟨hcooldown, m, hm⟩ | ⟨code, hrefusal, m, hm⟩ :=
    ofBody_cases r requestId
  · have hcooldown := hconflict.not_cooldown
    have hrefusal (code : String) : ¬ r.IsRefusal code := fun h => h.not_conflict hconflict
    simp [hm, hconflict, hcooldown, hrefusal]
  · have hconflict : ¬ r.IsConflict := fun h => h.not_cooldown hcooldown
    have hrefusal (code : String) : ¬ r.IsRefusal code := fun h => h.not_cooldown hcooldown
    simp [hm, hconflict, hcooldown, hrefusal, eq_comm]
  · have hcooldown := hrefusal.not_cooldown
    have hconflict := hrefusal.not_conflict
    have hcode (c : String) : code = c ↔ r.IsRefusal c :=
      ⟨fun h => h ▸ hrefusal, hrefusal.unique⟩
    simp [hm, hconflict, hcooldown, ← hcode, eq_comm, and_left_comm]

end Kinds

/-- Every answer, to a query and to a start alike, is told apart by its status, by whether its
payload reads, and by the code in its body. The run, the safety payload and the identifier of the
request are what the body says they are. -/
theorem decode_classifies {α : Type} (shape : Json.Shape α) (r : Response) :
    (∀ a, r.decode shape = .ok a ↔ r.status / 100 = 2 ∧ r.Delivers shape a) ∧
    ((∃ m, r.decode shape = .error (.transport m)) ↔
      r.status / 100 = 2 ∧ ∀ a, ¬ r.Delivers shape a) ∧
    (∀ run id, (∃ m, r.decode shape = .error (.conflict run m id)) ↔
      r.status / 100 ≠ 2 ∧ r.IsConflict ∧ (∀ n, run = some n ↔ r.HasRun n) ∧
        r.HasRequestId id) ∧
    (∀ safety id, (∃ m, r.decode shape = .error (.cooldown safety m id)) ↔
      r.status / 100 ≠ 2 ∧ r.HasCode "scrape_cooldown_active" ∧
        safety = (r.field? ["error", "details", "safety_state"]).getD .null ∧
        r.HasRequestId id) ∧
    (∀ status code id, (∃ m, r.decode shape = .error (.refused status code m id)) ↔
      r.status / 100 ≠ 2 ∧ r.IsRefusal code ∧ status = r.status ∧ r.HasRequestId id) := by
  rw [ne_eq, ← isSuccess_iff]
  by_cases h : r.isSuccess
  · obtain ⟨a, ha, hdelivers⟩ | ⟨m, hm, hnone⟩ := decode_of_success shape h
    · simp [h, ha, hdelivers]
    · simp [h, hm, hnone]
  · obtain ⟨f, hf, hconflict, hcooldown, hrefused, htransport⟩ :=
      decode_of_failure shape h
    simp [hf, h, hconflict, hcooldown, hrefused, htransport]

end Response

end RunWatch
