import RunWatch.Binary64.Basic
set_option autoImplicit false

namespace RunWatch

inductive Json where
  | null
  | bool (value : Bool)
  | natural (value : UInt64)
  /-- The negative whole number one below `-pred`. -/
  | negative (pred : Nat)
  | real (value : Binary64)
  | string (value : String)
  | array (items : List Json)
  | object (entries : List (String × Json))
  deriving Inhabited

namespace Json

abbrev Entries := List (String × Json)

def lookup (key : String) (entries : Entries) : Option Json :=
  (entries.find? fun e => e.1 == key).map (·.2)

def member? (key : String) : Json → Option Json
  | .object entries => lookup key entries
  | _ => none

def string? : Json → Option String
  | .string s => some s
  | _ => none

def entries? : Json → Option Entries
  | .object entries => some entries
  | _ => none

@[simp] theorem entries?_object (entries : Entries) :
    (object entries).entries? = some entries := rfl

def ofOption {α : Type} (f : α → Json) : Option α → Json
  | some a => f a
  | none => .null

@[simp] theorem lookup_nil (key : String) : lookup key [] = none := rfl

theorem lookup_cons (key k : String) (v : Json) (entries : Entries) :
    lookup key ((k, v) :: entries) = if k = key then some v else lookup key entries := by
  by_cases h : k = key <;> simp [lookup, h]

/-- Puts an entry where its key belongs in ascending order of code points; an entry that is
already there under the same key is replaced. -/
def insertEntry (key : String) (value : Json) : Entries → Entries
  | [] => [(key, value)]
  | (k, v) :: rest =>
    if k = key then (key, value) :: rest
    else if key < k then (key, value) :: (k, v) :: rest
    else (k, v) :: insertEntry key value rest

theorem insertEntry_nil (key : String) (value : Json) :
    insertEntry key value [] = [(key, value)] := rfl

theorem insertEntry_of_lt {key k : String} (h : key < k) (value v : Json) (rest : Entries) :
    insertEntry key value ((k, v) :: rest) = (key, value) :: (k, v) :: rest := by
  have hne : k ≠ key := by
    rintro rfl
    exact String.lt_irrefl k h
  simp [insertEntry, hne, h]

theorem insertEntry_of_gt {key k : String} (h : k < key) (value v : Json) (rest : Entries) :
    insertEntry key value ((k, v) :: rest) = (k, v) :: insertEntry key value rest := by
  have hne : k ≠ key := by
    rintro rfl
    exact String.lt_irrefl k h
  simp [insertEntry, hne, String.lt_asymm h]

/-- Entries in ascending order of keys, the last of those with one key. -/
def collect (entries : Entries) : Entries :=
  entries.foldl (fun done e => insertEntry e.1 e.2 done) []

theorem mem_of_mem_insertEntry {e : String × Json} {key : String} {value : Json}
    {entries : Entries} (h : e ∈ insertEntry key value entries) :
    e = (key, value) ∨ e ∈ entries := by
  induction entries with
  | nil => simpa [insertEntry] using h
  | cons first rest ih =>
    unfold insertEntry at h
    split at h
    · exact (List.mem_cons.1 h).imp_right (List.mem_cons_of_mem first)
    · split at h
      · exact List.mem_cons.1 h
      · rcases List.mem_cons.1 h with rfl | h
        · exact .inr List.mem_cons_self
        · exact (ih h).imp_right (List.mem_cons_of_mem first)

theorem mem_of_mem_collect {e : String × Json} {entries : Entries} (h : e ∈ collect entries) :
    e ∈ entries := by
  suffices ∀ done, e ∈ entries.foldl (fun done e => insertEntry e.1 e.2 done) done →
      e ∈ done ∨ e ∈ entries from (this [] h).resolve_left List.not_mem_nil
  clear h
  induction entries with
  | nil => exact fun _ h => .inl h
  | cons first rest ih =>
    intro done h
    rcases ih _ h with h | h
    · rcases mem_of_mem_insertEntry h with rfl | h
      · exact .inr List.mem_cons_self
      · exact .inl h
    · exact .inr (List.mem_cons_of_mem first h)

mutual

def sorted : Json → Json
  | .array items => .array (sortedItems items)
  | .object entries => .object (collect (sortedEntries entries))
  | v => v

def sortedItems : List Json → List Json
  | [] => []
  | v :: rest => v.sorted :: sortedItems rest

def sortedEntries : List (String × Json) → List (String × Json)
  | [] => []
  | (k, v) :: rest => (k, v.sorted) :: sortedEntries rest

end

@[simp] theorem sorted_null : null.sorted = null := by simp [sorted]

@[simp] theorem sorted_bool (b : Bool) : (bool b).sorted = bool b := by simp [sorted]

@[simp] theorem sorted_natural (n : UInt64) : (natural n).sorted = natural n := by simp [sorted]

@[simp] theorem sorted_string (s : String) : (string s).sorted = string s := by simp [sorted]

@[simp] theorem sorted_array (items : List Json) :
    (array items).sorted = array (items.map sorted) := by
  have hitems : sortedItems items = items.map sorted := by
    induction items with
    | nil => rfl
    | cons v rest ih => simp [sortedItems, ih]
  simp [sorted, hitems]

@[simp] theorem sorted_object (entries : Entries) :
    (object entries).sorted = object (collect (sortedEntries entries)) := by simp [sorted]

@[simp] theorem sorted_ofOption {α : Type} {f : α → Json} (h : ∀ a, (f a).sorted = f a)
    (o : Option α) : (ofOption f o).sorted = ofOption f o := by
  cases o <;> simp [ofOption, h]

end Json

end RunWatch
