set_option autoImplicit false

namespace RunWatch.Text

def splitOn (isSep : Char → Bool) : List Char → List (List Char)
  | [] => [[]]
  | c :: cs =>
    if isSep c then [] :: splitOn isSep cs
    else
      match splitOn isSep cs with
      | part :: parts => (c :: part) :: parts
      | [] => [[c]]

theorem splitOn_ne_nil (isSep : Char → Bool) (cs : List Char) : splitOn isSep cs ≠ [] := by
  cases cs with
  | nil => simp [splitOn]
  | cons c cs =>
    unfold splitOn
    split
    · simp
    · split <;> simp

theorem intercalate_splitOn (sep : Char) (cs : List Char) :
    [sep].intercalate (splitOn (· == sep) cs) = cs := by
  induction cs with
  | nil => simp [splitOn]
  | cons c cs ih =>
    unfold splitOn
    cases hs : splitOn (· == sep) cs with
    | nil => exact absurd hs (splitOn_ne_nil _ _)
    | cons part parts =>
      rw [hs] at ih
      by_cases h : c = sep
      · subst h
        cases parts <;> simp_all [List.intercalate]
      · cases parts <;> simp_all [List.intercalate]

variable {isSep : Char → Bool} {part : List Char}

theorem splitOn_of_not_sep (h : ∀ c ∈ part, isSep c = false) : splitOn isSep part = [part] := by
  induction part with
  | nil => rfl
  | cons c part ih =>
    have hc := h c List.mem_cons_self
    have hpart := ih fun d hd => h d (List.mem_cons_of_mem c hd)
    simp [splitOn, hc, hpart]

theorem splitOn_append_sep (h : ∀ c ∈ part, isSep c = false) {sep : Char}
    (hsep : isSep sep = true) (rest : List Char) :
    splitOn isSep (part ++ sep :: rest) = part :: splitOn isSep rest := by
  induction part with
  | nil => simp [splitOn, hsep]
  | cons c part ih =>
    have hc := h c List.mem_cons_self
    have hpart := ih fun d hd => h d (List.mem_cons_of_mem c hd)
    simp [splitOn, hc, hpart]

end RunWatch.Text
