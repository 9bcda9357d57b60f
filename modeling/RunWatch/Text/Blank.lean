set_option autoImplicit false

namespace RunWatch.Text

/-- The characters with the property `White_Space`. -/
def isBlank (c : Char) : Bool :=
  let n := c.toNat
  (9 ≤ n && n ≤ 13) || n == 0x20 || n == 0x85 || n == 0xA0 || n == 0x1680 ||
    (0x2000 ≤ n && n ≤ 0x200A) || n == 0x2028 || n == 0x2029 || n == 0x202F || n == 0x205F ||
    n == 0x3000

theorem isBlank_of_isDigit {c : Char} (h : c.isDigit = true) : isBlank c = false := by
  have hrange : 48 ≤ c.toNat ∧ c.toNat ≤ 57 := by
    simpa [Char.isDigit, UInt32.le_iff_toNat_le] using h
  simp only [isBlank, Bool.or_eq_false_iff, Bool.and_eq_false_iff, decide_eq_false_iff_not,
    beq_eq_false_iff_ne]
  omega

def dropBlanks (cs : List Char) : List Char := cs.dropWhile isBlank

def trimChars (cs : List Char) : List Char := (dropBlanks (dropBlanks cs).reverse).reverse

def trim (s : String) : String := String.ofList (trimChars s.toList)

@[simp] theorem toList_trim (s : String) : (trim s).toList = trimChars s.toList := by
  simp [trim]

theorem dropBlanks_idem (cs : List Char) : dropBlanks (dropBlanks cs) = dropBlanks cs := by
  induction cs with
  | nil => rfl
  | cons c cs ih =>
    by_cases h : isBlank c
    · simpa [dropBlanks, h] using ih
    · simp [dropBlanks, h]

theorem dropBlanks_length_le (cs : List Char) : (dropBlanks cs).length ≤ cs.length :=
  (List.dropWhile_sublist _).length_le

theorem dropBlanks_of_prefix {cs part : List Char} (h : part <+: dropBlanks cs) :
    dropBlanks part = part := by
  cases part with
  | nil => rfl
  | cons c part =>
    obtain ⟨rest, hrest⟩ := h
    have hidem := dropBlanks_idem cs
    rw [← hrest] at hidem
    by_cases hc : isBlank c
    · have hle := dropBlanks_length_le (part ++ rest)
      simp only [dropBlanks, List.cons_append, List.dropWhile_cons, hc, if_true] at hidem hle
      rw [hidem, List.length_cons] at hle
      omega
    · simp [dropBlanks, hc]

theorem dropBlanks_of_not_blank {cs : List Char} (h : ∀ c ∈ cs, isBlank c = false) :
    dropBlanks cs = cs := by
  cases cs with
  | nil => rfl
  | cons c cs => simp [dropBlanks, h c List.mem_cons_self]

/-- Of a text between blanks the blanks are taken off, and nothing else. -/
theorem trimChars_between {before cs after : List Char} (hb : ∀ c ∈ before, isBlank c = true)
    (hcs : ∀ c ∈ cs, isBlank c = false) (ha : ∀ c ∈ after, isBlank c = true) :
    trimChars (before ++ cs ++ after) = cs := by
  have hafter : dropBlanks (after.reverse ++ cs.reverse) = cs.reverse := by
    rw [dropBlanks, List.dropWhile_append_of_pos (by simpa using ha)]
    exact dropBlanks_of_not_blank (by simpa using hcs)
  have hbefore : dropBlanks (before ++ (cs ++ after)) = dropBlanks (cs ++ after) :=
    List.dropWhile_append_of_pos hb
  rw [trimChars, List.append_assoc, hbefore]
  cases cs with
  | nil =>
    have hnil : dropBlanks (after ++ []) = [] := List.dropWhile_append_of_pos ha
    rw [List.append_nil] at hnil
    rw [List.nil_append, hnil]
    rfl
  | cons c cs =>
    have hkept : dropBlanks (c :: cs ++ after) = c :: cs ++ after := by
      simp [dropBlanks, hcs c List.mem_cons_self]
    rw [hkept, List.reverse_append, hafter, List.reverse_reverse]

theorem trimChars_idem (cs : List Char) : trimChars (trimChars cs) = trimChars cs := by
  have hprefix : trimChars cs <+: dropBlanks cs := by
    rw [trimChars, ← List.reverse_suffix, List.reverse_reverse]
    exact List.dropWhile_suffix _
  rw [trimChars, dropBlanks_of_prefix hprefix]
  simp [trimChars, dropBlanks_idem]

theorem trim_idem (s : String) : trim (trim s) = trim s := by
  simp [trim, trimChars_idem]

end RunWatch.Text
