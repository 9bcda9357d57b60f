import RunWatch.Json.Reader
import RunWatch.Outcome
import RunWatch.Proofs.Digits
import RunWatch.Session
set_option autoImplicit false

namespace RunWatch

namespace Json

mutual

/-- A value whose containers nest no deeper than there is room and whose numbers are whole and in
the range of 64 bits. -/
def Fits : Json → (room : Nat) → Prop
  | .real _, _ => False
  | .negative k, _ => k < UInt64.size / 2
  | .array items, room => 0 < room ∧ ItemsFit items (room - 1)
  | .object entries, room => 0 < room ∧ EntriesFit entries (room - 1)
  | _, _ => True

def ItemsFit : List Json → (room : Nat) → Prop
  | [], _ => True
  | v :: rest, room => v.Fits room ∧ ItemsFit rest room

def EntriesFit : List (String × Json) → (room : Nat) → Prop
  | [], _ => True
  | (_, v) :: rest, room => v.Fits room ∧ EntriesFit rest room

end

section

variable {room : Nat}

@[simp] theorem fits_bool (b : Bool) : (bool b).Fits room := trivial

@[simp] theorem fits_natural (n : UInt64) : (natural n).Fits room := trivial

@[simp] theorem fits_string (s : String) : (string s).Fits room := trivial

@[simp] theorem fits_array {items : List Json} :
    (array items).Fits (room + 1) ↔ ItemsFit items room :=
  and_iff_right room.succ_pos

@[simp] theorem fits_object {entries : Entries} :
    (object entries).Fits (room + 1) ↔ EntriesFit entries room :=
  and_iff_right room.succ_pos

@[simp] theorem fits_ofOption {α : Type} {f : α → Json} (h : ∀ a, (f a).Fits room)
    (o : Option α) : (ofOption f o).Fits room := by
  cases o with
  | none => trivial
  | some a => exact h a

theorem itemsFit_iff {items : List Json} :
    ItemsFit items room ↔ ∀ v ∈ items, v.Fits room := by
  induction items with
  | nil => simp [ItemsFit]
  | cons v rest ih => simp [ItemsFit, ih]

theorem entriesFit_iff {entries : Entries} :
    EntriesFit entries room ↔ ∀ e ∈ entries, e.2.Fits room := by
  induction entries with
  | nil => simp [EntriesFit]
  | cons e rest ih => simp [EntriesFit, ih]

end

mutual

theorem Fits.sorted : (v : Json) → {room : Nat} → v.Fits room → v.sorted.Fits room
  | .array items, _, ⟨hroom, hitems⟩ => by
    rw [Json.sorted]
    exact ⟨hroom, ItemsFit.sorted items hitems⟩
  | .object entries, _, ⟨hroom, hentries⟩ => by
    have hsorted := entriesFit_iff.1 (EntriesFit.sorted entries hentries)
    rw [Json.sorted]
    exact ⟨hroom, entriesFit_iff.2 fun e he => hsorted e (mem_of_mem_collect he)⟩
  | .null, _, hv | .bool _, _, hv | .natural _, _, hv | .negative _, _, hv | .real _, _, hv
  | .string _, _, hv => by simpa only [Json.sorted] using hv

theorem ItemsFit.sorted : (items : List Json) → {room : Nat} → ItemsFit items room →
    ItemsFit (sortedItems items) room
  | [], _, _ => trivial
  | v :: rest, _, ⟨hv, hrest⟩ => ⟨Fits.sorted v hv, ItemsFit.sorted rest hrest⟩

theorem EntriesFit.sorted : (entries : List (String × Json)) → {room : Nat} →
    EntriesFit entries room → EntriesFit (sortedEntries entries) room
  | [], _, _ => trivial
  | (_, v) :: rest, _, ⟨hv, hrest⟩ => ⟨Fits.sorted v hv, EntriesFit.sorted rest hrest⟩

end

mutual

def tokens : Json → List Token
  | .array items => .openArray :: itemTokens true items
  | .object entries => .openObject :: entryTokens true entries
  | .string s => [.text (some s)]
  | v => [.scalar (some v)]

def itemTokens (first : Bool) : List Json → List Token
  | [] => [.closeArray]
  | v :: rest => (if first then [] else [.comma]) ++ v.tokens ++ itemTokens false rest

def entryTokens (first : Bool) : List (String × Json) → List Token
  | [] => [.closeObject]
  | (k, v) :: rest =>
    (if first then [] else [.comma]) ++ .text (some k) :: .colon :: v.tokens ++
      entryTokens false rest

end

/-- What comes first ends a word or a numeral in front of it. -/
def Parted : List Char → Prop
  | c :: _ => isLetter c = false ∧ isNumeralChar c = false
  | [] => False

/-- Between tokens, the characters are read as these tokens. -/
def Spells (cs : List Char) (ts : List Token) : Prop :=
  ∀ done, ∃ l, cs.foldlM Lexer.step? ⟨done, .between⟩ = some l ∧
    l.settle? = some ⟨ts.reverse ++ done, .between⟩

variable {cs ds gap : List Char} {ts us : List Token} {c : Char} {t : Token}

theorem Lexer.step?_of_settle {l : Lexer} {done : List Token}
    (h : l.settle? = some ⟨done, .between⟩) (hc : isLetter c = false ∧ isNumeralChar c = false) :
    l.step? c = begin? done c := by
  obtain ⟨tokens, place⟩ := l
  cases place with
  | between =>
    cases h
    rfl
  | word letters => simp [step?, hc.1, h]
  | numeral chars => simp [step?, hc.2, h]
  | _ => cases h

@[simp] theorem Lexer.step?_between (done : List Token) (c : Char) :
    step? ⟨done, .between⟩ c = begin? done c := rfl

theorem Spells.append (h : Spells cs ts) (hd : Spells ds us) (hp : Parted ds) :
    Spells (cs ++ ds) (ts ++ us) := by
  intro done
  obtain ⟨l, hl, hts⟩ := h done
  obtain ⟨m, hm, hus⟩ := hd (ts.reverse ++ done)
  refine ⟨m, ?_, by rw [hus, List.reverse_append, List.append_assoc]⟩
  cases ds with
  | nil => exact hp.elim
  | cons c ds =>
    rw [List.foldlM_append, hl]
    simpa [Lexer.step?_of_settle hts hp] using hm

theorem spells_nil : Spells [] [] := fun done => ⟨⟨done, .between⟩, rfl, rfl⟩

theorem Spells.mark (h : Spells cs ts)
    (hc : ∀ done, Lexer.begin? done c = some ⟨t :: done, .between⟩) :
    Spells (c :: cs) (t :: ts) := by
  intro done
  obtain ⟨l, hl, hts⟩ := h (t :: done)
  refine ⟨l, ?_, ?_⟩
  · simpa [Lexer.step?, hc] using hl
  · simpa using hts

theorem Spells.blanks (h : Spells cs ts) (hgap : ∀ b ∈ gap, isSpace b = true) :
    Spells (gap ++ cs) ts := by
  induction gap with
  | nil => exact h
  | cons b gap ih =>
    intro done
    obtain ⟨l, hl, hts⟩ := ih (fun a ha => hgap a (List.mem_cons_of_mem b ha)) done
    refine ⟨l, ?_, hts⟩
    simpa [Lexer.step?, Lexer.begin?, hgap b List.mem_cons_self] using hl

theorem foldlM_escape (c : Char) (chars : List Char) (done : List Token) :
    (escape c).foldlM Lexer.step? ⟨done, .quote ⟨chars, none, true⟩⟩ =
      some ⟨done, .quote ⟨c :: chars, none, true⟩⟩ := by
  unfold escape
  split
  · next h => subst h; rfl
  split
  · next h => subst h; rfl
  split
  · next h => subst h; rfl
  split
  · next h => subst h; rfl
  split
  · next h => subst h; rfl
  split
  · next h =>
    obtain rfl : c = Char.ofNat 8 := by rw [← h, Char.ofNat_toNat]
    rfl
  split
  · next h =>
    obtain rfl : c = Char.ofNat 12 := by rw [← h, Char.ofNat_toNat]
    rfl
  split
  · next h =>
    have hhigh := Text.hexDigit?_hexDigit (n := c.toNat / 16) (by omega)
    have hlow := Text.hexDigit?_hexDigit (n := c.toNat % 16) (by omega)
    have hzero : Text.hexDigit? '0' = some 0 := rfl
    have hunit : 16 * (c.toNat / 16) + c.toNat % 16 = c.toNat := Nat.div_add_mod ..
    have hpush : (Quote.mk chars none true).pushUnit c.toNat = ⟨c :: chars, none, true⟩ := by
      have htrail : ¬ (0xDC00 ≤ c.toNat ∧ c.toNat ≤ 0xDFFF) := by omega
      have hlead : ¬ (0xD800 ≤ c.toNat ∧ c.toNat ≤ 0xDBFF) := by omega
      simp [Quote.pushUnit, htrail, hlead, Quote.push]
    simp [Lexer.step?, hzero, hhigh, hlow, hunit, hpush]
  · next hquote hslash _ _ _ _ _ hcontrol =>
    simp [Lexer.step?, hquote, hslash, hcontrol, Quote.push]

theorem foldlM_escapes (cs chars : List Char) (done : List Token) :
    (cs.flatMap escape).foldlM Lexer.step? ⟨done, .quote ⟨chars, none, true⟩⟩ =
      some ⟨done, .quote ⟨cs.reverse ++ chars, none, true⟩⟩ := by
  induction cs generalizing chars with
  | nil => rfl
  | cons c cs ih =>
    rw [List.flatMap_cons, List.foldlM_append, foldlM_escape]
    simpa using ih (c :: chars)

theorem spells_quote (s : String) : Spells (quote s).toList [.text (some s)] := by
  intro done
  refine ⟨⟨.text (some s) :: done, .between⟩, ?_, rfl⟩
  have hopen : Lexer.begin? done '"' = some ⟨done, .quote ⟨[], none, true⟩⟩ := rfl
  have hchars : (quote s).toList = '"' :: s.toList.flatMap escape ++ ['"'] := by
    simp [quote]
  have hclose : Lexer.step? ⟨done, .quote ⟨s.toList.reverse, none, true⟩⟩ '"' =
      some ⟨.text (some s) :: done, .between⟩ := by
    simp [Lexer.step?, Quote.value?]
  rw [hchars, List.foldlM_append, List.foldlM_cons, Lexer.step?_between, hopen]
  simp [foldlM_escapes, hclose]

theorem foldlM_numeral (h : ∀ c ∈ cs, isNumeralChar c = true) (chars : List Char)
    (done : List Token) : cs.foldlM Lexer.step? ⟨done, .numeral chars⟩ =
      some ⟨done, .numeral (cs.reverse ++ chars)⟩ := by
  induction cs generalizing chars with
  | nil => rfl
  | cons c cs ih =>
    have hc := h c List.mem_cons_self
    simpa [Lexer.step?, hc] using ih (fun d hd => h d (List.mem_cons_of_mem c hd)) (c :: chars)

theorem spells_numeral {l : Literal} {v : Json}
    (hc : ∀ done, Lexer.begin? done c = some ⟨done, .numeral [c]⟩)
    (hcs : ∀ c ∈ cs, isNumeralChar c = true) (hl : Literal.read? (c :: cs) = some l)
    (hv : l.value? = some v) : Spells (c :: cs) [.scalar (some v)] := by
  intro done
  refine ⟨⟨done, .numeral (cs.reverse ++ [c])⟩, ?_, ?_⟩
  · simp [hc, foldlM_numeral hcs]
  · simp [Lexer.settle?, hl, hv]

theorem read?_of_someDigits {ds : List Nat} (hcs : someDigits? cs = some (ds, []))
    (hlead : ¬ (ds.head? = some 0 ∧ ds.length ≠ 1)) :
    Literal.read? cs = some ⟨false, ds, none, none⟩ ∧
      Literal.read? ('-' :: cs) = some ⟨true, ds, none, none⟩ := by
  constructor
  · unfold Literal.read?
    split
    · next down rest hsign =>
      split at hsign
      · have hnone (body : List Char) : someDigits? ('-' :: body) = none := rfl
        rw [hnone] at hcs
        cases hcs
      · cases hsign
        simp [hcs, hlead, Literal.readExponent?]
  · simp [Literal.read?, hcs, hlead, Literal.readExponent?]

theorem fill_of_lt {ds : List Nat} {n : Nat}
    (h : ds.foldl (fun n d => 10 * n + d) n < UInt64.size) :
    fill n ds = (ds.foldl (fun n d => 10 * n + d) n, []) := by
  induction ds generalizing n with
  | nil => rfl
  | cons d ds ih =>
    rw [List.foldl_cons] at h ⊢
    rw [fill, if_pos (Nat.lt_of_le_of_lt (Text.le_foldl_digits ds _) h), ih h]

theorem isNumeralChar_digitChar {d : Nat} (h : d < 10) :
    isNumeralChar (Nat.digitChar d) = true := by
  simp [isNumeralChar, Text.isDigit, Text.digit?_digitChar h]

theorem begin?_digitChar {d : Nat} (h : d < 10) (done : List Token) :
    Lexer.begin? done (Nat.digitChar d) = some ⟨done, .numeral [Nat.digitChar d]⟩ := by
  have hother : isSpace (Nat.digitChar d) = false ∧ Nat.digitChar d ≠ '"' ∧
      isLetter (Nat.digitChar d) = false := by
    revert d
    decide
  simp [Lexer.begin?, hother, isNumeralChar_digitChar h]

theorem isNumeralChar_of_digits {ds : List Nat} (h : ∀ d ∈ ds, d < 10) :
    ∀ c ∈ ds.map Nat.digitChar, isNumeralChar c = true := by
  simpa using fun d hd => isNumeralChar_digitChar (h d hd)

theorem exists_digits_read {n : Nat} (hn : n < UInt64.size) : ∃ ds : List Nat,
    (toString n).toList = ds.map Nat.digitChar ∧ ds ≠ [] ∧ (∀ d ∈ ds, d < 10) ∧
    fill 0 ds = (n, []) ∧ Literal.read? (toString n).toList = some ⟨false, ds, none, none⟩ ∧
      Literal.read? ('-' :: (toString n).toList) = some ⟨true, ds, none, none⟩ := by
  obtain ⟨ds, hchars, hne, hlt, hvalue⟩ := Text.digits_toString n
  have htake := Text.takeDigits_append hlt (rfl : Text.takeDigits [] = ([], []))
  rw [List.append_nil, ← hchars] at htake
  have hsome : someDigits? (toString n).toList = some (ds, []) := by
    rw [someDigits?, htake]
    cases ds with
    | nil => exact absurd rfl hne
    | cons d ds => rfl
  have hfill : fill 0 ds = (n, []) := by
    have hbound : Text.ofDigits ds < UInt64.size := hvalue.symm ▸ hn
    rw [fill_of_lt hbound]
    exact congrArg (·, []) hvalue
  exact ⟨ds, hchars, hne, hlt, hfill, read?_of_someDigits hsome fun h =>
    h.2 (Text.length_eq_one_of_head hchars hlt hvalue h.1)⟩

theorem spells_natural (n : UInt64) :
    Spells (toString n.toNat).toList [.scalar (some (.natural n))] := by
  obtain ⟨ds, hchars, hne, hlt, hfill, hread, -⟩ := exists_digits_read n.toNat_lt
  obtain ⟨d, es, rfl⟩ := List.exists_cons_of_ne_nil hne
  obtain ⟨hd, hes⟩ := List.forall_mem_cons.1 hlt
  rw [hchars] at hread ⊢
  refine spells_numeral (begin?_digitChar hd) (isNumeralChar_of_digits hes) hread ?_
  simp [Literal.value?, hfill]

theorem spells_negative {k : Nat} (hk : k < UInt64.size / 2) :
    Spells ('-' :: (toString (k + 1)).toList) [.scalar (some (.negative k))] := by
  have hsize : k + 1 < UInt64.size := by
    have : UInt64.size = 18446744073709551616 := rfl
    omega
  obtain ⟨ds, hchars, -, hlt, hfill, -, hread⟩ := exists_digits_read hsize
  rw [hchars] at hread ⊢
  refine spells_numeral (fun _ => rfl) (isNumeralChar_of_digits hlt) hread ?_
  have hle : k + 1 ≤ UInt64.size / 2 := hk
  simp [Literal.value?, hfill, hle]

theorem spells_scalar {v : Json} {room : Nat} (hv : v.Fits room)
    (harray : ∀ items, v ≠ .array items) (hobject : ∀ entries, v ≠ .object entries) :
    Spells (scalarText v).toList v.tokens := by
  cases v with
  | null => exact fun done => ⟨_, rfl, rfl⟩
  | bool b => cases b <;> exact fun done => ⟨_, rfl, rfl⟩
  | natural n => exact spells_natural n
  | negative k => simpa [scalarText, tokens] using spells_negative hv
  | real x => exact hv.elim
  | string s => exact spells_quote s
  | array items => exact absurd rfl (harray items)
  | object entries => exact absurd rfl (hobject entries)

theorem toList_newline (level : Nat) :
    (newline level).toList = '\n' :: List.replicate (2 * level) ' ' := by
  simp [newline]

theorem isSpace_of_mem_newline (level : Nat) : ∀ b ∈ (newline level).toList, isSpace b = true := by
  intro b hb
  rw [toList_newline] at hb
  rcases List.mem_cons.1 hb with rfl | hb
  · rfl
  · rw [(List.mem_replicate.1 hb).2]
    rfl

theorem isSpace_of_mem_nil : ∀ b ∈ [], isSpace b = true := by simp

variable {v : Json}

theorem Spells.item (first : Bool) (hv : Spells cs ts) (hrest : Spells ds us) (hp : Parted ds)
    (hgap : ∀ b ∈ gap, isSpace b = true) :
    Spells ((if first then [] else [',']) ++ gap ++ cs ++ ds)
      ((if first then [] else [.comma]) ++ ts ++ us) := by
  have hitem : Spells (gap ++ cs ++ ds) (ts ++ us) := (hv.blanks hgap).append hrest hp
  cases first with
  | true => simpa using hitem
  | false => simpa using hitem.mark fun _ => rfl

theorem Spells.entry (k : String) (hv : Spells cs ts) (hgap : ∀ b ∈ gap, isSpace b = true) :
    Spells ((quote k).toList ++ ':' :: (gap ++ cs)) (.text (some k) :: .colon :: ts) :=
  (spells_quote k).append ((hv.blanks hgap).mark fun _ => rfl) ⟨rfl, rfl⟩

theorem parted_append (h : Parted cs) (ds : List Char) : Parted (cs ++ ds) := by
  cases cs with
  | nil => exact h.elim
  | cons c cs => exact h

theorem parted_comma (cs : List Char) : Parted (',' :: cs) := ⟨rfl, rfl⟩

theorem parted_newline (level : Nat) : Parted (newline level).toList := by
  rw [toList_newline]
  exact ⟨rfl, rfl⟩

theorem parted_prettyItems (items : List Json) (level : Nat) :
    Parted ((prettyItems level false items).toList ++ (newline level).toList ++ [']']) := by
  cases items with
  | nil => simpa [prettyItems] using parted_append (parted_newline level) [']']
  | cons v rest => simp [prettyItems, parted_comma]

theorem parted_prettyEntries (entries : Entries) (level : Nat) :
    Parted ((prettyEntries level false entries).toList ++ (newline level).toList ++ ['\x7d']) := by
  cases entries with
  | nil => simpa [prettyEntries] using parted_append (parted_newline level) ['\x7d']
  | cons e rest => simp [prettyEntries, parted_comma]

mutual

theorem spells_prettyAt : (v : Json) → (level : Nat) → {room : Nat} → v.Fits room →
    Spells (prettyAt level v).toList v.tokens
  | .array [], level, _, _ => by
    simpa [prettyAt, tokens, itemTokens] using
      (spells_nil.mark (c := ']') fun _ => rfl).mark (c := '[') fun _ => rfl
  | .array (v :: rest), level, _, hv => by
    have hitems := spells_prettyItems true (v :: rest) level hv.2
    simpa [prettyAt, tokens] using hitems.mark (c := '[') fun _ => rfl
  | .object [], level, _, _ => by
    simpa [prettyAt, tokens, entryTokens] using
      (spells_nil.mark (c := '\x7d') fun _ => rfl).mark (c := '\x7b') fun _ => rfl
  | .object (e :: rest), level, _, hv => by
    have hentries := spells_prettyEntries true (e :: rest) level hv.2
    simpa [prettyAt, tokens] using hentries.mark (c := '\x7b') fun _ => rfl
  | .null, _, _, hv | .bool _, _, _, hv | .natural _, _, _, hv | .negative _, _, _, hv
  | .real _, _, _, hv | .string _, _, _, hv => by
    simp only [prettyAt]
    exact spells_scalar hv (by simp) (by simp)

theorem spells_prettyItems (first : Bool) : (items : List Json) → (level : Nat) → {room : Nat} →
    ItemsFit items room →
    Spells ((prettyItems level first items).toList ++ (newline level).toList ++ [']'])
      (itemTokens first items)
  | [], level, _, _ => by
    have hclose := spells_nil.mark (c := ']') fun _ => rfl
    simpa [prettyItems, itemTokens] using hclose.blanks (isSpace_of_mem_newline level)
  | v :: rest, level, _, hv => by
    have hfirst := spells_prettyAt v (level + 1) hv.1
    have hrest := spells_prettyItems false rest level hv.2
    have hitem := hfirst.item first hrest (parted_prettyItems rest level)
      (isSpace_of_mem_newline (level + 1))
    cases first <;> simpa [prettyItems, itemTokens] using hitem

theorem spells_prettyEntries (first : Bool) : (entries : List (String × Json)) → (level : Nat) →
    {room : Nat} → EntriesFit entries room →
    Spells ((prettyEntries level first entries).toList ++ (newline level).toList ++ ['\x7d'])
      (entryTokens first entries)
  | [], level, _, _ => by
    have hclose := spells_nil.mark (c := '\x7d') fun _ => rfl
    simpa [prettyEntries, entryTokens] using hclose.blanks (isSpace_of_mem_newline level)
  | (k, v) :: rest, level, _, hv => by
    have hgap : ∀ b ∈ [' '], isSpace b = true := by simp [isSpace]
    have hfirst := (spells_prettyAt v (level + 1) hv.1).entry k hgap
    have hrest := spells_prettyEntries false rest level hv.2
    have hentry := hfirst.item first hrest (parted_prettyEntries rest level)
      (isSpace_of_mem_newline (level + 1))
    cases first <;> simpa [prettyEntries, entryTokens] using hentry

end

theorem parted_compactItems (items : List Json) :
    Parted ((compactItems false items).toList ++ [']']) := by
  cases items with
  | nil => exact ⟨rfl, rfl⟩
  | cons v rest => simp [compactItems, parted_comma]

theorem parted_compactEntries (entries : Entries) :
    Parted ((compactEntries false entries).toList ++ ['\x7d']) := by
  cases entries with
  | nil => exact ⟨rfl, rfl⟩
  | cons e rest => simp [compactEntries, parted_comma]

mutual

theorem spells_compact : (v : Json) → {room : Nat} → v.Fits room →
    Spells v.compact.toList v.tokens
  | .array items, _, hv => by
    simpa [compact, tokens] using (spells_compactItems true items hv.2).mark (c := '[') fun _ => rfl
  | .object entries, _, hv => by
    simpa [compact, tokens] using
      (spells_compactEntries true entries hv.2).mark (c := '\x7b') fun _ => rfl
  | .null, _, hv | .bool _, _, hv | .natural _, _, hv | .negative _, _, hv | .real _, _, hv
  | .string _, _, hv => by
    simp only [compact]
    exact spells_scalar hv (by simp) (by simp)

theorem spells_compactItems (first : Bool) : (items : List Json) → {room : Nat} →
    ItemsFit items room →
    Spells ((compactItems first items).toList ++ [']']) (itemTokens first items)
  | [], _, _ => by simpa [compactItems, itemTokens] using spells_nil.mark (c := ']') fun _ => rfl
  | v :: rest, _, hv => by
    have hitem := (spells_compact v hv.1).item first (spells_compactItems false rest hv.2)
      (parted_compactItems rest) isSpace_of_mem_nil
    cases first <;> simpa [compactItems, itemTokens] using hitem

theorem spells_compactEntries (first : Bool) : (entries : List (String × Json)) → {room : Nat} →
    EntriesFit entries room →
    Spells ((compactEntries first entries).toList ++ ['\x7d']) (entryTokens first entries)
  | [], _, _ => by
    simpa [compactEntries, entryTokens] using spells_nil.mark (c := '\x7d') fun _ => rfl
  | (k, v) :: rest, _, hv => by
    have hfirst := (spells_compact v hv.1).entry k isSpace_of_mem_nil
    have hentry := hfirst.item first (spells_compactEntries false rest hv.2)
      (parted_compactEntries rest) isSpace_of_mem_nil
    cases first <;> simpa [compactEntries, entryTokens] using hentry

end

namespace Reader

variable {stack : List Frame}

@[simp] theorem step?_openArray (h : stack.length < 127) :
    step? .body (.value stack) .openArray = some (.firstItem stack) := by
  simp [step?, begin?, Rules.admits, Rules.body, h]

@[simp] theorem step?_openObject (h : stack.length < 127) :
    step? .body (.value stack) .openObject = some (.firstKey stack) := by
  simp [step?, begin?, Rules.admits, Rules.body, h]

@[simp] theorem step?_firstKey (k : String) :
    step? .body (.firstKey stack) (.text (some k)) = some (.colon [] k stack) := by
  simp [step?, key?]

@[simp] theorem step?_key (done : Entries) (k : String) :
    step? .body (.key done stack) (.text (some k)) = some (.colon done k stack) := by
  simp [step?, key?]

@[simp] theorem step?_colon (done : Entries) (k : String) :
    step? .body (.colon done k stack) .colon = some (.value (.entries done k :: stack)) := rfl

@[simp] theorem step?_after_item (v : Json) (done : List Json) :
    step? .body (.after v (.items done :: stack)) .comma =
      some (.value (.items (v :: done) :: stack)) := rfl

@[simp] theorem step?_after_entry (v : Json) (done : Entries) (k : String) :
    step? .body (.after v (.entries done k :: stack)) .comma =
      some (.key ((k, v) :: done) stack) := rfl

theorem foldlM_tokens_firstItem (v : Json) (stack : List Frame) :
    v.tokens.foldlM (step? .body) (.firstItem stack) =
      v.tokens.foldlM (step? .body) (.value (.items [] :: stack)) := by
  cases v <;> rfl

mutual

/-- The reader makes of the tokens of a value, where one is expected, the value with its objects
collected. -/
theorem foldlM_tokens : (v : Json) → {room : Nat} → v.Fits room → (stack : List Frame) →
    stack.length + room ≤ 127 →
    v.tokens.foldlM (step? .body) (.value stack) = some (.after v.sorted stack)
  | .array [], _, ⟨hroom, _⟩, stack, hs => by
    have hopen : stack.length < 127 := by omega
    rw [tokens, List.foldlM_cons, step?_openArray hopen, sorted, sortedItems]
    rfl
  | .array (v :: rest), _, ⟨hroom, hfirst, hrest⟩, stack, hs => by
    have hopen : stack.length < 127 := by omega
    have hv := foldlM_tokens v hfirst (.items [] :: stack)
      (by rw [List.length_cons]; omega)
    have hrest := foldlM_itemTokens rest hrest v.sorted [] stack (by omega)
    simp [tokens, itemTokens, hopen, foldlM_tokens_firstItem, hv, hrest, sorted, sortedItems]
  | .object [], _, ⟨hroom, _⟩, stack, hs => by
    have hopen : stack.length < 127 := by omega
    rw [tokens, List.foldlM_cons, step?_openObject hopen, sorted, sortedEntries]
    rfl
  | .object ((k, v) :: rest), _, ⟨hroom, hfirst, hrest⟩, stack, hs => by
    have hopen : stack.length < 127 := by omega
    have hv := foldlM_tokens v hfirst (.entries [] k :: stack)
      (by rw [List.length_cons]; omega)
    have hrest := foldlM_entryTokens rest hrest k v.sorted [] stack (by omega)
    simp [tokens, entryTokens, hopen, hv, hrest, sortedEntries]
  | .null, _, _, _, _ | .bool _, _, _, _, _ | .natural _, _, _, _, _ | .negative _, _, _, _, _
  | .real _, _, _, _, _ | .string _, _, _, _, _ => by
    simp only [sorted]
    rfl

theorem foldlM_itemTokens : (items : List Json) → {room : Nat} → ItemsFit items room →
    (last : Json) → (done : List Json) → (stack : List Frame) → stack.length + 1 + room ≤ 127 →
    (itemTokens false items).foldlM (step? .body) (.after last (.items done :: stack)) =
      some (.after (.array ((last :: done).reverse ++ sortedItems items)) stack)
  | [], _, _, _, _, _, _ => by
    rw [sortedItems, List.append_nil]
    rfl
  | v :: rest, _, ⟨hfirst, hrest⟩, last, done, stack, hs => by
    have hv := foldlM_tokens v hfirst (.items (last :: done) :: stack)
      (by rw [List.length_cons]; omega)
    have hrest := foldlM_itemTokens rest hrest v.sorted (last :: done) stack hs
    simp [itemTokens, hv, hrest, sortedItems]

theorem foldlM_entryTokens : (entries : List (String × Json)) → {room : Nat} →
    EntriesFit entries room → (name : String) → (last : Json) → (done : Entries) →
    (stack : List Frame) → stack.length + 1 + room ≤ 127 →
    (entryTokens false entries).foldlM (step? .body) (.after last (.entries done name :: stack)) =
      some (.after (.object (collect (((name, last) :: done).reverse ++ sortedEntries entries)))
        stack)
  | [], _, _, _, _, _, _, _ => by
    rw [sortedEntries, List.append_nil]
    rfl
  | (k, v) :: rest, _, ⟨hfirst, hrest⟩, name, last, done, stack, hs => by
    have hv := foldlM_tokens v hfirst (.entries ((name, last) :: done) k :: stack)
      (by rw [List.length_cons]; omega)
    have hrest := foldlM_entryTokens rest hrest k v.sorted ((name, last) :: done) stack hs
    simp [entryTokens, hv, hrest, sortedEntries]

end

end Reader

theorem read?_of_spells {text : String} (hv : v.Fits 127) (h : Spells text.toList v.tokens) :
    read? .body text = some v.sorted := by
  obtain ⟨l, hl, hts⟩ := h []
  have htokens : tokens? text.toList = some v.tokens := by
    simp [tokens?, Lexer.start, hl, hts]
  have hread := Reader.foldlM_tokens v hv [] (Nat.le_refl 127)
  simp [read?, htokens, hread, Reader.result?]

theorem ofBytes?_toUTF8 (text : String) : ofBytes? text.toUTF8 = read? .body text := by
  have hbytes : String.fromUTF8? text.toUTF8 = some text := dif_pos text.isValidUTF8
  rw [ofBytes?, hbytes, Option.bind_some]

/-- What is printed of a value, in either layout, is read back as the value with the entries of its
objects in the order of their keys. -/
theorem ofBytes?_print (hv : v.Fits 127) :
    ofBytes? v.pretty.toUTF8 = some v.sorted ∧ ofBytes? v.compact.toUTF8 = some v.sorted := by
  rw [ofBytes?_toUTF8, ofBytes?_toUTF8]
  exact ⟨read?_of_spells hv (spells_prettyAt v 0 hv), read?_of_spells hv (spells_compact v hv)⟩

end Json

open Json

variable (room : Nat)

theorem Run.fits_toJson (r : Run) : r.toJson.Fits (room + 1) := by
  simp [toJson, EntriesFit]

theorem Listing.fits_toJson {l : Listing} {room : Nat} (h : l.safety.Fits (room + 2)) :
    l.toJson.Fits (room + 3) := by
  have hruns : ItemsFit (l.runs.map Run.toJson) (room + 1) :=
    itemsFit_iff.2 (List.forall_mem_map.2 fun r _ => r.fits_toJson room)
  simp [toJson, EntriesFit, hruns, h]

theorem Started.fits_toJson {s : Started} {room : Nat} (h : s.safety.Fits room) :
    s.toJson.Fits (room + 1) := by
  simp [toJson, EntriesFit, h]

theorem SafetyState.fits_toJson (s : SafetyState) : s.toJson.Fits (room + 2) := by
  simp [toJson, SafetyCounters.toJson, EntriesFit]

theorem Snapshot.fits_toJson (s : Snapshot) : s.toJson.Fits (room + 3) := by
  simp [toJson, EntriesFit, Run.fits_toJson, SafetyState.fits_toJson]

theorem Outcome.fits_toJson (o : Outcome) : o.toJson.Fits (room + 1) := by
  cases o <;> simp [toJson, EntriesFit]

end RunWatch
