import RunWatch.Json.Reader
import RunWatch.Proofs.Rounding
set_option autoImplicit false

namespace RunWatch

namespace Json

mutual

/-- Every number that is held as binary64 is one. -/
def Exact : Json → Prop
  | .real x => x.Exact
  | .array items => ExactItems items
  | .object entries => ExactEntries entries
  | _ => True

def ExactItems : List Json → Prop
  | [] => True
  | v :: rest => v.Exact ∧ ExactItems rest

def ExactEntries : List (String × Json) → Prop
  | [] => True
  | (_, v) :: rest => v.Exact ∧ ExactEntries rest

end

theorem exactItems_iff {items : List Json} : ExactItems items ↔ ∀ v ∈ items, v.Exact := by
  induction items with
  | nil => simp [ExactItems]
  | cons v rest ih => simp [ExactItems, ih]

theorem exactEntries_iff {entries : Entries} :
    ExactEntries entries ↔ ∀ e ∈ entries, e.2.Exact := by
  induction entries with
  | nil => simp [ExactEntries]
  | cons e rest ih => simp [ExactEntries, ih]

theorem ExactItems.reverse {done : List Json} (h : ExactItems done) {v : Json} (hv : v.Exact) :
    ExactItems (v :: done).reverse := by
  simpa [exactItems_iff, or_imp, forall_and, hv] using exactItems_iff.1 h

theorem ExactEntries.reverse {done : Entries} (h : ExactEntries done) {k : String} {v : Json}
    (hv : v.Exact) : ExactEntries ((k, v) :: done).reverse := by
  have := exactEntries_iff.1 h
  rw [exactEntries_iff]
  intro e he
  rcases List.mem_cons.1 (List.mem_reverse.1 he) with rfl | he
  · exact hv
  · exact this e he

theorem ExactEntries.lookup {entries : Entries} (h : ExactEntries entries) {key : String}
    {v : Json} (hv : lookup key entries = some v) : v.Exact := by
  obtain ⟨e, he, rfl⟩ := Option.map_eq_some_iff.1 hv
  exact exactEntries_iff.1 h e (List.mem_of_find?_eq_some he)

theorem ExactEntries.collect {entries : Entries} (h : ExactEntries entries) :
    ExactEntries (collect entries) :=
  exactEntries_iff.2 fun e he => exactEntries_iff.1 h e (mem_of_mem_collect he)

theorem exact_scaleDown {f : Binary64} (h : f.Exact) (e : Nat) : (scaleDown f e).Exact := by
  fun_induction scaleDown f e with
  | case1 => exact Binary64.exact_div ..
  | case2 => exact h
  | case3 f e he hz ih => exact ih (Binary64.exact_div ..)

theorem exact_scale? {n : Nat} {e : Int} {x : Binary64} (h : scale? n e = some x) : x.Exact := by
  have hof : (Binary64.ofNat n).Exact := Binary64.exact_ofUnits ..
  unfold scale? at h
  dsimp only at h
  split at h
  · cases h
    exact exact_scaleDown hof _
  · split at h
    · split at h
      · cases h
        exact Binary64.exact_mul ..
      · cases h
    · split at h
      · cases h
        exact hof
      · cases h

theorem Literal.exact_real? {l : Literal} {x : Binary64} (h : l.real? = some x) : x.Exact := by
  have limited {n e : Nat} {down : Bool} {shift : Int}
      (h : (if exponentLimit < e then if n ≠ 0 ∧ !down then none else some Binary64.zero
        else scale? n (if down then shift - e else shift + e)) = some x) : x.Exact := by
    split at h
    · split at h
      · cases h
      · cases h
        exact Binary64.exact_finite_zero false
    · exact exact_scale? h
  unfold Literal.real? at h
  cases hf : l.fraction <;> cases he : l.exponent <;> simp only [hf, he] at h
  · exact exact_scale? h
  · exact limited h
  · exact exact_scale? h
  · exact limited h

theorem Literal.exact_value? {l : Literal} {v : Json} (h : l.value? = some v) : v.Exact := by
  have real (f : Binary64 → Binary64) (hf : ∀ x, x.Exact → (f x).Exact)
      (h : (l.real?.map fun x => Json.real (f x)) = some v) : v.Exact := by
    obtain ⟨x, hx, rfl⟩ := Option.map_eq_some_iff.1 h
    exact hf x (Literal.exact_real? hx)
  have signed (x : Binary64) (hx : x.Exact) : (if l.negative then x.neg else x).Exact := by
    split
    · exact hx.neg
    · exact hx
  unfold Literal.value? at h
  dsimp only at h
  split at h
  · split at h
    · split at h
      · cases h; trivial
      · exact real _ (fun _ => Binary64.Exact.neg) h
    · cases h; trivial
  · exact real _ signed h

def Token.Exact : Token → Prop
  | .scalar (some v) => v.Exact
  | _ => True

theorem exact_word? {letters : List Char} {t : Token} (h : word? letters = some t) : t.Exact := by
  unfold word? at h
  split at h
  · cases h; trivial
  · split at h
    · cases h; trivial
    · split at h
      · cases h; trivial
      · cases h

theorem exact_punctuation? {c : Char} {t : Token} (h : punctuation? c = some t) : t.Exact := by
  unfold punctuation? at h
  repeat' split at h
  all_goals first | (cases h; trivial) | cases h

theorem foldlM_invariant {σ α : Type} {step? : σ → α → Option σ} {P : σ → Prop} {as : List α}
    (step : ∀ a ∈ as, ∀ s t, P s → step? s a = some t → P t) {s t : σ} (hs : P s)
    (h : as.foldlM step? s = some t) : P t := by
  induction as generalizing s with
  | nil => simp_all
  | cons a as ih =>
    simp only [List.foldlM_cons, Option.bind_eq_bind, Option.bind_eq_some_iff] at h
    obtain ⟨u, hu, h⟩ := h
    exact ih (fun b hb => step b (by simp [hb])) (step a (by simp) s u hs hu) h

namespace Lexer

def Exact (l : Lexer) : Prop := ∀ t ∈ l.tokens, t.Exact

theorem Exact.cons {tokens : List Token} {p q : Place} {t : Token}
    (h : Exact ⟨tokens, p⟩) (ht : t.Exact) : Exact ⟨t :: tokens, q⟩ := by
  simpa [Exact, ht] using h

theorem Exact.settle {l m : Lexer} (hl : l.Exact) (h : l.settle? = some m) : m.Exact := by
  unfold settle? at h
  split at h
  · cases h; exact hl
  · obtain ⟨t, ht, rfl⟩ := Option.map_eq_some_iff.1 h
    exact hl.cons (exact_word? ht)
  · obtain ⟨n, -, rfl⟩ := Option.map_eq_some_iff.1 h
    refine hl.cons (t := .scalar n.value?) ?_
    cases hv : n.value? with
    | none => trivial
    | some v => exact Literal.exact_value? hv
  · cases h

theorem Exact.begin {tokens : List Token} {p : Place} {c : Char} {m : Lexer}
    (hl : Exact ⟨tokens, p⟩) (h : begin? tokens c = some m) : m.Exact := by
  unfold begin? at h
  repeat' split at h
  all_goals first
    | (cases h; exact hl)
    | (obtain ⟨t, ht, rfl⟩ := Option.map_eq_some_iff.1 h
       exact hl.cons (exact_punctuation? ht))

theorem Exact.step {l m : Lexer} {c : Char} (hl : l.Exact) (h : l.step? c = some m) :
    m.Exact := by
  unfold step? at h
  split at h
  · repeat' split at h
    · cases h; exact hl.cons trivial
    · cases h; exact hl
    · cases h
    · cases h; exact hl
  · split at h
    · cases h; exact hl
    · obtain ⟨d, -, rfl⟩ := Option.map_eq_some_iff.1 h
      exact hl
  · obtain ⟨d, -, rfl⟩ := Option.map_eq_some_iff.1 h
    dsimp only
    split <;> exact hl
  · split at h
    · cases h; exact hl
    · obtain ⟨k, hk, h⟩ := Option.bind_eq_some_iff.1 h
      exact Exact.begin (hl.settle hk) h
  · split at h
    · cases h; exact hl
    · obtain ⟨k, hk, h⟩ := Option.bind_eq_some_iff.1 h
      exact Exact.begin (hl.settle hk) h
  · exact Exact.begin (p := l.place) hl h

end Lexer

theorem exact_tokens? {text : List Char} {ts : List Token} (h : tokens? text = some ts) :
    ∀ t ∈ ts, t.Exact := by
  obtain ⟨l, hl, h⟩ := Option.bind_eq_some_iff.1 h
  obtain ⟨m, hm, rfl⟩ := Option.map_eq_some_iff.1 h
  have hstart : Lexer.start.Exact := by simp [Lexer.Exact, Lexer.start]
  have hlexed : l.Exact := foldlM_invariant (fun _ _ _ _ hs => hs.step) hstart hl
  simpa [Lexer.Exact] using hlexed.settle hm

def Frame.Exact : Frame → Prop
  | .items done => ExactItems done
  | .entries done _ => ExactEntries done

namespace Reader

def Exact : Reader → Prop
  | .value stack | .firstItem stack | .firstKey stack => ∀ f ∈ stack, f.Exact
  | .key done stack | .colon done _ stack => ExactEntries done ∧ ∀ f ∈ stack, f.Exact
  | .after v stack => v.Exact ∧ ∀ f ∈ stack, f.Exact

theorem exact_begin? {stack : List Frame} {t : Token} {s : Reader}
    (hstack : ∀ f ∈ stack, f.Exact) (ht : t.Exact) (h : begin? .body stack t = some s) :
    s.Exact := by
  unfold begin? at h
  split at h
  · next value =>
    cases value with
    | none => simp [Rules.body] at h
    | some v =>
      obtain rfl : _ = s := by simpa using h
      exact ⟨ht, hstack⟩
  · next value =>
    cases value with
    | none => simp [Rules.body] at h
    | some v =>
      obtain rfl : _ = s := by simpa using h
      exact ⟨trivial, hstack⟩
  · obtain ⟨-, rfl⟩ : _ ∧ _ = s := by simpa using h
    exact hstack
  · obtain ⟨-, rfl⟩ : _ ∧ _ = s := by simpa using h
    exact hstack
  · cases h

theorem Exact.step {r s : Reader} {t : Token} (hr : r.Exact) (ht : t.Exact)
    (h : step? .body r t = some s) : s.Exact := by
  unfold step? at h
  split at h
  · exact exact_begin? hr ht h
  · cases h
    exact ⟨trivial, hr⟩
  · have hempty : Frame.Exact (.items []) := trivial
    exact exact_begin? (List.forall_mem_cons.2 ⟨hempty, hr⟩) ht h
  · cases h
    exact ⟨trivial, hr⟩
  · obtain ⟨k, -, rfl⟩ := Option.map_eq_some_iff.1 h
    exact ⟨trivial, hr⟩
  · obtain ⟨k, -, rfl⟩ := Option.map_eq_some_iff.1 h
    exact hr
  · cases h
    exact List.forall_mem_cons.2 hr
  · obtain ⟨hv, hstack⟩ := hr
    obtain ⟨hdone, hstack⟩ := List.forall_mem_cons.1 hstack
    cases h
    exact List.forall_mem_cons.2 ⟨⟨hv, hdone⟩, hstack⟩
  · obtain ⟨hv, hstack⟩ := hr
    obtain ⟨hdone, hstack⟩ := List.forall_mem_cons.1 hstack
    cases h
    exact ⟨hdone.reverse hv, hstack⟩
  · obtain ⟨hv, hstack⟩ := hr
    obtain ⟨hdone, hstack⟩ := List.forall_mem_cons.1 hstack
    cases h
    exact ⟨⟨hv, hdone⟩, hstack⟩
  · obtain ⟨hv, hstack⟩ := hr
    obtain ⟨hdone, hstack⟩ := List.forall_mem_cons.1 hstack
    cases h
    exact ⟨(hdone.reverse hv).collect, hstack⟩
  · cases h

end Reader

theorem exact_ofBytes? {bytes : ByteArray} {v : Json} (h : ofBytes? bytes = some v) : v.Exact := by
  obtain ⟨text, -, h⟩ := Option.bind_eq_some_iff.1 h
  simp only [read?, Option.bind_eq_bind, Option.bind_eq_some_iff] at h
  obtain ⟨ts, hts, r, hr, h⟩ := h
  have htokens := exact_tokens? hts
  have hread : r.Exact :=
    foldlM_invariant (fun t ht _ _ hs => hs.step (htokens t ht)) (by simp [Reader.Exact]) hr
  unfold Reader.result? at h
  split at h
  · cases h
    exact hread.1
  · cases h

end Json

end RunWatch
