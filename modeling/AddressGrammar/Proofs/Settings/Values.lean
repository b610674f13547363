import AddressGrammar.Proofs.Settings.Lexemes
import AddressGrammar.Settings.Json

/-!
# The grammar of JSON values

Which tokens make up a value, as a grammar without a reader. The reader counts its steps, so that it
ends on every list of tokens. Reading a phrase that is made of `n` tokens takes no more than `2 * n`
of them: a bracket or a comma pays for the step into the list behind it, and every other step reads a
token.

## Main definitions

* `Phrase`, `Phrase.MadeOf` — values, elements and fields, and the tokens that they are made of

## Main results

* `Phrase.MadeOf.read` — the reader takes what the grammar derives
* `Phrase.justified` — and nothing else
* `Phrase.MadeOf.parted` — in a value, no number stands next to another one
* `Json.parse?_eq_some_iff` — the value of a text is the one that its lexemes make up
-/

namespace AddressGrammar.Settings

/-- A value, or what stands between the brackets of one that is not empty. -/
inductive Phrase where
  | value (j : Json)
  | elements (vs : List Json)
  | fields (fs : List (Option String × Json))

/-- The tokens that a phrase is made of. -/
inductive Phrase.MadeOf : Phrase → List Token → Prop where
  | null : MadeOf (.value .null) [.null]
  | true : MadeOf (.value (.bool Bool.true)) [.true]
  | false : MadeOf (.value (.bool Bool.false)) [.false]
  | number {v} : MadeOf (.value (.number v)) [.number v]
  | string {text} : MadeOf (.value (.string text)) [.string text]
  | emptyArray : MadeOf (.value (.array [])) [.openBracket, .closeBracket]
  | array {vs ts} (h : MadeOf (.elements vs) ts) :
      MadeOf (.value (.array vs)) (.openBracket :: (ts ++ [.closeBracket]))
  | emptyObject : MadeOf (.value (.object [])) [.openBrace, .closeBrace]
  | object {fs ts} (h : MadeOf (.fields fs) ts) :
      MadeOf (.value (.object fs)) (.openBrace :: (ts ++ [.closeBrace]))
  | lastElement {v ts} (h : MadeOf (.value v) ts) : MadeOf (.elements [v]) ts
  | element {v ts vs us} (h : MadeOf (.value v) ts) (hvs : MadeOf (.elements vs) us) :
      MadeOf (.elements (v :: vs)) (ts ++ .comma :: us)
  | lastField {key v ts} (h : MadeOf (.value v) ts) :
      MadeOf (.fields [(key, v)]) (.string key :: .colon :: ts)
  | field {key v ts fs us} (h : MadeOf (.value v) ts) (hfs : MadeOf (.fields fs) us) :
      MadeOf (.fields ((key, v) :: fs)) (.string key :: .colon :: (ts ++ .comma :: us))

namespace Phrase

variable {p : Phrase} {ts : List Token}

/-! ### What the grammar derives is read -/

/-- A phrase begins with a token, and with none that closes. -/
theorem MadeOf.exists_head (h : p.MadeOf ts) :
    ∃ t us, ts = t :: us ∧ t ≠ .closeBracket ∧ t ≠ .closeBrace := by
  induction h with
  | lastElement _ ih => exact ih
  | element _ _ ih =>
    obtain ⟨t, us, rfl, ht⟩ := ih
    exact ⟨t, _, rfl, ht⟩
  | _ => exact ⟨_, _, rfl, by simp, by simp⟩

/-- A bracket that is not closed at once begins an array with elements. -/
theorem valueWithin?_openBracket {n : Nat} {t : Token} {us : List Token} (ht : t ≠ .closeBracket) :
    Json.valueWithin? (n + 1) (.openBracket :: t :: us) =
      (Json.elementsWithin? n (t :: us)).map fun (vs, rest) => (.array vs, rest) := by
  cases t <;> simp_all [Json.valueWithin?]

theorem valueWithin?_openBrace {n : Nat} {t : Token} {us : List Token} (ht : t ≠ .closeBrace) :
    Json.valueWithin? (n + 1) (.openBrace :: t :: us) =
      (Json.fieldsWithin? n (t :: us)).map fun (fs, rest) => (.object fs, rest) := by
  cases t <;> simp_all [Json.valueWithin?]

/-- The reader takes the tokens, with what closes the phrase, and leaves the rest. -/
def Read (ts : List Token) : Phrase → Prop
  | value v => ∀ n rest, 2 * ts.length ≤ n → Json.valueWithin? n (ts ++ rest) = some (v, rest)
  | elements vs => ∀ n rest, 2 * ts.length + 1 ≤ n →
      Json.elementsWithin? n (ts ++ .closeBracket :: rest) = some (vs, rest)
  | fields fs => ∀ n rest, 2 * ts.length + 1 ≤ n →
      Json.fieldsWithin? n (ts ++ .closeBrace :: rest) = some (fs, rest)

/-- **What the grammar derives is read.** -/
theorem MadeOf.read (h : p.MadeOf ts) : p.Read ts := by
  induction h with
  | null | true | false | number | string | emptyArray | emptyObject =>
    intro n rest hn
    obtain ⟨n, rfl⟩ := Nat.exists_eq_succ_of_ne_zero (Nat.ne_zero_of_lt hn)
    simp [Json.valueWithin?]
  | @array vs ts h ih =>
    intro n rest hn
    obtain ⟨n, rfl⟩ := Nat.exists_eq_succ_of_ne_zero (Nat.ne_zero_of_lt hn)
    have hvs := ih n rest (by simp at hn; omega)
    obtain ⟨t, us, rfl, ht, -⟩ := h.exists_head
    simp only [List.cons_append, List.append_assoc, List.nil_append] at hvs ⊢
    rw [valueWithin?_openBracket ht, hvs]
    rfl
  | @object fs ts h ih =>
    intro n rest hn
    obtain ⟨n, rfl⟩ := Nat.exists_eq_succ_of_ne_zero (Nat.ne_zero_of_lt hn)
    have hfs := ih n rest (by simp at hn; omega)
    obtain ⟨t, us, rfl, -, ht⟩ := h.exists_head
    simp only [List.cons_append, List.append_assoc, List.nil_append] at hfs ⊢
    rw [valueWithin?_openBrace ht, hfs]
    rfl
  | lastElement _ ih =>
    intro n rest hn
    obtain ⟨n, rfl⟩ := Nat.exists_eq_succ_of_ne_zero (Nat.ne_zero_of_lt hn)
    simp [Json.elementsWithin?, ih n (.closeBracket :: rest) (by omega)]
  | @element v ts vs us _ _ ih₁ ih₂ =>
    intro n rest hn
    obtain ⟨n, rfl⟩ := Nat.exists_eq_succ_of_ne_zero (Nat.ne_zero_of_lt hn)
    rw [List.length_append, List.length_cons] at hn
    have hv := ih₁ n (.comma :: (us ++ .closeBracket :: rest)) (by omega)
    simp [Json.elementsWithin?, hv, ih₂ n rest (by omega)]
  | @lastField key v ts _ ih =>
    intro n rest hn
    obtain ⟨n, rfl⟩ := Nat.exists_eq_succ_of_ne_zero (Nat.ne_zero_of_lt hn)
    simp only [List.length_cons] at hn
    simp [Json.fieldsWithin?, ih n (.closeBrace :: rest) (by omega)]
  | @field key v ts fs us _ _ ih₁ ih₂ =>
    intro n rest hn
    obtain ⟨n, rfl⟩ := Nat.exists_eq_succ_of_ne_zero (Nat.ne_zero_of_lt hn)
    simp only [List.length_cons, List.length_append] at hn
    have hv := ih₁ n (.comma :: (us ++ .closeBrace :: rest)) (by omega)
    simp [Json.fieldsWithin?, hv, ih₂ n rest (by omega)]

/-! ### What is read is derived by the grammar -/

/-- What the reader takes in at most `n` steps is derived by the grammar. -/
structure Justified (n : Nat) : Prop where
  value : ∀ {ts v rest}, Json.valueWithin? n ts = some (v, rest) →
    ∃ us, ts = us ++ rest ∧ (value v).MadeOf us
  elements : ∀ {ts vs rest}, Json.elementsWithin? n ts = some (vs, rest) →
    ∃ us, ts = us ++ .closeBracket :: rest ∧ (elements vs).MadeOf us
  fields : ∀ {ts fs rest}, Json.fieldsWithin? n ts = some (fs, rest) →
    ∃ us, ts = us ++ .closeBrace :: rest ∧ (fields fs).MadeOf us

variable {n : Nat}

theorem Justified.value_succ (hn : Justified n) {ts rest : List Token} {v : Json}
    (h : Json.valueWithin? (n + 1) ts = some (v, rest)) :
    ∃ us, ts = us ++ rest ∧ (Phrase.value v).MadeOf us := by
  unfold Json.valueWithin? at h
  split at h
  case h_1 | h_11 => simp at h
  case h_2 => cases h; exact ⟨_, rfl, .null⟩
  case h_3 => cases h; exact ⟨_, rfl, .true⟩
  case h_4 => cases h; exact ⟨_, rfl, .false⟩
  case h_5 => cases h; exact ⟨_, rfl, .number⟩
  case h_6 => cases h; exact ⟨_, rfl, .string⟩
  case h_7 => cases h; exact ⟨_, rfl, .emptyArray⟩
  case h_9 => cases h; exact ⟨_, rfl, .emptyObject⟩
  case h_8 heq =>
    cases heq
    obtain ⟨⟨vs, tail⟩, hread, heq⟩ := Option.map_eq_some_iff.mp h
    obtain ⟨rfl, rfl⟩ := by simpa using heq
    obtain ⟨us, rfl, hus⟩ := hn.elements hread
    exact ⟨_, by simp, .array hus⟩
  case h_10 heq =>
    cases heq
    obtain ⟨⟨fs, tail⟩, hread, heq⟩ := Option.map_eq_some_iff.mp h
    obtain ⟨rfl, rfl⟩ := by simpa using heq
    obtain ⟨us, rfl, hus⟩ := hn.fields hread
    exact ⟨_, by simp, .object hus⟩

theorem Justified.elements_succ (hn : Justified n) {ts rest : List Token} {vs : List Json}
    (h : Json.elementsWithin? (n + 1) ts = some (vs, rest)) :
    ∃ us, ts = us ++ .closeBracket :: rest ∧ (Phrase.elements vs).MadeOf us := by
  unfold Json.elementsWithin? at h
  split at h
  · next hread =>
    obtain ⟨us, rfl, hus⟩ := hn.value hread
    obtain ⟨rfl, rfl⟩ := by simpa using h
    exact ⟨us, rfl, .lastElement hus⟩
  · next hread =>
    obtain ⟨us, rfl, hus⟩ := hn.value hread
    obtain ⟨⟨vs, tail⟩, hrest, heq⟩ := Option.map_eq_some_iff.mp h
    obtain ⟨rfl, rfl⟩ := by simpa using heq
    obtain ⟨us', rfl, hus'⟩ := hn.elements hrest
    exact ⟨_, by simp, .element hus hus'⟩
  · simp at h

theorem Justified.fields_succ (hn : Justified n) {ts rest : List Token}
    {fs : List (Option String × Json)} (h : Json.fieldsWithin? (n + 1) ts = some (fs, rest)) :
    ∃ us, ts = us ++ .closeBrace :: rest ∧ (Phrase.fields fs).MadeOf us := by
  unfold Json.fieldsWithin? at h
  split at h
  case h_1 | h_3 => simp at h
  case h_2 heq =>
    cases heq
    split at h
    · next hread =>
      obtain ⟨us, rfl, hus⟩ := hn.value hread
      obtain ⟨rfl, rfl⟩ := by simpa using h
      exact ⟨_, rfl, .lastField hus⟩
    · next hread =>
      obtain ⟨us, rfl, hus⟩ := hn.value hread
      obtain ⟨⟨fs, tail⟩, hrest, heq⟩ := Option.map_eq_some_iff.mp h
      obtain ⟨rfl, rfl⟩ := by simpa using heq
      obtain ⟨us', rfl, hus'⟩ := hn.fields hrest
      exact ⟨_, by simp, .field hus hus'⟩
    · simp at h

/-- **What is read is derived by the grammar.** -/
theorem justified (n : Nat) : Justified n := by
  induction n with
  | zero => constructor <;> simp [Json.valueWithin?, Json.elementsWithin?, Json.fieldsWithin?]
  | succ n ih => exact ⟨ih.value_succ, ih.elements_succ, ih.fields_succ⟩

/-! ### Numbers in a phrase -/

/-- **No number stands next to another one.** Between two values there is a comma or a colon. -/
theorem MadeOf.parted (h : p.MadeOf ts) : Parted ts := by
  have hfront : ∀ {t : Token} {us}, t.isNumber = Bool.false → Parted us → Parted (t :: us) := by
    intro t us ht hus
    rw [Parted, List.isChain_cons]
    exact ⟨fun u _ hboth => by simp [ht] at hboth, hus⟩
  have hbetween : ∀ {us vs : List Token} {t : Token}, t.isNumber = Bool.false → Parted us →
      Parted vs → Parted (us ++ t :: vs) := by
    intro us vs t ht hus hvs
    rw [Parted, List.isChain_append]
    refine ⟨hus, hfront ht hvs, fun a _ b hb hboth => ?_⟩
    obtain rfl : t = b := by simpa using hb
    simp [ht] at hboth
  have hnil : Parted [] := List.isChain_nil
  induction h with
  | null | true | false | number | string => exact List.isChain_singleton _
  | emptyArray | emptyObject => exact hfront rfl (List.isChain_singleton _)
  | array _ ih | object _ ih => exact hfront rfl (hbetween rfl ih hnil)
  | lastElement _ ih => exact ih
  | element _ _ ih₁ ih₂ => exact hbetween rfl ih₁ ih₂
  | lastField _ ih => exact hfront rfl (hfront rfl ih)
  | field _ _ ih₁ ih₂ => exact hfront rfl (hfront rfl (hbetween rfl ih₁ ih₂))

end Phrase

/-! ### Whole texts -/

/-- **The tokens of a value are read as it, and no others are.** -/
theorem Json.ofTokens?_eq_some_iff {ts : List Token} {j : Json} :
    Json.ofTokens? ts = some j ↔ (Phrase.value j).MadeOf ts := by
  unfold ofTokens?
  constructor
  · intro h
    split at h
    · next hread =>
      obtain ⟨us, rfl, hus⟩ := (Phrase.justified _).value hread
      obtain rfl := by simpa using h
      rwa [List.append_nil]
    · simp at h
  · intro h
    have hread := h.read _ [] (Nat.le_refl _)
    rw [List.append_nil] at hread
    rw [hread]

/-- **The value of a text** is the one whose tokens the text is laid out of. -/
theorem Json.parse?_eq_some_iff {text : String} {j : Json} : Json.parse? text = some j ↔
    ∃ ls, Laid ls text.toList ∧ (Phrase.value j).MadeOf (ls.map Lexeme.token) := by
  rw [parse?, Option.bind_eq_some_iff]
  constructor
  · rintro ⟨ts, hts, hj⟩
    obtain ⟨ls, rfl, hlaid⟩ := exists_laid_of_tokens? hts
    exact ⟨ls, hlaid, ofTokens?_eq_some_iff.mp hj⟩
  · rintro ⟨ls, hlaid, hj⟩
    exact ⟨_, hlaid.tokens?_eq hj.parted, ofTokens?_eq_some_iff.mpr hj⟩

end AddressGrammar.Settings
