import AddressGrammar.Proofs.Settings.Fields
import AddressGrammar.Proofs.Settings.Values

/-!
# Settings texts as objects and arrays

A member is a field as it stands in a text, its name and its value each in a spelling of its own. An
object is its members with commas between them and braces around them, and a text of it has blanks
wherever they may stand. Reading settings is a matter of the fields of the members alone: how they
are spelled, how they are laid out, in which order they come and what else is among them does not
show in the validator.

Of an array only the values of its elements matter. Whether a text is an object or an array is seen
from its first character that is no blank.

## Main definitions

* `Member`, `objectLexemes` — a field in a spelling of it, and the lexemes of an object
* `IsObjectText` — the texts of an object with these members
* `IsArrayText` — the texts of an array with these elements

## Main results

* `IsObjectText.parse?_eq`, `exists_members_of_parse?` — the objects are the values of these texts
* `IsObjectText.read?_eq_some_iff`, `IsArrayText.read?_eq_some_iff` — the validator of an object and
  of an array
* `object_or_array_of_read?` — only objects and arrays are read
* `IsObjectText.read?_eq_of_perm` — what does not change it
-/

namespace AddressGrammar.Settings

open Validation

/-! ### Members -/

/-- A field of an object as it stands in a text. -/
structure Member where
  /-- The text that its name spells, if it spells one. -/
  key : Option String
  /-- Its value. -/
  value : Json
  /-- Its lexemes, from its name to the end of its value. -/
  lexemes : List Lexeme
  /-- They spell the name, a colon and the value. -/
  reads : ∃ ts, lexemes.map Lexeme.token = .string key :: .colon :: ts ∧
    (Phrase.value value).MadeOf ts

/-- The name and the value of a member. -/
def Member.field (m : Member) : Option String × Json := (m.key, m.value)

/-- An opening brace. -/
def Lexeme.openBrace : Lexeme := ⟨.openBrace, ['\x7b'], .fixed rfl⟩

/-- A closing brace. -/
def Lexeme.closeBrace : Lexeme := ⟨.closeBrace, ['\x7d'], .fixed rfl⟩

/-- An opening bracket. -/
def Lexeme.openBracket : Lexeme := ⟨.openBracket, ['['], .fixed rfl⟩

/-- A closing bracket. -/
def Lexeme.closeBracket : Lexeme := ⟨.closeBracket, [']'], .fixed rfl⟩

/-- A comma. -/
def Lexeme.comma : Lexeme := ⟨.comma, [','], .fixed rfl⟩

/-- A token that is no string and no number has one spelling. -/
theorem Lexeme.eq_of_token_eq {l l' : Lexeme} (h : l.token = l'.token) {cs : List Char}
    (hcs : l'.token.fixedText? = some cs) : l = l' := by
  have hchars : ∀ {t : Token} {ds : List Char}, t.fixedText? = some cs → t.Spelled ds → ds = cs := by
    intro t ds ht hds
    cases hds with
    | fixed h' => exact Option.some.inj (h'.symm.trans ht)
    | string | unsigned | negative => simp [Token.fixedText?] at ht
  obtain ⟨t, ds, hds⟩ := l
  obtain ⟨t', ds', hds'⟩ := l'
  obtain rfl : t = t' := h
  obtain rfl : ds = ds' := (hchars hcs hds).trans (hchars hcs hds').symm
  rfl

/-- The lexemes of members with commas between them. -/
def membersLexemes (ms : List Member) : List Lexeme :=
  [Lexeme.comma].intercalate (ms.map Member.lexemes)

/-- The lexemes of an object. -/
def objectLexemes (ms : List Member) : List Lexeme :=
  .openBrace :: (membersLexemes ms ++ [.closeBrace])

/-- The text is an object with these members: their lexemes with commas between them and braces
around them, and blanks anywhere between lexemes. -/
def IsObjectText (ms : List Member) (text : String) : Prop := Laid (objectLexemes ms) text.toList

theorem membersLexemes_cons_cons (m m' : Member) (ms : List Member) :
    membersLexemes (m :: m' :: ms) =
      m.lexemes ++ Lexeme.comma :: membersLexemes (m' :: ms) := by
  simp [membersLexemes, List.intercalate_cons_cons]

/-! ### Objects are made of members -/

/-- Members make up their fields. -/
theorem membersLexemes_madeOf {ms : List Member} (hms : ms ≠ []) :
    (Phrase.fields (ms.map Member.field)).MadeOf ((membersLexemes ms).map Lexeme.token) := by
  induction ms with
  | nil => exact absurd rfl hms
  | cons m ms ih =>
    obtain ⟨ts, hm, hts⟩ := m.reads
    cases ms with
    | nil =>
      have hlexemes : membersLexemes [m] = m.lexemes := by simp [membersLexemes]
      rw [hlexemes, hm]
      exact .lastField hts
    | cons m' ms =>
      have hrest := ih (List.cons_ne_nil _ _)
      rw [membersLexemes_cons_cons, List.map_append, List.map_cons, hm]
      exact .field hts hrest

/-- Lexemes that make up fields are the ones of members. -/
theorem exists_members_of_madeOf {fs : List (Option String × Json)} {ls : List Lexeme}
    (h : (Phrase.fields fs).MadeOf (ls.map Lexeme.token)) :
    ∃ ms : List Member, ms ≠ [] ∧ ms.map Member.field = fs ∧ ls = membersLexemes ms := by
  induction fs generalizing ls with
  | nil => cases h
  | cons f fs ih =>
    obtain ⟨ts, hts⟩ : ∃ ts, ls.map Lexeme.token = ts := ⟨_, rfl⟩
    rw [hts] at h
    cases h with
    | @lastField key v us hv =>
      refine ⟨[⟨key, v, ls, us, hts, hv⟩], List.cons_ne_nil _ _, rfl, ?_⟩
      simp [membersLexemes]
    | @field key v us _ us' hv hfs =>
      -- The comma behind the first value splits the lexemes.
      rw [← List.cons_append, ← List.cons_append] at hts
      obtain ⟨first, rest, rfl, hfirst, hrest⟩ := List.map_eq_append_iff.mp hts
      obtain ⟨comma, rest, rfl, hcomma, rfl⟩ := List.map_eq_cons_iff.mp hrest
      obtain rfl : comma = .comma := Lexeme.eq_of_token_eq hcomma rfl
      obtain ⟨ms, hms, rfl, rfl⟩ := ih hfs
      obtain ⟨m, ms, rfl⟩ := List.exists_cons_of_ne_nil hms
      refine ⟨⟨key, v, first, us, hfirst, hv⟩ :: m :: ms, List.cons_ne_nil _ _, rfl, ?_⟩
      rw [membersLexemes_cons_cons]

/-- The lexemes of an object make it up. -/
theorem objectLexemes_madeOf (ms : List Member) :
    (Phrase.value (.object (ms.map Member.field))).MadeOf ((objectLexemes ms).map Lexeme.token) := by
  rw [objectLexemes, List.map_cons, List.map_append]
  by_cases hms : ms = []
  · obtain rfl := hms
    exact .emptyObject
  · exact .object (membersLexemes_madeOf hms)

/-- Lexemes that make up an object are the ones of members. -/
theorem exists_members_of_object_madeOf {fs : List (Option String × Json)} {ls : List Lexeme}
    (h : (Phrase.value (.object fs)).MadeOf (ls.map Lexeme.token)) :
    ∃ ms : List Member, ms.map Member.field = fs ∧ ls = objectLexemes ms := by
  obtain ⟨ts, hts⟩ : ∃ ts, ls.map Lexeme.token = ts := ⟨_, rfl⟩
  rw [hts] at h
  cases h with
  | emptyObject =>
    obtain ⟨opening, rest, rfl, hopening, hrest⟩ := List.map_eq_cons_iff.mp hts
    obtain ⟨closing, rest, rfl, hclosing, hnil⟩ := List.map_eq_cons_iff.mp hrest
    obtain rfl := List.map_eq_nil_iff.mp hnil
    obtain rfl : opening = .openBrace := Lexeme.eq_of_token_eq hopening rfl
    obtain rfl : closing = .closeBrace := Lexeme.eq_of_token_eq hclosing rfl
    exact ⟨[], rfl, rfl⟩
  | object hfs =>
    obtain ⟨opening, rest, rfl, hopening, hrest⟩ := List.map_eq_cons_iff.mp hts
    obtain ⟨inner, last, rfl, rfl, hlast⟩ := List.map_eq_append_iff.mp hrest
    obtain ⟨closing, rest, rfl, hclosing, hnil⟩ := List.map_eq_cons_iff.mp hlast
    obtain rfl := List.map_eq_nil_iff.mp hnil
    obtain rfl : opening = .openBrace := Lexeme.eq_of_token_eq hopening rfl
    obtain rfl : closing = .closeBrace := Lexeme.eq_of_token_eq hclosing rfl
    obtain ⟨ms, -, rfl, rfl⟩ := exists_members_of_madeOf hfs
    exact ⟨ms, rfl, rfl⟩

/-! ### Arrays -/

/-- The text is an array with these elements: lexemes that make it up, and blanks anywhere between
them. -/
def IsArrayText (elements : List Json) (text : String) : Prop :=
  ∃ ls, Laid ls text.toList ∧ (Phrase.value (.array elements)).MadeOf (ls.map Lexeme.token)

/-- An array begins with a bracket. -/
theorem IsArrayText.find?_eq {elements : List Json} {text : String} (h : IsArrayText elements text) :
    text.toList.find? (fun c => !isBlank c) = some '[' := by
  obtain ⟨ls, hlaid, hls⟩ := h
  obtain ⟨ts, hts⟩ : ∃ ts, ls.map Lexeme.token = .openBracket :: ts := by
    generalize ls.map Lexeme.token = ts at hls
    cases hls <;> exact ⟨_, rfl⟩
  obtain ⟨opening, rest, rfl, hopening, -⟩ := List.map_eq_cons_iff.mp hts
  obtain rfl : opening = .openBracket := Lexeme.eq_of_token_eq hopening rfl
  exact hlaid.find?_eq

/-- An object begins with a brace. -/
theorem IsObjectText.find?_eq {ms : List Member} {text : String} (h : IsObjectText ms text) :
    text.toList.find? (fun c => !isBlank c) = some '\x7b' := Laid.find?_eq h

/-! ### Reading the texts of objects and arrays -/

variable {ms : List Member} {elements : List Json} {text : String} {v : Validator}

theorem IsObjectText.parse?_eq (h : IsObjectText ms text) :
    Json.parse? text = some (.object (ms.map Member.field)) :=
  Json.parse?_eq_some_iff.mpr ⟨_, h, objectLexemes_madeOf ms⟩

theorem exists_members_of_parse? {fs : List (Option String × Json)}
    (h : Json.parse? text = some (.object fs)) :
    ∃ ms, ms.map Member.field = fs ∧ IsObjectText ms text := by
  obtain ⟨ls, hlaid, hls⟩ := Json.parse?_eq_some_iff.mp h
  obtain ⟨ms, rfl, rfl⟩ := exists_members_of_object_madeOf hls
  exact ⟨ms, rfl, hlaid⟩

/-- **The validator of an object** is the one whose settings its fields give. -/
theorem IsObjectText.read?_eq_some_iff (h : IsObjectText ms text) :
    read? text = some v ↔ Overrides (ms.map Member.field) v := by
  rw [read?, h.parse?_eq, ofFields?_eq_some_iff]

/-- **The validator of an array** is the one whose settings its elements give in their order. -/
theorem IsArrayText.read?_eq_some_iff (h : IsArrayText elements text) : read? text = some v ↔
    elements.length ≤ settingNames.length ∧ Overrides (inOrder elements) v := by
  rw [read?, Json.parse?_eq_some_iff.mpr h, ofElements?_eq_some_iff]

/-- **Settings are only read from objects and arrays.** -/
theorem object_or_array_of_read? (h : read? text = some v) :
    (∃ ms, IsObjectText ms text) ∨ ∃ elements, IsArrayText elements text := by
  unfold read? at h
  split at h
  · next hparse =>
    obtain ⟨ms, -, hms⟩ := exists_members_of_parse? hparse
    exact .inl ⟨ms, hms⟩
  · next hparse => exact .inr ⟨_, Json.parse?_eq_some_iff.mp hparse⟩
  · cases h

/-- **Another text with the same members**, in any order and layout and with unknown members among
them, is read as the same validator. -/
theorem IsObjectText.read?_eq_of_perm {ms' added : List Member} {text' : String}
    (h : IsObjectText ms text) (h' : IsObjectText ms' text') (hread : read? text = some v)
    (hperm : ms'.Perm (ms ++ added)) (hadded : ∀ m ∈ added, IsUnknownField m.field) :
    read? text' = some v := by
  have hoverrides := h.read?_eq_some_iff.mp hread
  have hmore : Overrides (ms.map Member.field ++ added.map Member.field) v := by
    refine hoverrides.append_unknown fun f hf => ?_
    obtain ⟨m, hm, rfl⟩ := List.mem_map.mp hf
    exact hadded m hm
  rw [← List.map_append] at hmore
  exact h'.read?_eq_some_iff.mpr (hmore.perm (hperm.symm.map Member.field))

end AddressGrammar.Settings
