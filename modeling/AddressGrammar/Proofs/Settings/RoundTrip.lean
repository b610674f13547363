import AddressGrammar.Proofs.Settings.Objects

/-!
# Settings that are written and read

A written validator is an object with one member per setting, in the order of the settings and
without blanks. Its names and choices are plain text and its bound is a decimal number, so it is read
as the validator it was written for, provided that the bound is one of those that can be written at
all: the reader refuses larger ones.

## Main definitions

* `IsPlain`, `Lexeme.text`, `Lexeme.depth`, `Lexeme.truth` — the values of written settings
* `written` — the members of a written validator

## Main results

* `isObjectText_write` — what is written is an object with these members
* `settings_read_back` — it is read back, and so is every text with the same members
-/

namespace AddressGrammar.Settings

open Validation

/-! ### Written values -/

/-- The character stands for itself in a string. -/
def IsPlain (c : Char) : Prop := 0x20 ≤ c.toNat ∧ c ≠ '"' ∧ c ≠ '\\'

instance (c : Char) : Decidable (IsPlain c) := inferInstanceAs (Decidable (_ ∧ _))

-- Along the text: there are finitely many characters, and going through all of them takes too long.
instance (cs : List Char) : Decidable (∀ c ∈ cs, IsPlain c) := List.decidableBAll IsPlain cs

theorem inside_of_isPlain {cs : List Char} (h : ∀ c ∈ cs, IsPlain c) :
    Inside (cs.map .char) cs := by
  induction cs with
  | nil => exact .nil
  | cons c cs ih =>
    obtain ⟨hcontrol, hquote, hback⟩ := h c (List.mem_cons_self ..)
    exact .cons (.plain hcontrol hquote hback) (ih fun d hd => h d (List.mem_cons_of_mem _ hd))

theorem joinPieces_map_char (cs : List Char) : joinPieces (cs.map .char) = some cs := by
  induction cs with
  | nil => rfl
  | cons c cs ih => simp [joinPieces, ih]

/-- A string without escapes. -/
def Lexeme.text (s : String) (h : ∀ c ∈ s.toList, IsPlain c) : Lexeme where
  token := .string (some s)
  chars := '"' :: (s.toList ++ ['"'])
  spelled := by
    have hspelled := Token.Spelled.string (inside_of_isPlain h)
    rwa [joinPieces_map_char, Option.map_some, String.ofList_toList] at hspelled

/-- The decimal digits of a number do not begin with a zero, unless it is zero. -/
theorem isWhole_toDigits (n : Nat) : IsWhole (Nat.toDigits 10 n) where
  ne_nil := Nat.toDigits_ne_nil
  isDigit _ hc := Nat.isDigit_of_mem_toDigits (by decide) (by decide) hc
  length_eq := by
    induction n using Nat.strongRecOn with
    | ind n ih =>
      intro hhead
      rw [Nat.toDigits_eq_if (by decide)] at hhead ⊢
      by_cases hn : n < 10
      · rw [if_pos hn]
        rfl
      · rw [if_neg hn] at hhead ⊢
        -- The first digit is the one of a tenth, which is not zero.
        have htenth : (Nat.toDigits 10 (n / 10)).head? = some '0' := by
          obtain ⟨c, cs, hcs⟩ := List.exists_cons_of_ne_nil (Nat.toDigits_ne_nil (n := n / 10) (b := 10))
          rw [hcs] at hhead ⊢
          simpa using hhead
        have hlength := ih (n / 10) (by omega) htenth
        have hvalue := Nat.ofDigitChars_toDigits (n := n / 10) (b := 10) (by decide) (by decide)
        obtain ⟨c, hc⟩ := List.length_eq_one_iff.mp hlength
        rw [hc] at htenth hvalue
        obtain rfl : c = '0' := by simpa using htenth
        simp [Nat.ofDigitChars] at hvalue
        omega

theorem digitsValue_toDigits (n : Nat) : digitsValue (Nat.toDigits 10 n) = n := by
  have hvalue := Nat.ofDigitChars_toDigits (n := n) (b := 10) (by decide) (by decide)
  simpa only [Nat.ofDigitChars, digitsValue, Nat.mul_comm 10] using hvalue

/-- A number in decimal digits. -/
def Lexeme.depth (n : Nat) : Lexeme where
  token := .number (some n)
  chars := (toString n).toList
  spelled := by
    have hspelled := Unsigned.parts (isWhole_toDigits n) .absent .absent
    simp only [Bool.or_self, Bool.false_eq_true, if_false, List.append_nil,
      digitsValue_toDigits] at hspelled
    rw [show toString n = n.repr from rfl, Nat.toList_repr]
    exact .unsigned hspelled

/-- A truth value. -/
def Lexeme.truth (b : Bool) : Lexeme where
  token := if b then .true else .false
  chars := (toString b).toList
  spelled := by cases b <;> exact .fixed rfl

/-! ### Written validators -/

/-- A colon. -/
def Lexeme.colon : Lexeme := ⟨.colon, [':'], .fixed rfl⟩

/-- A member without escapes in its name whose value is a single lexeme. -/
def Member.plain (key : String) (hkey : ∀ c ∈ key.toList, IsPlain c) (value : Json) (l : Lexeme)
    (hl : (Phrase.value value).MadeOf [l.token]) : Member where
  key := some key
  value := value
  lexemes := [.text key hkey, .colon, l]
  reads := ⟨_, rfl, hl⟩

theorem isPlain_syntaxName (s : AddressSyntax) : ∀ c ∈ (syntaxName s).toList, IsPlain c := by
  cases s <;> decide

theorem isPlain_startName (s : StartRule) : ∀ c ∈ (startName s).toList, IsPlain c := by
  cases s <;> decide

/-- The members of a written validator. -/
def written (v : Validator) : List Member :=
  [.plain "syntax" (by decide) (.string (some (syntaxName v.syntaxKind)))
      (.text _ (isPlain_syntaxName v.syntaxKind)) .string,
    .plain "start" (by decide) (.string (some (startName v.startRule)))
      (.text _ (isPlain_startName v.startRule)) .string,
    .plain "validate_domain" (by decide) (.bool v.validateDomain) (.truth v.validateDomain)
      (by cases v.validateDomain <;> constructor),
    .plain "max_depth" (by decide) (.number (some v.maxDepth)) (.depth v.maxDepth) .number]

/-- **What is written is an object** with one member per setting. -/
theorem isObjectText_write (v : Validator) : IsObjectText (written v) (write v) := by
  have htext : (write v).toList = (objectLexemes (written v)).flatMap Lexeme.chars := by
    unfold write
    simp [objectLexemes, membersLexemes, written, Member.plain, Lexeme.text, Lexeme.colon,
      Lexeme.comma, Lexeme.openBrace, Lexeme.closeBrace, Lexeme.truth, Lexeme.depth,
      List.intercalate_cons_cons]
  rw [IsObjectText, htext]
  exact laid_flatMap _

theorem syntaxOf?_syntaxName (s : AddressSyntax) :
    syntaxOf? (.string (some (syntaxName s))) = some s := by
  cases s <;> decide

theorem startOf?_startName (s : StartRule) : startOf? (.string (some (startName s))) = some s := by
  cases s <;> decide

/-- The members of a written validator give its settings. -/
theorem overrides_written {v : Validator} (hv : v.maxDepth ≤ maxWrittenDepth) :
    Overrides ((written v).map Member.field) v := by
  rw [← ofFields?_eq_some_iff]
  simp [ofFields?, fieldOr, written, Member.plain, Member.field, syntaxOf?_syntaxName,
    startOf?_startName, boolOf?, depthOf?, hv]

/-- **Settings are read back.** A written validator is read as itself. Whatever text is read at all
begins with a brace and is an object with some members, or begins with a bracket and is an array with
some elements. An object is read as the validator in which the fields of its members override the
defaults. An array may not have more elements than there are settings, and these override the
defaults in the order of the settings. So every object with the same members is read as the same
validator, in whichever order they stand, however the text is laid out and whichever unknown members
are added. -/
theorem settings_read_back :
    (∀ v : Validator, v.maxDepth ≤ maxWrittenDepth → read? (write v) = some v) ∧
    (∀ text v, read? text = some v →
      text.toList.find? (fun c => !isBlank c) = some '\x7b' ∧ (∃ ms, IsObjectText ms text) ∨
        text.toList.find? (fun c => !isBlank c) = some '[' ∧ ∃ elements, IsArrayText elements text) ∧
    (∀ ms text, IsObjectText ms text →
      ∀ v, read? text = some v ↔ Overrides (ms.map Member.field) v) ∧
    (∀ elements text, IsArrayText elements text → ∀ v, read? text = some v ↔
      elements.length ≤ settingNames.length ∧ Overrides (inOrder elements) v) ∧
    (∀ ms text v, IsObjectText ms text → read? text = some v →
      ∀ ms' added text', ms'.Perm (ms ++ added) → (∀ m ∈ added, IsUnknownField m.field) →
        IsObjectText ms' text' → read? text' = some v) := by
  refine ⟨fun v hv => ?_, fun text v hread => ?_, fun ms text h v => ?_, fun elements text h v => ?_,
    ?_⟩
  · exact (isObjectText_write v).read?_eq_some_iff.mpr (overrides_written hv)
  · rcases object_or_array_of_read? hread with ⟨ms, h⟩ | ⟨elements, h⟩
    · exact .inl ⟨h.find?_eq, ms, h⟩
    · exact .inr ⟨h.find?_eq, elements, h⟩
  · exact h.read?_eq_some_iff
  · exact h.read?_eq_some_iff
  · intro ms text v h hread ms' added text' hperm hadded h'
    exact h.read?_eq_of_perm h' hread hperm hadded

/-- Two settings of their own, then in the other order, with blanks and an unknown list, and then as
elements of an array. -/
theorem settings_read_back_reordered :
    let v : Validator := ⟨.legacy, .address, false, 64⟩
    let text := "\x7b\"max_depth\":64,\"syntax\":\"legacy\"\x7d"
    let text' := "\x7b \"syntax\" :\"legacy\",\n\"notes\":[null],\"max_depth\":64\x7d"
    let listed := "[\"legacy\",\"address\",false,64]"
    read? (write v) = some v ∧ read? text = some v ∧ read? text' = some v ∧ read? listed = some v ∧
      (∃ ms ms' added, IsObjectText ms text ∧ IsObjectText ms' text' ∧
        ms'.Perm (ms ++ added) ∧ (∀ m ∈ added, IsUnknownField m.field)) ∧
      ∃ elements, IsArrayText elements listed := by
  intro v text text' listed
  obtain ⟨hwrite, -, hread, harray, hperm⟩ := settings_read_back
  let depth : Member := .plain "max_depth" (by decide) (.number (some 64)) (.depth 64) .number
  let kind : Member :=
    .plain "syntax" (by decide) (.string (some "legacy")) (.text "legacy" (by decide)) .string
  let notes : Member :=
    ⟨some "notes", .array [.null], [.text "notes" (by decide), .colon, .openBracket,
      ⟨.null, _, .fixed rfl⟩, .closeBracket], _, rfl, .array (.lastElement .null)⟩
  have htext : IsObjectText [depth, kind] text := by
    have hchars : text.toList = (objectLexemes [depth, kind]).flatMap Lexeme.chars := by decide
    rw [IsObjectText, hchars]
    exact laid_flatMap _
  have htext' : IsObjectText [kind, notes, depth] text' := by
    have hlaid : Laid (objectLexemes [kind, notes, depth]) _ :=
      .lexeme (.blank (c := ' ') rfl (.lexeme (.blank (c := ' ') rfl (.lexeme (.lexeme (.lexeme
        (.blank (c := '\n') rfl (laid_flatMap _))))))))
    refine (congrArg (Laid _) ?_).mpr hlaid
    decide
  have hv : read? text = some v := by
    rw [hread _ _ htext, ← ofFields?_eq_some_iff]
    rfl
  have hreorder : ([kind, notes] ++ [depth]).Perm ([depth] ++ [kind, notes]) :=
    List.perm_append_comm
  have hnotes : ∀ m ∈ [notes], IsUnknownField m.field := by
    intro m hm
    obtain rfl : m = notes := by simpa using hm
    exact ⟨"notes", rfl, by decide⟩
  let elements : List Json :=
    [.string (some "legacy"), .string (some "address"), .bool false, .number (some 64)]
  have hlisted : IsArrayText elements listed := by
    let ls : List Lexeme := [.openBracket, .text "legacy" (by decide), .comma,
      .text "address" (by decide), .comma, .truth false, .comma, .depth 64, .closeBracket]
    have hchars : listed.toList = ls.flatMap Lexeme.chars := by decide
    refine ⟨ls, ?_, .array (.element .string (.element .string (.element .false
      (.lastElement .number))))⟩
    rw [hchars]
    exact laid_flatMap ls
  have hlistedv : read? listed = some v := by
    rw [harray _ _ hlisted, ← ofElements?_eq_some_iff]
    rfl
  exact ⟨hwrite v (by decide), hv, hperm _ _ _ htext hv _ _ _ hreorder hnotes htext', hlistedv,
    ⟨_, _, _, htext, htext', hreorder, hnotes⟩, elements, hlisted⟩

end AddressGrammar.Settings
