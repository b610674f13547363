import AddressGrammar.Proofs.Peg.Places
import AddressGrammar.Proofs.Text.Columns
import AddressGrammar.Proofs.Validation.AsciiOnly
import AddressGrammar.Proofs.Validation.ErrorLocality

/-!
# Where diagnostics point

A diagnostic says in four ways where its input stops matching: by an offset, by the character there,
by a line and a column, and by the line itself with a mark under it. They are computed apart from one
another, from the end of the match or the farthest failure, whichever lies further on, and they are
about the same character.

An offset inside a character would spoil that. The character at it would be the one around it, while
the mark would stand under it all the same. It does not come up: both grammars read bytes below 128
only and look ahead for single bytes, so a run neither stops nor fails inside a character.

## Main definitions

* `Diagnostic.PointsInto` — the parts of a diagnostic agree about a character of an input
* `Validator.TakesUpTo` — a rule matches the beginning of an input

## Main results

* `Diagnostic.pointsInto_locate` — they do where a character begins or the input ends
* `isValid_blame` — rejections are explained at such places
* `diagnostics_point_into_input` — both together, for all checks
-/

namespace AddressGrammar

open Text Peg

/-- Applied at the beginning of an input, the rule of that name matches up to an offset. -/
def Peg.Grammar.TakesUpTo {R : Type} [DecidableEq R] (g : Grammar R) (maxDepth : Nat)
    (name input : String) (e : Nat) : Prop :=
  ∃ r, g.ruleNamed? name = some r ∧ ((Run.start g input maxDepth).apply r).1 = .hit 0 e

namespace Validation

/-- In the grammar of the validator, the rule of that name matches up to an offset. -/
def Validator.TakesUpTo (v : Validator) (name input : String) (e : Nat) : Prop :=
  match v.syntaxKind with
  | .modern => (Modern.grammar v.policy).TakesUpTo v.maxDepth name input e
  | .legacy => (Legacy.grammar v.policy).TakesUpTo v.maxDepth name input e

/-! ### One character, four times -/

/-- The diagnostic is about one character of the input, or about its end. -/
structure Diagnostic.PointsInto (d : Diagnostic) (input : String) : Prop where
  /-- The offset lies in the input. -/
  offset_le : d.offset ≤ input.utf8ByteSize
  /-- A character begins there, or the input ends. -/
  boundary : (⟨d.offset⟩ : String.Pos.Raw).IsValid input
  /-- No character was found if and only if the input ends there. -/
  found_eq_none : d.found = none ↔ d.offset = input.utf8ByteSize
  /-- The character that was found is the one at the offset. -/
  found_eq_some : ∀ c, d.found = some c ↔ ∃ before after,
    input = before ++ String.singleton c ++ after ∧ before.utf8ByteSize = d.offset
  /-- Columns are counted from one. -/
  column_pos : 1 ≤ d.column
  /-- The character stands in the line at the column, unless it ends the line. -/
  in_line : ∀ c, d.found = some c → c ≠ '\r' → c ≠ '\n' → d.lineText.toList[d.column - 1]? = some c
  /-- The mark stands below it, in a line of its own. -/
  marked : pieces d.caret.toList = [d.lineText.toList, List.replicate (d.column - 1) ' ' ++ ['^']]

/-- **A diagnostic that is located where a character begins** is about that character. -/
theorem Diagnostic.pointsInto_locate {input : String} {offset : Nat} (rule production : String)
    (hv : (⟨offset⟩ : String.Pos.Raw).IsValid input) :
    (Diagnostic.locate input offset rule production).PointsInto input := by
  obtain ⟨s, t, rfl, hoffset⟩ := String.Pos.Raw.isValid_iff_exists_append.mp hv
  obtain rfl : offset = s.utf8ByteSize := congrArg String.Pos.Raw.byteIdx hoffset
  have hfound : ∀ s t : String, (Diagnostic.locate (s ++ t) s.utf8ByteSize rule production).found =
      t.toList.head? := by
    intro s t
    rw [Diagnostic.locate, splitAtOffset_size]
  exact {
    offset_le := hv.le_rawEndPos
    boundary := hv
    found_eq_none := by
      rw [hfound, List.head?_eq_none_iff, String.toList_eq_nil_iff, ← String.utf8ByteSize_eq_zero_iff]
      change _ ↔ s.utf8ByteSize = _
      rw [String.utf8ByteSize_append]
      omega
    found_eq_some := by
      intro c
      constructor
      · intro hc
        rw [hfound] at hc
        obtain ⟨cs, hcs⟩ := List.head?_eq_some_iff.mp hc
        refine ⟨s, String.ofList cs, ?_, rfl⟩
        rw [← String.toList_inj]
        simp [hcs]
      · rintro ⟨before, after, heq, hsize⟩
        change before.utf8ByteSize = s.utf8ByteSize at hsize
        rw [heq, ← hsize, String.append_assoc, hfound]
        simp
    column_pos := Nat.le_add_left ..
    in_line := by
      intro c hc hcr hlf
      rw [hfound] at hc
      exact getElem?_lineText hcr hlf hc
    marked := by
      have hmark : '\n' ∉ List.replicate
          ((Diagnostic.locate (s ++ t) s.utf8ByteSize rule production).column - 1) ' ' ++ ['^'] := by
        simp
      have hlines := pieces_lineText_append (s ++ t) (lineColumn (s ++ t) s.utf8ByteSize).1 hmark
      simpa [Diagnostic.caret, Diagnostic.locate] using hlines }

/-! ### Where rejections are explained -/

section

variable {R : Type} [DecidableEq R] {g : Grammar R} {maxDepth : Nat} {name input : String}
  {rule : R} {o : Outcome} {t : State R} {h : List (Moment R)}

/-- Bytes below 128 lead from the beginning of a character to the beginning of one. -/
theorem leads_isValid (input : String) :
    Leads input holdsAscii fun p => (⟨p⟩ : String.Pos.Raw).IsValid input :=
  fun _ _ hc hclass hv =>
    (asciiBetween_of_classAt hc hclass).isValid (Nat.le_succ _) (lt_of_classAt hclass) hv

theorem blame_of_on {B : Nat → Prop} {matched : Bool} (ht : t.On B) : B (blame rule matched t).2 := by
  unfold blame
  split
  · next failed offset hf =>
    split
    · exact ht.failure failed offset hf
    · exact ht.pos
  · exact ht.pos

/-- **Rejections are explained between characters**, in grammars that account for what they read and
read bytes below 128 only. -/
theorem isValid_blame (haccount : ∀ r, (g.body r).accountable = true)
    (hcovered : ∀ r, (g.body r).covered holdsAscii (fun _ => true) = true)
    (hd : Derives ⟨g, input, maxDepth⟩ (.rule rule .initial o t) h) :
    (⟨(blame rule o.matched t).2⟩ : String.Pos.Raw).IsValid input := by
  have hstays := hd.stays_on (leads_isValid input) haccount hcovered
  exact blame_of_on (B := fun p => (⟨p⟩ : String.Pos.Raw).IsValid input)
    (hstays (.initial String.Pos.Raw.isValid_zero)).1

theorem pointsInto_of_checkWhole (haccount : ∀ r, (g.body r).accountable = true)
    (hcovered : ∀ r, (g.body r).covered holdsAscii (fun _ => true) = true) {d : Diagnostic}
    (hcheck : checkWhole g maxDepth name input = .error (.mismatch d)) :
    d.PointsInto input ∧ ∀ e, g.TakesUpTo maxDepth name input e → e ≤ d.offset := by
  cases hr : g.ruleNamed? name with
  | none =>
    rw [checkWhole_of_ruleNamed? hr] at hcheck
    cases hcheck
  | some rule =>
    obtain ⟨o, t, h, hd, hverdict⟩ := exists_verdict input maxDepth hr
    obtain ⟨-, -, rfl⟩ := verdict_eq_mismatch_iff.mp (hverdict.symm.trans hcheck)
    refine ⟨Diagnostic.pointsInto_locate _ _ (isValid_blame haccount hcovered hd), ?_⟩
    rintro e ⟨rule', hr', htakes⟩
    obtain rfl : rule = rule' := Option.some.inj (hr.symm.trans hr')
    -- The check makes this very application.
    obtain ⟨o', t', h', heq, hd'⟩ :=
      (Run.start g input maxDepth).exists_apply (Run.valid_start ..) rule
    obtain ⟨rfl, rfl, -⟩ := hd.determined _ _ _ hd'
    rw [heq] at htakes
    obtain rfl : o' = .hit 0 e := htakes
    obtain ⟨-, -, hpos⟩ := hd.sound (State.valid_initial _)
    have hle := (upTo_blame hd).pos_le
    rw [hpos] at hle
    exact hle

end

/-- **Diagnostics point at the real place.** If a check of any validator reports a mismatch, then its
offset lies in the input, at the beginning of a character or at the end, and not in front of where
the rule itself stopped if that matched. The character that was found is the one at the offset; it is
missing exactly at the end of the input; and unless it ends its line, it stands in the line that is
shown at the column that is told, with the mark below it. -/
theorem diagnostics_point_into_input (v : Validator) {name input : String} {d : Diagnostic}
    (h : v.checkRule name input = .error (.mismatch d)) :
    d.PointsInto input ∧ ∀ e, v.TakesUpTo name input e → e ≤ d.offset := by
  unfold Validator.checkRule at h
  unfold Validator.TakesUpTo
  cases hkind : v.syntaxKind with
  | modern =>
    rw [hkind] at h
    exact pointsInto_of_checkWhole (Modern.accountable_body v.policy)
      (Modern.coveredAscii_body v.policy) h
  | legacy =>
    rw [hkind] at h
    exact pointsInto_of_checkWhole (Legacy.accountable_body v.policy)
      (Legacy.coveredAscii_body v.policy) h

/-- An accented letter behind a folded line: the address ends in front of it, in the second line. -/
theorem diagnostics_point_into_input_accent :
    ∃ d, Validator.modern.checkRule "addr-spec" "a@b\r\n é" = .error (.mismatch d) ∧
      d.offset = 6 ∧ d.PointsInto "a@b\r\n é" ∧
      Validator.modern.TakesUpTo "addr-spec" "a@b\r\n é" 6 ∧ 6 ≤ d.offset := by
  have hmismatch :
      mismatchOffset? (Validator.modern.checkRule "addr-spec" "a@b\r\n é") = some 6 := by
    decide +kernel
  obtain ⟨d, hd, hoffset⟩ := eq_mismatch_of_offset hmismatch
  obtain ⟨hpoints, hbehind⟩ := diagnostics_point_into_input Validator.modern hd
  have htakes : Validator.modern.TakesUpTo "addr-spec" "a@b\r\n é" 6 :=
    ⟨.addrSpec, by decide +kernel, by decide +kernel⟩
  exact ⟨d, hd, hoffset, hpoints, htakes, hbehind 6 htakes⟩

end Validation

end AddressGrammar
