import AddressGrammar.Proofs.Modern.Domains
import AddressGrammar.Proofs.Modern.FoldedText
import AddressGrammar.Proofs.Peg.Answers
import AddressGrammar.Proofs.Validation.SpacedAddresses

/-!
# Unstructured text

Unstructured text is a repetition of white space and text, where the white space may be missing and
the text may be obsolete text, which may be empty. So an iteration of it never fails, and what ends
the repetition is an iteration that does not move. Such an iteration has nothing to take: obsolete
text by itself takes line feeds, then carriage returns, then any other byte below 128, so it is empty
only in front of a larger byte or at the end.

It does not matter how the bytes are shared out. An iteration may take a fold as white space or leave
its line end to obsolete text, and one part of a text may be read in many ways; as long as there is a
byte below 128 the next iteration moves, and no rule moves over another byte.

## Main definitions

* `AsciiAt` — a byte below 128 stands at a position

## Main results

* `not_takes_obsText_still`, `not_takes_utext_still` — text moves in front of such a byte
* `takes_unstructured_iff` — unstructured text ends at the first other byte
* `Validation.unstructured_takes_ascii` — the same of runs, and of validators
-/

namespace AddressGrammar.Modern

open Text Peg Peg.Expr Rule

variable {policy : Option Policy} {input : String} {p q i : Nat}

/-- A byte below 128 stands at the position. -/
def AsciiAt (input : String) (p : Nat) : Prop := ∃ b, byteAt? input p = some b ∧ b < 128

/-! ### Text that moves -/

/-- **Obsolete text moves in front of a byte below 128.** It ends in front of a line feed if anywhere
in front of such a byte, and does not begin there without taking it. -/
theorem not_takes_obsText_still (hp : AsciiAt input p) : ¬Takes policy input obsText p p := by
  intro h
  obtain ⟨b, hb, hlt⟩ := hp
  have hk := promised policy input
  have hsolid : ¬Solid input p := hk.taken h
  have hlf : b = 10 := Decidable.byContradiction fun hne => hsolid ⟨b, hb, hne, hlt⟩
  obtain ⟨i, hlfs, hrest⟩ := matches_andThen.mp (matches_attempt.mp (Grammar.matches_body.mp h))
  have hi : i = p := Nat.le_antisymm (hrest.le hk.le) (hlfs.le hk.le)
  subst hi hlf
  have htakes : Takes policy input lf i (i + 1) :=
    Grammar.matches_body.mpr (matches_exactly.mpr ⟨hb, rfl⟩)
  have hmore := Matches.many_rest (grammar policy).matches_unique (.apply htakes) (by omega) hlfs
  exact Nat.not_succ_le_self i (hmore.le hk.le)

/-- So does all other text: its alternatives are single bytes and obsolete text. -/
theorem not_takes_utext_still (hp : AsciiAt input p) : ¬Takes policy input utext p p := by
  intro h
  have hbyte : ∀ {c : ByteClass}, ¬(byte c).Matches input ((grammar policy).Matches input) p true p :=
    fun hc => absurd (matches_byte.mp hc).2 (Nat.ne_of_lt (Nat.lt_succ_self p))
  rcases matches_orElse.mp (Grammar.matches_body.mp h) with hcontrol | ⟨i, hi, hrest⟩
  · exact hbyte (Grammar.matches_body.mp (matches_apply.mp hcontrol))
  · obtain rfl := (matches_apply.mp hi).eq_of_missed
    rcases matches_orElse.mp hrest with hprinted | ⟨j, hj, hobs⟩
    · exact hbyte hprinted
    · obtain ⟨-, rfl⟩ := misses_byte.mp hj
      have hobs := Grammar.matches_body.mp (matches_apply.mp hobs)
      exact not_takes_obsText_still hp (matches_apply.mp hobs)

/-- Text never fails, since obsolete text does not. -/
theorem not_misses_utext : ¬(grammar policy).Matches input utext p false q := by
  intro h
  obtain ⟨i, hi, -⟩ := Grammar.matches_iff.mp h
  obtain ⟨j, -, hrest⟩ := misses_orElse.mp hi
  obtain ⟨k, -, hobs⟩ := misses_orElse.mp hrest
  obtain ⟨l, hl, -⟩ := Grammar.matches_iff.mp (matches_apply.mp hobs)
  exact (promised policy input).missed (r := obsText) (matches_apply.mp hl)

/-! ### Where unstructured text ends -/

/-- One iteration of unstructured text. -/
theorem not_misses_iteration :
    ¬(andThen optFws (apply utext)).Matches input ((grammar policy).Matches input) p false q := by
  intro h
  rcases misses_andThen.mp h with hfws | ⟨i, -, htext⟩
  · cases hfws.eq_true_of_total rfl
  · exact not_misses_utext (matches_apply.mp htext)

/-- **Unstructured text does not end in front of a byte below 128.** -/
theorem not_asciiAt_of_unstructured (h : Takes policy input unstructured p q) :
    ¬AsciiAt input q := by
  have hk := promised policy input
  obtain ⟨i, hloop, hfws⟩ := matches_andThen.mp (matches_attempt.mp (Grammar.matches_body.mp h))
  -- The repetition ends with an iteration that does not move, and neither do its two parts.
  obtain ⟨-, hlast⟩ := hloop.many_invariant (I := fun _ => True) (fun _ _ _ _ => trivial) trivial
  have hstill := hlast.resolve_left fun ⟨j, hj⟩ => not_misses_iteration hj
  obtain ⟨j, hopt, htext⟩ := matches_andThen.mp hstill
  obtain rfl : j = i := Nat.le_antisymm (htext.le hk.le) (hopt.le hk.le)
  obtain ⟨-, rfl⟩ := hopt.unique (grammar policy).matches_unique hfws
  exact fun hascii => not_takes_utext_still hascii (matches_apply.mp htext)

/-- Unstructured text matches everywhere. -/
theorem exists_takes_unstructured (policy : Option Policy) (hp : p ≤ input.utf8ByteSize) :
    ∃ q, Takes policy input unstructured p q := by
  obtain ⟨b, q, h⟩ := (ranking policy).exists_matches hp (apply unstructured)
  obtain ⟨i, hi, -⟩ := Grammar.matches_iff.mp (matches_apply.mp h)
  obtain rfl := hi.eq_true_of_total rfl
  exact ⟨q, matches_apply.mp h⟩

/-- The first offset, from a position on, of a byte of 128 or above, or else the end of the text. -/
structure AsciiEnd (input : String) (p q : Nat) : Prop where
  le : p ≤ q
  le_size : q ≤ input.utf8ByteSize
  ascii : ∀ i b, p ≤ i → i < q → byteAt? input i = some b → b < 128
  stop : q = input.utf8ByteSize ∨ ∃ b, byteAt? input q = some b ∧ 128 ≤ b

theorem AsciiEnd.unique {q' : Nat} (h : AsciiEnd input p q) (h' : AsciiEnd input p q') : q' = q := by
  -- What is left out by one of them lies inside the other one.
  have hle : ∀ {i j}, AsciiEnd input p i → AsciiEnd input p j → j ≤ i := by
    intro i j hi hj
    rcases hi.stop with rfl | ⟨b, hb, hlarge⟩
    · exact hj.le_size
    · refine Nat.not_lt.mp fun hlt => ?_
      have hsmall := hj.ascii i b hi.le hlt hb
      rw [UInt8.lt_iff_toNat_lt] at hsmall
      rw [UInt8.le_iff_toNat_le] at hlarge
      omega
  exact Nat.le_antisymm (hle h h') (hle h' h)

/-- What unstructured text takes ends there. -/
theorem asciiEnd_of_unstructured (h : Takes policy input unstructured p q)
    (hp : p ≤ input.utf8ByteSize) : AsciiEnd input p q where
  le := h.le
  le_size := h.le_size hp
  ascii := asciiBetween_of_takes h
  stop := by
    cases hb : byteAt? input q with
    | none => exact .inl (Nat.le_antisymm (h.le_size hp) (byteAt?_eq_none_iff.mp hb))
    | some b =>
      exact .inr ⟨b, rfl, UInt8.not_lt.mp fun hlt => not_asciiAt_of_unstructured h ⟨b, hb, hlt⟩⟩

/-- **Unstructured text ends at the first byte of 128 or above**, and nowhere else. -/
theorem takes_unstructured_iff (hp : p ≤ input.utf8ByteSize) :
    Takes policy input unstructured p q ↔ AsciiEnd input p q := by
  refine ⟨fun h => asciiEnd_of_unstructured h hp, fun h => ?_⟩
  obtain ⟨q', h'⟩ := exists_takes_unstructured policy hp
  exact (asciiEnd_of_unstructured h' hp).unique h ▸ h'

/-! ### Bodies inside one another -/

/-- The rules that unstructured text comes to. -/
def isUnstructured : Rule → Bool
  | unstructured | utext | obsUtext | obsText | obsChar | noWsCtl | fws | obsFws | wsp | crlf | cr
  | lf => true
  | _ => false

/-- How many bodies such a rule opens inside its own. -/
def unstructuredHeight : Rule → Nat
  | unstructured => 4
  | utext | fws => 3
  | obsUtext | obsFws => 2
  | obsText | crlf => 1
  | _ => 0

theorem flat_unstructured (policy : Option Policy) :
    (grammar policy).Flat (isUnstructured · = true) unstructuredHeight := by
  refine Grammar.flat_of_all fun r hr => ?_
  have hbody : (grammar policy).body r = body none r := by
    revert hr
    cases r <;> first
      | exact fun _ => rfl
      | exact nofun
  rw [hbody]
  revert hr
  cases r <;> decide

end AddressGrammar.Modern

namespace AddressGrammar.Validation

open Text Peg Modern

variable {policy : Option Peg.Policy} {text : String}

theorem ruleNamed?_unstructured (policy : Option Peg.Policy) :
    (grammar policy).ruleNamed? "unstructured" = some .unstructured := by
  change Rule.all.find? (fun r => r.name == "unstructured") = _
  rfl

/-- Unstructured text takes all of a text if the text is in ASCII. -/
theorem matchesWhole_unstructured_iff : (grammar policy).MatchesWhole "unstructured" text ↔
    ∀ c ∈ text.toList, c.toNat < 128 := by
  refine (Grammar.matchesWhole_iff (ruleNamed?_unstructured policy)).trans
    ((takes_unstructured_iff (Nat.zero_le _)).trans ⟨fun h => ?_, fun h => ?_⟩)
  · exact toNat_lt_of_ascii h.ascii
  · refine ⟨Nat.zero_le _, Nat.le_refl _, fun i b _ _ hb => ?_, .inl rfl⟩
    obtain ⟨c, hc, rfl⟩ := exists_mem_of_byteAt? h hb
    have hlt := h c hc
    simp only [UInt8.lt_iff_toNat_lt, UInt8.toNat_ofNat', UInt8.reduceToNat]
    omega

/-- Checks for unstructured text come to a verdict if five bodies may be open inside one another. -/
theorem unstructured_ne_tooDeep {maxDepth : Nat} (hd : 5 ≤ maxDepth) (text : String) (limit : Nat) :
    checkWhole (grammar policy) maxDepth "unstructured" text ≠ .error (.tooDeep limit) := by
  obtain ⟨q, h⟩ := exists_takes_unstructured policy (Nat.zero_le text.utf8ByteSize)
  exact checkWhole_ne_tooDeep (ranking policy) (ruleNamed?_unstructured policy)
    ((flat_unstructured policy).within rfl (Nat.lt_succ_self 4) h) hd limit

/-- **Unstructured text is ASCII text.** Wherever the modern rule for it is applied, in a run that does
not hit its bound on nesting, it matches, and its match ends at the first byte of 128 or above or at
the end of the input; and there is such a run for every position. A modern validator accepts a text
for this rule if and only if the text is in ASCII, whatever mix of NUL, line ends and white space it
holds, as long as five rule bodies may be open inside one another; by default it is 256. -/
theorem unstructured_takes_ascii :
    (∀ (policy : Option Peg.Policy) (input : String),
      (∀ p o, (grammar policy).Answers input .unstructured p o →
        o.matched = true ∧ AsciiEnd input p o.stop) ∧
      ∀ p, p ≤ input.utf8ByteSize → ∃ o, (grammar policy).Answers input .unstructured p o) ∧
    ∀ v : Validator, v.syntaxKind = .modern → 5 ≤ v.maxDepth → ∀ text,
      v.validateRule "unstructured" text = true ↔ ∀ c ∈ text.toList, c.toNat < 128 := by
  refine ⟨fun policy input => ⟨fun p o h => ?_, fun p hp => ?_⟩, fun v hv hd text => ?_⟩
  · obtain ⟨-, hp⟩ := h.matches (ranking policy)
    obtain ⟨q, hq⟩ := exists_takes_unstructured policy hp
    obtain ⟨hb, rfl⟩ := (h.hit_iff (ranking policy)).mpr hq
    exact ⟨hb, asciiEnd_of_unstructured hq hp⟩
  · exact (grammar policy).exists_answers hp .unstructured
  · rw [Validator.validateRule, isOk_iff, Validator.checkRule, hv]
    exact (checkWhole_eq_ok_iff (ranking v.policy) (unstructured_ne_tooDeep hd text)).trans
      matchesWhole_unstructured_iff

/-- Stray line ends, a fold, a NUL and trailing white space, all of it taken; and an accented letter in
front of which unstructured text ends. -/
theorem unstructured_takes_ascii_stray :
    Validator.modern.validateRule "unstructured" "a\r\r\n\n\x00 \r\n b \t" = true ∧
    (grammar none).Answers "a\né" .unstructured 0 (.hit 0 2) ∧ AsciiEnd "a\né" 0 2 := by
  have h : (grammar none).Answers "a\né" .unstructured 0 (.hit 0 2) :=
    Grammar.answers_of_report 5 [] nofun (by decide +kernel) (by decide +kernel)
  refine ⟨(unstructured_takes_ascii.2 .modern rfl (by decide) _).mpr (by simp), h, ?_⟩
  exact ((unstructured_takes_ascii.1 none "a\né").1 0 (.hit 0 2) h).2

end AddressGrammar.Validation
