import AddressGrammar.Proofs.Modern.Domains
import AddressGrammar.Proofs.Validation.Verdict

/-!
# The address grammars are ASCII only

No rule of either grammar takes a byte of 128 or above. The classes of bytes that rules read hold
none, and everything else that a rule takes is taken by other rules. That is a property of bodies, so
it holds of every answer in every run, also where the bound on nesting was hit.

A run reads bytes, not characters, and looking for the end of the input it even reads into the
middle of one. It never stays there. What an application takes are whole characters, so it ends
between two characters if it begins between two.

## Main definitions

* `Peg.Grammar.AsciiOnly` — a grammar whose runs take bytes below 128 only

## Main results

* `asciiOnly_of_covered` — the bytes that its rules read decide whether a grammar is of that kind
* `ascii_only` — the address grammars are, and no validator accepts anything else
-/

namespace AddressGrammar

open Text Peg

theorem Legacy.coveredAscii_body (policy : Option Policy) (r : Rule) :
    (body policy r).covered holdsAscii (fun _ => true) = true := by
  have hnone : (body policy r).covered holdsAscii (fun _ => true) =
      (body none r).covered holdsAscii fun _ => true := by
    cases policy <;> cases r <;> rfl
  rw [hnone]
  cases r <;> rfl

/-- In a run from any place of any input, whatever its steps and its bound on nesting are, matches
cover bytes below 128 and applications lead from the beginnings of characters to such, or to the end
of the input. If the steps only apply rules, so do the steps. -/
def Peg.Grammar.AsciiOnly {R : Type} [DecidableEq R] (g : Grammar R) : Prop :=
  ∀ input d p steps, p ≤ input.utf8ByteSize → ∃ h, (Run.startAt g input d p).History steps h ∧
    (∀ r s o t, .answered r s o t ∈ h → o.matched = true → AsciiBetween input s.pos o.stop) ∧
    (∀ r s o t, .answered r s o t ∈ h →
      (⟨s.pos⟩ : String.Pos.Raw).IsValid input → (⟨t.pos⟩ : String.Pos.Raw).IsValid input) ∧
    ((∀ step ∈ steps, step.Applies) → (⟨p⟩ : String.Pos.Raw).IsValid input →
      (⟨((Run.startAt g input d p).steps steps).2.pos⟩ : String.Pos.Raw).IsValid input)

namespace Validation

section Grammars

variable {R : Type} {g : Grammar R} {input : String}

/-- Rules take bytes below 128 if they read no others. -/
theorem preserves_ascii (hg : ∀ r, (g.body r).covered holdsAscii (fun _ => true) = true)
    (input : String) : g.Preserves input (Allows input fun _ => AsciiBetween input) :=
  Grammar.preserves_allows fun r _ _ hm =>
    hm.covered AsciiBetween.refl .trans asciiBetween_of_classAt
      (fun _ _ _ h => h.advances.eq_of_missed rfl) (fun _ h => h.taken rfl) rfl (hg r)

/-- What an application takes are whole characters. -/
theorem isValid_of_allows {r : R} {p q : Nat} {b : Bool}
    (h : Allows input (fun _ => AsciiBetween input) r p b q)
    (hv : (⟨p⟩ : String.Pos.Raw).IsValid input) : (⟨q⟩ : String.Pos.Raw).IsValid input := by
  cases b with
  | true => exact (h.taken rfl).isValid h.advances.le (h.advances.le_size hv.le_rawEndPos) hv
  | false => rwa [h.advances.eq_of_missed rfl]

variable [DecidableEq R]

/-- **A grammar is ASCII only if its bodies read no other bytes.** -/
theorem asciiOnly_of_covered (hg : ∀ r, (g.body r).covered holdsAscii (fun _ => true) = true) :
    g.AsciiOnly := by
  intro input d p steps hp
  obtain ⟨h, hh, hm⟩ := Run.exists_satisfying (preserves_ascii hg input) hp d steps
  have hlead : ∀ r s o t, .answered r s o t ∈ h →
      (⟨s.pos⟩ : String.Pos.Raw).IsValid input → (⟨t.pos⟩ : String.Pos.Raw).IsValid input := by
    intro r s o t hmem hv
    obtain ⟨hallows, hpos⟩ := hm _ hmem
    exact hpos ▸ isValid_of_allows hallows hv
  exact ⟨h, hh, fun r s o t hmem => (hm _ hmem).1.taken, hlead,
    fun happ hv => hh.leads (B := fun q => (⟨q⟩ : String.Pos.Raw).IsValid input) happ hlead hv⟩

/-- A check accepts characters below 128 only. -/
theorem ascii_of_checkWhole (hg : ∀ r, (g.body r).covered holdsAscii (fun _ => true) = true)
    {d : Nat} {name : String} (hok : checkWhole g d name input = .ok ()) :
    ∀ c ∈ input.toList, c.toNat < 128 := by
  obtain ⟨r, -, hascii⟩ := exists_taken (preserves_ascii hg input) hok
  exact toNat_lt_of_ascii hascii

end Grammars

theorem ascii_of_checkRule (v : Validator) {name input : String}
    (hok : v.checkRule name input = .ok ()) : ∀ c ∈ input.toList, c.toNat < 128 := by
  unfold Validator.checkRule at hok
  split at hok
  · exact ascii_of_checkWhole (Modern.coveredAscii_body v.policy) hok
  · exact ascii_of_checkWhole (Legacy.coveredAscii_body v.policy) hok

/-- **Addresses are ASCII only.** In both grammars, under any policy on domains, every run takes bytes
below 128 only and comes to rest between characters if it began there. No validator accepts an
input with another character in it, neither for the rule it starts with nor for any other. -/
theorem ascii_only :
    (∀ policy, (Modern.grammar policy).AsciiOnly) ∧ (∀ policy, (Legacy.grammar policy).AsciiOnly) ∧
      ∀ (v : Validator) (input : String),
        (∀ name, v.validateRule name input = true → ∀ c ∈ input.toList, c.toNat < 128) ∧
          (v.validate input = true → ∀ c ∈ input.toList, c.toNat < 128) :=
  ⟨fun policy => asciiOnly_of_covered (Modern.coveredAscii_body policy),
    fun policy => asciiOnly_of_covered (Legacy.coveredAscii_body policy),
    fun v _ => ⟨fun _ hok => ascii_of_checkRule v (isOk_iff.mp hok),
      fun hok => ascii_of_checkRule v (isOk_iff.mp hok)⟩⟩

/-- A word is taken up to an accented letter, which it does not enter, and a bare address is accepted
without such a letter only. -/
theorem ascii_only_accent :
    ((Run.startAt (Modern.grammar none) "aé" 16 0).steps [.result .word]).2.pos = 1 ∧
    (⟨((Run.startAt (Modern.grammar none) "aé" 16 0).steps [.result .word]).2.pos⟩ :
      String.Pos.Raw).IsValid "aé" ∧
    { Validator.legacy with startRule := .addrSpec }.validate "a@b.c" = true ∧
    (∀ c ∈ "a@b.c".toList, c.toNat < 128) ∧
    { Validator.legacy with startRule := .addrSpec }.validate "a@b.é" = false := by
  obtain ⟨hmodern, -, hchecks⟩ := ascii_only
  have hok : { Validator.legacy with startRule := .addrSpec }.validate "a@b.c" = true := by
    decide +kernel
  obtain ⟨h, -, -, -, hrest⟩ := hmodern none "aé" 16 0 [.result .word] (Nat.zero_le _)
  refine ⟨by decide +kernel, hrest ?_ (String.Pos.Raw.isValid_zero), hok, (hchecks _ _).2 hok,
    by decide +kernel⟩
  exact fun step hstep => List.mem_singleton.mp hstep ▸ trivial

end Validation

end AddressGrammar
