import AddressGrammar.Proofs.Modern.FoldedText
import AddressGrammar.Proofs.Modern.Forms
import AddressGrammar.Proofs.Validation.RaisedBound

/-!
# What a whole input has to be

Of the three things that a whole input can be asked to be, each contains the one before: a bare
address is an address, and an address is a list of one. For the legacy grammar the first of these is
the order of its alternatives. For the modern grammar it is not, since there a name is tried before a
bare address.

The larger rule opens more bodies inside one another, so the bound on nesting may be hit where it
was not before. What is inherited is therefore that an input is admitted: it passes, or it is too
deep to tell.

## Main definitions

* `Validator.Admits` — an input passes or is too deep

## Main results

* `Validator.admits_of_matchesPlainly` — what the wanted rule takes is admitted
* `starts_nested` — a bare address is an address, and an address is a list
-/

namespace AddressGrammar

open Text Peg Peg.Expr

theorem Peg.Grammar.matchesWhole_iff {R : Type} {g : Grammar R} {name input : String} {r : R}
    (hr : g.ruleNamed? name = some r) :
    g.MatchesWhole name input ↔ g.Matches input r 0 true input.utf8ByteSize := by
  constructor
  · rintro ⟨r', hr', h⟩
    obtain rfl := Option.some.inj (hr.symm.trans hr')
    exact h
  · exact fun h => ⟨r, hr, h⟩

namespace Validation

/-- An input passes, or the bound on nesting is hit. -/
def Validator.Admits (v : Validator) (input : String) : Prop :=
  v.validate input = true ∨ v.check input = .error (.tooDeep v.maxDepth)

namespace Validator

variable {v : Validator} {input : String}

theorem check_of_validate (h : v.validate input = true) : v.check input = .ok () := by
  rw [validate] at h
  cases hc : v.check input with
  | ok u => rfl
  | error e =>
    rw [hc] at h
    cases h

/-- What passes is taken by the wanted rule. -/
theorem matchesPlainly_of_validate (h : v.validate input = true) :
    v.MatchesPlainly v.startRule.ruleName input := by
  have hok := check_of_validate h
  refine (v.checkRule_eq_ok_iff fun limit hd => ?_).mp hok
  cases hok.symm.trans hd

/-- **What the wanted rule takes is admitted.** -/
theorem admits_of_matchesPlainly (h : v.MatchesPlainly v.startRule.ruleName input) :
    v.Admits input := by
  by_cases hdeep : ∃ limit, v.check input = .error (.tooDeep limit)
  · obtain ⟨limit, hd⟩ := hdeep
    have hlimit : limit = v.maxDepth := by
      rw [check, checkRule] at hd
      split at hd <;> exact limit_eq_of_checkWhole hd
    exact .inr (hlimit ▸ hd)
  · have hok := (v.checkRule_eq_ok_iff fun limit hd => hdeep ⟨limit, hd⟩).mpr h
    left
    rw [validate, check, hok]
    rfl

end Validator

/-! ### The modern grammar -/

section Modern

variable {policy : Option Policy} {input : String}

open Modern

theorem matchesWhole_address : (Modern.grammar policy).MatchesWhole StartRule.address.ruleName input ↔
    Takes policy input .address 0 input.utf8ByteSize :=
  (Grammar.matchesWhole_iff (ruleNamed?_startRule policy .address)).trans
    (Grammar.matches_body.trans (matches_toEnd.trans matches_apply))

theorem matchesWhole_addrSpec :
    (Modern.grammar policy).MatchesWhole StartRule.addrSpec.ruleName input ↔
      Takes policy input .addrSpec 0 input.utf8ByteSize :=
  (Grammar.matchesWhole_iff (ruleNamed?_startRule policy .addrSpec)).trans
    (Grammar.matches_body.trans (matches_toEnd.trans matches_apply))

/-- A list that is taken in its plain form to the end of the input. -/
theorem matchesWhole_addressList (h : Takes policy input .addressList 0 input.utf8ByteSize) :
    (Modern.grammar policy).MatchesWhole StartRule.addressList.ruleName input :=
  (Grammar.matchesWhole_iff (ruleNamed?_startRule policy .addressList)).mpr
    (Grammar.matches_body.mpr (.orElse (matches_toEnd.mpr (.apply h))))

/-- An address that takes the whole input is a list of one. -/
theorem addressList_of_address (h : Takes policy input .address 0 input.utf8ByteSize) :
    Takes policy input .addressList 0 input.utf8ByteSize := by
  have hcomma : ¬byteAt? input input.utf8ByteSize = some 44 := by
    rw [byteAt?_eq_none_iff.mpr (Nat.le_refl _)]
    nofun
  have hmany : (many (chain [token ',', apply Rule.address])).Matches input
      ((Modern.grammar policy).Matches input) input.utf8ByteSize true input.utf8ByteSize :=
    .many_miss (.andThen_miss (misses_exactly.mpr ⟨hcomma, rfl⟩))
  exact Grammar.matches_body.mpr (.orElse (.attempt (.andThen (.apply h) hmany)))

end Modern

/-! ### The legacy grammar -/

theorem ruleNamed?_legacy_address (policy : Option Policy) :
    (Legacy.grammar policy).ruleNamed? StartRule.address.ruleName = some .root := by
  change Legacy.Rule.all.find? (fun r => r.name == StartRule.address.ruleName) = _
  rfl

theorem ruleNamed?_legacy_addrSpec (policy : Option Policy) :
    (Legacy.grammar policy).ruleNamed? StartRule.addrSpec.ruleName = some .onlyAddrSpec := by
  change Legacy.Rule.all.find? (fun r => r.name == StartRule.addrSpec.ruleName) = _
  rfl

/-- The legacy grammar tries a bare address first. -/
theorem matchesWhole_legacy_address {policy : Option Policy} {input : String}
    (h : (Legacy.grammar policy).MatchesWhole StartRule.addrSpec.ruleName input) :
    (Legacy.grammar policy).MatchesWhole StartRule.address.ruleName input := by
  have hbody := Grammar.matches_body.mp
    ((Grammar.matchesWhole_iff (ruleNamed?_legacy_addrSpec policy)).mp h)
  obtain ⟨i, hfront, hbody⟩ := matches_andThen.mp (matches_attempt.mp hbody)
  obtain ⟨j, hspec, hbody⟩ := matches_andThen.mp hbody
  obtain ⟨k, hback, hend⟩ := matches_andThen.mp hbody
  have hmailbox : (Legacy.grammar policy).Matches input .mailbox i true j :=
    Grammar.matches_body.mpr (.orElse hspec)
  have haddress : (Legacy.grammar policy).Matches input .address i true j :=
    Grammar.matches_body.mpr (.orElse (.apply hmailbox))
  have hvalid : (Legacy.grammar policy).Matches input .valid 0 true k :=
    Grammar.matches_body.mpr (.attempt (.andThen hfront (.andThen (.apply haddress) hback)))
  exact (Grammar.matchesWhole_iff (ruleNamed?_legacy_address policy)).mpr
    (Grammar.matches_body.mpr (.attempt (.andThen (.apply hvalid) hend)))

/-! ### Both -/

/-- **Bare addresses are addresses, and addresses are lists.** What a validator accepts as a bare
address it admits as an address, in both syntaxes, and what it accepts as an address in the modern
syntax it admits as a list of addresses. -/
theorem starts_nested (v : Validator) (input : String) :
    ({ v with startRule := .addrSpec }.validate input = true →
      { v with startRule := .address }.Admits input) ∧
    (v.syntaxKind = .modern → { v with startRule := .address }.validate input = true →
      { v with startRule := .addressList }.Admits input) := by
  obtain ⟨kind, start, hosts, depth⟩ := v
  refine ⟨fun h => ?_, fun hmodern h => ?_⟩
  · have hspec := Validator.matchesPlainly_of_validate h
    refine Validator.admits_of_matchesPlainly ?_
    cases kind with
    | modern =>
      have hspec := matchesWhole_addrSpec.mp hspec
      exact matchesWhole_address.mpr (Modern.address_of_mailbox (Modern.mailbox_of_addrSpec hspec))
    | legacy => exact matchesWhole_legacy_address hspec
  · obtain rfl : kind = .modern := hmodern
    have haddress := matchesWhole_address.mp (Validator.matchesPlainly_of_validate h)
    exact Validator.admits_of_matchesPlainly
      (matchesWhole_addressList (addressList_of_address haddress))

/-- A bare address whose local part could be a name, and a group. -/
theorem starts_nested_quoted_and_group :
    ({ Validator.modern with startRule := .addrSpec }.validate "\"b\"@c" = true ∧
      Validator.modern.Admits "\"b\"@c") ∧
    Validator.modern.validate "a:;" = true ∧
      { Validator.modern with startRule := .addressList }.Admits "a:;" := by
  have hquoted : { Validator.modern with startRule := .addrSpec }.validate "\"b\"@c" = true := by
    decide +kernel
  have hgroup : Validator.modern.validate "a:;" = true := by decide +kernel
  exact ⟨⟨hquoted, (starts_nested .modern "\"b\"@c").1 hquoted⟩, hgroup,
    (starts_nested .modern "a:;").2 rfl hgroup⟩

end Validation

end AddressGrammar
