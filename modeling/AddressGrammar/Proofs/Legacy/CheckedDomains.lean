import AddressGrammar.Proofs.Legacy.Refusals
import AddressGrammar.Proofs.Peg.UncheckedRuns

/-!
# The domain of a bare legacy address

Inside a bare address, the plain grammar comes to one domain, and a policy is asked about the text of
that domain and about nothing else. So a refusal comes up exactly if this text is not accepted.

## Main definitions

* `DomainAt` — where the domain of a bare address stands

## Main results

* `refuses_onlyAddrSpec_iff` — what a refusal comes from
-/

namespace AddressGrammar.Legacy

open Text Peg Peg.Expr

variable {policy : Policy} {input : String} {p q i j : Nat} {r : Rule} {b : Bool}

/-- In a bare address, the rule for domains takes the text between two positions: it is asked for
behind comments, a local part, further comments, an at sign and comments again. -/
def DomainAt (input : String) (p q : Nat) : Prop :=
  ∃ i j k, (grammar none).Matches input .ocms 0 true i ∧
    (grammar none).Matches input .localPart i true j ∧ (grammar none).Matches input .ocms j true k ∧
    byteAt? input k = some 64 ∧ (grammar none).Matches input .ocms (k + 1) true p ∧
    (grammar none).Matches input .domain p true q

/-- There is one such place. -/
theorem DomainAt.unique (h : DomainAt input p q) (h' : DomainAt input i j) : i = p ∧ j = q := by
  obtain ⟨_, _, _, hfront, hlocal, hback, -, hgap, hdomain⟩ := h
  obtain ⟨_, _, _, hfront', hlocal', hback', -, hgap', hdomain'⟩ := h'
  obtain ⟨-, rfl⟩ := hfront.unique hfront'
  obtain ⟨-, rfl⟩ := hlocal.unique hlocal'
  obtain ⟨-, rfl⟩ := hback.unique hback'
  obtain ⟨-, rfl⟩ := hgap.unique hgap'
  exact ⟨rfl, (hdomain.unique hdomain').2⟩

/-- A bare address has a domain. -/
theorem exists_domainAt (h : (grammar none).Matches input .onlyAddrSpec 0 true q) :
    ∃ p q, DomainAt input p q := by
  obtain ⟨i, hfront, h⟩ := matches_andThen.mp (matches_attempt.mp (Grammar.matches_body.mp h))
  obtain ⟨j, hspec, -⟩ := matches_andThen.mp h
  have hbody := Grammar.matches_body.mp (matches_apply.mp hspec)
  obtain ⟨k, hlocal, hbody⟩ := matches_andThen.mp (matches_attempt.mp hbody)
  obtain ⟨l, hback, hbody⟩ := matches_andThen.mp hbody
  obtain ⟨m, hat, hbody⟩ := matches_andThen.mp hbody
  obtain ⟨p, hgap, hdomain⟩ := matches_andThen.mp hbody
  obtain ⟨hl, rfl⟩ := matches_exactly.mp hat
  exact ⟨p, j, i, k, l, matches_apply.mp hfront, matches_apply.mp hlocal, matches_apply.mp hback, hl,
    matches_apply.mp hgap, matches_apply.mp hdomain⟩

/-- **A policy does not matter to the rules that do not come to a domain.** -/
theorem matches_iff_of_not_asks (policy : Policy) (hr : askers r = false) :
    (grammar (some policy)).Matches input r p b q ↔ (grammar none).Matches input r p b q :=
  Grammar.matches_iff_of_not_asks askers_of_asks (body_unchecked policy) hr

/-- The text of a domain is the same with a policy. -/
theorem matches_domainText_of_domain (h : (grammar none).Matches input .domain p true q) :
    domainText.Matches input ((grammar (some policy)).Matches input) p true q := by
  have hfree : ∀ r ∈ domainText.applied, askers r = false := by decide
  exact (matches_attempt.mp (Grammar.matches_body.mp h)).mono_applied fun r hr _ _ _ h =>
    (matches_iff_of_not_asks policy (hfree r hr)).mpr h

/-- **A domain comes to a refusal** if its text is not accepted. -/
theorem refuses_domain_iff (h : (grammar none).Matches input .domain p true q) :
    (grammar (some policy)).Refuses input .domain p ↔
      (slice? input p q).any policy.accepts = false :=
  Grammar.refuses_iff.trans
    (Grammar.refuses_check_iff askers_of_asks rfl (matches_domainText_of_domain h))

/-- **A bare address comes to a refusal** if the text of its domain is not accepted. -/
theorem refuses_onlyAddrSpec_iff (h : DomainAt input p q) :
    (grammar (some policy)).Refuses input .onlyAddrSpec 0 ↔
      (slice? input p q).any policy.accepts = false := by
  obtain ⟨i, j, k, hfront, hlocal, hback, hat, hgap, hdomain⟩ := h
  have plain : ∀ {r : Rule} {p q : Nat}, askers r = false → (grammar none).Matches input r p true q →
      (apply r).Matches input ((grammar (some policy)).Matches input) p true q :=
    fun hr hm => .apply ((matches_iff_of_not_asks policy hr).mpr hm)
  calc (grammar (some policy)).Refuses input .onlyAddrSpec 0
    _ ↔ (grammar (some policy)).Refuses input .addrSpec i :=
      Grammar.refuses_iff.trans (refuses_attempt.trans
        ((Grammar.refuses_behind_iff askers_of_asks rfl (plain rfl hfront)).trans
        ((Grammar.refuses_front_iff askers_of_asks rfl).trans refuses_apply)))
    _ ↔ (grammar (some policy)).Refuses input .domain p :=
      Grammar.refuses_iff.trans (refuses_attempt.trans
        ((Grammar.refuses_behind_iff askers_of_asks rfl (plain rfl hlocal)).trans
        ((Grammar.refuses_behind_iff askers_of_asks rfl (plain rfl hback)).trans
        ((Grammar.refuses_behind_iff askers_of_asks rfl (matches_exactly.mpr ⟨hat, rfl⟩)).trans
        ((Grammar.refuses_behind_iff askers_of_asks rfl (plain rfl hgap)).trans refuses_apply)))))
    _ ↔ (slice? input p q).any policy.accepts = false := refuses_domain_iff hdomain

end AddressGrammar.Legacy
