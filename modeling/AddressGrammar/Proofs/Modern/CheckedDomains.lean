import AddressGrammar.Proofs.Modern.Refusals
import AddressGrammar.Proofs.Peg.UncheckedRuns

/-!
# The domain of a bare modern address

What a policy is asked about a bare address depends on the address without the policy. The plain
grammar takes one form of its domain, and takes it to the end of the input. If that form is a literal,
no policy is asked, since the dotted form does not begin where a literal does. If it is one of the two
others, the policy is asked about the text of that form before anything else happens: the dotted form
is the first one to be tried, and the obsolete form is tried where the others do not match.

So a refusal comes up exactly if the text behind the at sign is no literal and is not accepted, and
nothing has to be known about the policy for that.

## Main results

* `matches_iff_of_not_asks` — a policy does not matter to the rules that do not come to a domain
* `refuses_domain_iff`, `refuses_onlyAddrSpec_iff` — what a refusal comes from
-/

namespace AddressGrammar.Modern

open Text Peg Peg.Expr

variable {policy : Policy} {input : String} {p q : Nat} {r : Rule} {b : Bool}

/-- **A policy does not matter to the rules that do not come to a domain.** -/
theorem matches_iff_of_not_asks (policy : Policy) (hr : askers r = false) :
    (grammar (some policy)).Matches input r p b q ↔ (grammar none).Matches input r p b q :=
  Grammar.matches_iff_of_not_asks askers_of_asks (body_unchecked policy) hr

section Forms

variable (hr : askers r = false)
include hr

/-- A form of a domain that the plain grammar takes: the check is refused, or it matches. -/
theorem refuses_form_iff (h : Takes none input r p q) :
    (check (apply r) policy).Refuses input ((grammar (some policy)).Matches input)
        ((grammar (some policy)).Refuses input) p ↔
      (slice? input p q).any policy.accepts = false :=
  Grammar.refuses_check_iff askers_of_asks hr (.apply ((matches_iff_of_not_asks policy hr).mpr h))

/-- The check of such a form misses only if it is refused. -/
theorem refused_of_misses {i : Nat} (h : Takes none input r p q)
    (hmiss : (check (apply r) policy).Matches input ((grammar (some policy)).Matches input) p false
      i) : (slice? input p q).any policy.accepts = false := by
  have hform : Takes (some policy) input r p q := (matches_iff_of_not_asks policy hr).mpr h
  refine Bool.eq_false_iff.mpr fun haccepts => ?_
  cases (hmiss.unique Grammar.matches_unique (.check (.apply hform) haccepts)).1

/-- A form that the plain grammar does not take is not asked about. -/
theorem form_of_misses (policy : Policy) (h : (grammar none).Matches input r p false p) :
    (¬(check (apply r) policy).Refuses input ((grammar (some policy)).Matches input)
        ((grammar (some policy)).Refuses input) p) ∧
      (check (apply r) policy).Matches input ((grammar (some policy)).Matches input) p false p := by
  have hmiss : (grammar (some policy)).Matches input r p false p :=
    (matches_iff_of_not_asks policy hr).mpr h
  refine ⟨fun hrefuses => ?_, .check_miss (.apply hmiss)⟩
  rcases refuses_check.mp hrefuses with hinside | ⟨j, hj, -⟩
  · cases hr.symm.trans ((refuses_apply.mp hinside).asks askers_of_asks)
  · cases (hmiss.unique (matches_apply.mp hj)).1

end Forms

/-- Behind the dotted form, the obsolete form comes to a refusal if there is no literal. -/
theorem refuses_others_iff
    (h : (alt [apply .domainLiteral, apply .obsDomain]).Matches input ((grammar none).Matches input) p
      true q) :
    (alt [apply .domainLiteral, check (apply .obsDomain) policy]).Refuses input
        ((grammar (some policy)).Matches input) ((grammar (some policy)).Refuses input) p ↔
      ¬Takes none input .domainLiteral p q ∧ (slice? input p q).any policy.accepts = false := by
  have hfree : ¬(apply .domainLiteral).Refuses input ((grammar (some policy)).Matches input)
      ((grammar (some policy)).Refuses input) p := Grammar.not_refuses_of_asks askers_of_asks rfl p
  rcases matches_orElse.mp h with hliteral | ⟨i, hnone, hobs⟩
  · have hliteral := matches_apply.mp hliteral
    refine ⟨fun hr => ?_, fun hr => absurd hliteral hr.1⟩
    obtain ⟨i, hi, -⟩ := (refuses_orElse.mp hr).resolve_left hfree
    have hliteral' := (matches_iff_of_not_asks policy rfl).mpr hliteral
    cases (hliteral'.unique (matches_apply.mp hi)).1
  · have hnone := matches_apply.mp hnone
    obtain rfl := hnone.eq_of_missed
    have hnone' := (matches_iff_of_not_asks policy rfl).mpr hnone
    refine (Grammar.refuses_next_iff hfree (.apply hnone')).trans
      ((refuses_form_iff rfl (matches_apply.mp hobs)).trans (and_iff_right fun hliteral => ?_).symm)
    cases (hnone.unique hliteral).1

/-- **A domain comes to a refusal** if it is no literal and its text is not accepted. -/
theorem refuses_domain_iff (h : Takes none input .domain p q) :
    (grammar (some policy)).Refuses input .domain p ↔
      ¬Takes none input .domainLiteral p q ∧ (slice? input p q).any policy.accepts = false := by
  refine Grammar.refuses_iff.trans ?_
  rcases matches_orElse.mp (Grammar.matches_body.mp h) with hdotted | ⟨i, hmiss, hothers⟩
  · -- the dotted form is asked about, and no literal begins there
    have hdotted := matches_apply.mp hdotted
    refine Iff.trans ⟨fun hr => ?_, fun hrefused => .orElse ((refuses_form_iff rfl hdotted).mpr hrefused)⟩
      (and_iff_right (opens_dotAtom.not_both opens_domainLiteral (by decide) hdotted)).symm
    rcases refuses_orElse.mp hr with hfirst | ⟨i, hmiss, -⟩
    · exact (refuses_form_iff rfl hdotted).mp hfirst
    · exact refused_of_misses rfl hdotted hmiss
  · have hmiss := matches_apply.mp hmiss
    obtain rfl := hmiss.eq_of_missed
    obtain ⟨hfree, hmiss⟩ := form_of_misses rfl policy hmiss
    exact (Grammar.refuses_next_iff hfree hmiss).trans (refuses_others_iff hothers)

/-- **A bare address comes to a refusal** where its domain does. -/
theorem refuses_onlyAddrSpec_iff (policy : Policy) {i : Nat} (hlocal : Takes none input .localPart 0 i)
    (hat : byteAt? input i = some 64) :
    (grammar (some policy)).Refuses input .onlyAddrSpec 0 ↔
      (grammar (some policy)).Refuses input .domain (i + 1) := by
  have hlocal' : Takes (some policy) input .localPart 0 i :=
    (matches_iff_of_not_asks policy rfl).mpr hlocal
  calc (grammar (some policy)).Refuses input .onlyAddrSpec 0
    _ ↔ (grammar (some policy)).Refuses input .addrSpec 0 :=
      Grammar.refuses_iff.trans (refuses_attempt.trans
        ((Grammar.refuses_front_iff askers_of_asks rfl).trans refuses_apply))
    _ ↔ (grammar (some policy)).Refuses input .domain (i + 1) :=
      Grammar.refuses_iff.trans (refuses_attempt.trans
        ((Grammar.refuses_behind_iff askers_of_asks rfl (.apply hlocal')).trans
        ((Grammar.refuses_behind_iff askers_of_asks rfl (matches_exactly.mpr ⟨hat, rfl⟩)).trans
        refuses_apply)))

end AddressGrammar.Modern
