import AddressGrammar.Proofs.Legacy.CheckedDomains
import AddressGrammar.Proofs.Modern.CheckedDomains
import AddressGrammar.Proofs.Validation.Narrowing
import AddressGrammar.Proofs.Validation.PlainAddresses

/-!
# What the check of domains asks of a bare address

With the check of domains a bare address has to pass without the check, and then something more. How
much more is a matter of its domain alone: a run with a policy that comes to no refusal goes the same
way as the run without one, so the bound on nesting does not part them either, and a refusal comes up
exactly if the text of the domain is refused. In the modern syntax this text is everything behind the
at sign, with all comments and white space in it, and a literal is not asked about. In the legacy
syntax it is what the rule for domains takes.

A rejected dotted form is not rescued by the obsolete form, which could take more: if the plain grammar
is content with the dotted form, that form ends where the input does.

## Main results

* `checkWhole_iff_unchecked` — policies only add that there is no refusal
* `domain_flag_exact` — the check of domains on bare addresses
-/

namespace AddressGrammar.Validation

open Text Peg

section Checks

variable {R : Type} [DecidableEq R] {g g' : Grammar R} {maxDepth : Nat} {name input : String}
  {rule : R}

/-- **What is accepted without the policies is accepted with them** if there is no refusal. -/
theorem checkWhole_checked (k' : g'.Ranking) (hr : g.ruleNamed? name = some rule)
    (hname : g'.ruleNamed? name = some rule) (hbody : ∀ r, g'.body r = (g.body r).unchecked)
    (hfree : ¬g.Refuses input rule 0) (hok : checkWhole g' maxDepth name input = .ok ()) :
    checkWhole g maxDepth name input = .ok () := by
  obtain ⟨o, t, h, hd, hverdict⟩ := exists_verdict input maxDepth hname
  obtain ⟨hb, hx, hend⟩ := verdict_eq_ok_iff.mp (hverdict.symm.trans hok)
  have hrelax : Setting.Relaxes ⟨g, input, maxDepth⟩ ⟨g', input, maxDepth⟩ := ⟨rfl, hbody⟩
  obtain ⟨t', h', hd', ha⟩ := hd.restricts hrelax hx (plain_of_derives k' hd).1 hfree .initial
  obtain ⟨o'', t'', h'', hd'', hverdict'⟩ := exists_verdict input maxDepth hr
  obtain ⟨rfl, rfl, -⟩ := hd'.determined _ _ _ hd''
  rw [hverdict']
  exact verdict_eq_ok_iff.mpr ⟨hb, ha.exhausted.trans hx, ha.pos ▸ hend⟩

/-- **Policies only add that there is no refusal**, below the same bound on nesting. -/
theorem checkWhole_iff_unchecked (k : g.Ranking) (k' : g'.Ranking)
    (hr : g.ruleNamed? name = some rule) (hname : g'.ruleNamed? name = some rule)
    (hbody : ∀ r, g'.body r = (g.body r).unchecked)
    (hwhole : ∀ r, g.Refuses input r 0 → ¬g.Matches input r 0 true input.utf8ByteSize) :
    checkWhole g maxDepth name input = .ok () ↔
      checkWhole g' maxDepth name input = .ok () ∧ ¬g.Refuses input rule 0 := by
  refine ⟨fun hok => ⟨checkWhole_unchecked k (hname.trans hr.symm) hbody hwhole hok, fun hrefuses => ?_⟩,
    fun h => checkWhole_checked k' hr hname hbody h.2 h.1⟩
  exact hwhole rule hrefuses ((Grammar.matchesWhole_iff hr).mp (matchesWhole_of_checkWhole k hok))

end Checks

section Addresses

variable {policy : Policy} {text : String}

/-- What stands behind a part of a text and an at sign. -/
theorem slice?_behind_at {front back : String} (h : text = front ++ "@" ++ back) :
    slice? text (front.utf8ByteSize + 1) text.utf8ByteSize = some back := by
  obtain ⟨-, -, hback, hsize⟩ := placed_parts h
  exact hsize ▸ hback.slice?_self

/-- **A bare modern address comes to no refusal** if its domain is a literal or accepted. -/
theorem not_refuses_modern_iff (h : Modern.Takes none text .addrSpec 0 text.utf8ByteSize) :
    ¬(Modern.grammar (some policy)).Refuses text .onlyAddrSpec 0 ↔
      ∃ localPart domain, text = localPart ++ "@" ++ domain ∧
        (Modern.grammar none).Matches text .localPart 0 true localPart.utf8ByteSize ∧
        ((Modern.grammar none).Matches text .domainLiteral (localPart.utf8ByteSize + 1) true
            text.utf8ByteSize ∨
          policy.accepts domain = true) := by
  obtain ⟨i, hlocal, hrest⟩ :=
    Expr.matches_andThen.mp (Expr.matches_attempt.mp (Grammar.matches_body.mp h))
  obtain ⟨j, hat, hdomain⟩ := Expr.matches_andThen.mp hrest
  have hlocal := Expr.matches_apply.mp hlocal
  obtain ⟨hi, rfl⟩ := Expr.matches_exactly.mp hat
  have hrefuses := (Modern.refuses_onlyAddrSpec_iff policy hlocal hi).trans
    (Modern.refuses_domain_iff (Expr.matches_apply.mp hdomain))
  obtain ⟨front, back, htext, rfl⟩ :=
    exists_append_of_byteAt? (a := '@') (Modern.asciiBetween_of_takes hlocal) (by decide) hi
  rw [hrefuses, not_and_or, not_not]
  constructor
  · intro hdomain
    refine ⟨front, back, htext, hlocal, hdomain.imp_right fun haccepts => ?_⟩
    simpa [slice?_behind_at htext] using haccepts
  · rintro ⟨front', back', htext', hlocal', hdomain⟩
    obtain ⟨-, hsize⟩ := hlocal.unique hlocal'
    rw [← hsize]
    refine hdomain.imp_right fun haccepts => ?_
    simpa [slice?_behind_at htext'] using haccepts

/-- **A bare legacy address comes to no refusal** if its domain is accepted. -/
theorem not_refuses_legacy_iff {q : Nat} (h : (Legacy.grammar none).Matches text .onlyAddrSpec 0 true q) :
    ¬(Legacy.grammar (some policy)).Refuses text .onlyAddrSpec 0 ↔
      ∃ p q domain, Legacy.DomainAt text p q ∧ slice? text p q = some domain ∧
        policy.accepts domain = true := by
  obtain ⟨p, q, hdomain⟩ := Legacy.exists_domainAt h
  rw [Legacy.refuses_onlyAddrSpec_iff hdomain, Bool.not_eq_false, Option.any_eq_true]
  constructor
  · rintro ⟨domain, hslice, haccepts⟩
    exact ⟨p, q, domain, hdomain, hslice, haccepts⟩
  · rintro ⟨p', q', domain, hdomain', hslice, haccepts⟩
    obtain ⟨rfl, rfl⟩ := hdomain.unique hdomain'
    exact ⟨domain, hslice, haccepts⟩

end Addresses

/-- **The check of domains on bare addresses.** A modern address passes with the check exactly if it
passes without it and the text behind its local part and the at sign is a literal or a host name, all
of it. A legacy address passes with the check exactly if it passes without it and the text that the
rule for domains takes is a host name. This holds for every text and every bound on nesting. -/
theorem domain_flag_exact (text : String) (maxDepth : Nat) :
    ((Validator.mk .modern .addrSpec true maxDepth).validate text = true ↔
      (Validator.mk .modern .addrSpec false maxDepth).validate text = true ∧
        ∃ localPart domain, text = localPart ++ "@" ++ domain ∧
          (Modern.grammar none).Matches text .localPart 0 true localPart.utf8ByteSize ∧
          ((Modern.grammar none).Matches text .domainLiteral (localPart.utf8ByteSize + 1) true
              text.utf8ByteSize ∨
            Hostname.isHostname domain = true)) ∧
    ((Validator.mk .legacy .addrSpec true maxDepth).validate text = true ↔
      (Validator.mk .legacy .addrSpec false maxDepth).validate text = true ∧
        ∃ p q domain, Legacy.DomainAt text p q ∧ slice? text p q = some domain ∧
          Hostname.isHostname domain = true) := by
  constructor
  · refine isOk_iff.trans ((checkWhole_iff_unchecked (Modern.ranking (some Hostname.policy))
      (Modern.ranking none) (ruleNamed?_startRule _ .addrSpec) (ruleNamed?_startRule _ .addrSpec)
      (Modern.body_unchecked Hostname.policy) fun r hr => ?_).trans
      ((and_congr_right fun hok => ?_).trans (and_congr_left' isOk_iff.symm)))
    · exact Modern.not_takes_all_of_refuses (Modern.keepsClear_hostname.steady text) hr (.inl rfl)
    · exact not_refuses_modern_iff
        (matchesWhole_addrSpec.mp (matchesWhole_of_checkWhole (Modern.ranking none) hok))
  · refine isOk_iff.trans ((checkWhole_iff_unchecked (Legacy.ranking (some Hostname.policy))
      (Legacy.ranking none) (ruleNamed?_legacy_addrSpec _) (ruleNamed?_legacy_addrSpec none)
      (Legacy.body_unchecked Hostname.policy) fun _ => Legacy.not_takes_of_refuses).trans
      ((and_congr_right fun hok => ?_).trans (and_congr_left' isOk_iff.symm)))
    exact not_refuses_legacy_iff ((Grammar.matchesWhole_iff (ruleNamed?_legacy_addrSpec none)).mp
      (matchesWhole_of_checkWhole (Legacy.ranking none) hok))

end AddressGrammar.Validation
