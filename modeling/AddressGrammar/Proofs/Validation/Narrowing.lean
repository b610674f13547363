import AddressGrammar.Proofs.Legacy.Refusals
import AddressGrammar.Proofs.Modern.Refusals
import AddressGrammar.Proofs.Peg.UncheckedRuns
import AddressGrammar.Proofs.Validation.PlainCheck

/-!
# The check of domains only narrows

A validator that wants domains to be host names accepts nothing that it would not accept otherwise.
Choice is ordered, so this does not hold of every grammar: a part that a policy makes fail may let
the rest match in another way. But what takes a whole address has come to no refusal, and without a
refusal the policy changes nothing, not even the nesting of rules.

## Main results

* `checkWhole_unchecked` — what has come to no refusal is accepted without the policies
* `accepted_of_validateDomain` — what is accepted with host names is accepted without them
-/

namespace AddressGrammar.Validation

open Peg

section Checks

variable {R : Type} [DecidableEq R] {g g' : Grammar R} {maxDepth : Nat} {name input : String}

/-- What has come to no refusal is taken without the policies, below the same bound. -/
theorem exists_unchecked (k : g.Ranking) (hbody : ∀ r, g'.body r = (g.body r).unchecked)
    (hwhole : ∀ r, g.Refuses input r 0 → ¬g.Matches input r 0 true input.utf8ByteSize) {rule : R}
    {o : Outcome} {t : State R} {h : List (Moment R)}
    (hd : Derives ⟨g, input, maxDepth⟩ (.rule rule .initial o t) h) (hb : o.matched = true)
    (hx : t.exhausted = false) (hend : input.utf8ByteSize ≤ t.pos) :
    ∃ t' h', Derives ⟨g', input, maxDepth⟩ (.rule rule .initial o t') h' ∧ t'.exhausted = false ∧
      t'.pos = t.pos := by
  obtain ⟨hm, hle, hplain⟩ := plain_of_derives k hd
  obtain ⟨hpos, hmatch⟩ := hplain hx
  have hfree : ¬g.Refuses input rule 0 := by
    have hstop : o.stop = input.utf8ByteSize := by omega
    rw [hb, hstop] at hmatch
    exact fun hrefuses => hwhole rule hrefuses hmatch
  have hrelax : Setting.Relaxes ⟨g, input, maxDepth⟩ ⟨g', input, maxDepth⟩ := ⟨rfl, hbody⟩
  obtain ⟨t', h', hd', ha⟩ := hd.relaxes hrelax hx hm hfree .initial
  exact ⟨t', h', hd', ha.exhausted.trans hx, ha.pos⟩

/-- **What has come to no refusal is accepted without the policies.** -/
theorem checkWhole_unchecked (k : g.Ranking) (hname : g'.ruleNamed? name = g.ruleNamed? name)
    (hbody : ∀ r, g'.body r = (g.body r).unchecked)
    (hwhole : ∀ r, g.Refuses input r 0 → ¬g.Matches input r 0 true input.utf8ByteSize)
    (hok : checkWhole g maxDepth name input = .ok ()) :
    checkWhole g' maxDepth name input = .ok () := by
  cases hr : g.ruleNamed? name with
  | none =>
    rw [checkWhole_of_ruleNamed? hr] at hok
    cases hok
  | some rule =>
    obtain ⟨o, t, h, hd, hverdict⟩ := exists_verdict input maxDepth hr
    obtain ⟨hb, hx, hend⟩ := verdict_eq_ok_iff.mp (hverdict.symm.trans hok)
    obtain ⟨t', h', hd', hx', hpos⟩ := exists_unchecked k hbody hwhole hd hb hx hend
    obtain ⟨o'', t'', h'', hd'', hverdict'⟩ := exists_verdict input maxDepth (hname.trans hr)
    obtain ⟨rfl, rfl, -⟩ := hd'.determined _ _ _ hd''
    rw [hverdict']
    exact verdict_eq_ok_iff.mpr ⟨hb, hx', hpos ▸ hend⟩

end Checks

section Grammars

variable {policy : Policy} {maxDepth : Nat} {name input : String}

/-- **A policy that keeps clear of gaps only narrows the modern grammar.** -/
theorem checkWhole_modern (hpolicy : Modern.KeepsClear policy)
    (hok : checkWhole (Modern.grammar (some policy)) maxDepth name input = .ok ()) :
    checkWhole (Modern.grammar none) maxDepth name input = .ok () :=
  checkWhole_unchecked (Modern.ranking (some policy)) rfl (Modern.body_unchecked policy)
    (fun _ h => Modern.not_takes_all_of_refuses (hpolicy.steady input) h (.inl rfl)) hok

/-- **Every policy only narrows the legacy grammar.** -/
theorem checkWhole_legacy
    (hok : checkWhole (Legacy.grammar (some policy)) maxDepth name input = .ok ()) :
    checkWhole (Legacy.grammar none) maxDepth name input = .ok () :=
  checkWhole_unchecked (Legacy.ranking (some policy)) rfl (Legacy.body_unchecked policy)
    (fun _ => Legacy.not_takes_of_refuses) hok

end Grammars

theorem checkRule_of_validateDomain (v : Validator) {name input : String}
    (hok : { v with validateDomain := true }.checkRule name input = .ok ()) :
    { v with validateDomain := false }.checkRule name input = .ok () := by
  unfold Validator.checkRule at hok ⊢
  cases hkind : v.syntaxKind with
  | modern =>
    rw [hkind] at hok
    exact checkWhole_modern Modern.keepsClear_hostname hok
  | legacy =>
    rw [hkind] at hok
    exact checkWhole_legacy hok

/-- **The check of domains only narrows.** Under either syntax, with any bound on nesting, an input
that the rule of a name takes if domains have to be host names is one that it takes if they need not
be, and an input that passes such a validator, whatever it is to begin with, passes the same one
without the check of domains. -/
theorem accepted_of_validateDomain (v : Validator) :
    (∀ name input, { v with validateDomain := true }.validateRule name input = true →
      { v with validateDomain := false }.validateRule name input = true) ∧
    ∀ input, { v with validateDomain := true }.validate input = true →
      { v with validateDomain := false }.validate input = true :=
  ⟨fun _ _ h => isOk_iff.mpr (checkRule_of_validateDomain v (isOk_iff.mp h)),
    fun _ h => isOk_iff.mpr (checkRule_of_validateDomain v (isOk_iff.mp h))⟩

/-- A list of two addresses in the modern syntax and a route in the legacy one. A name that is no
host name is accepted without the check only. -/
theorem accepted_of_validateDomain_short_lists :
    let list : Validator := { Validator.modern with startRule := .addressList }
    { list with validateDomain := true }.validate "a@b.c,D<e@f>" = true ∧
    { list with validateDomain := false }.validate "a@b.c,D<e@f>" = true ∧
    { Validator.legacy with
      validateDomain := true }.validateRule "angle_addr" "<@a.b:c@d.e>" = true ∧
    { Validator.legacy with
      validateDomain := false }.validateRule "angle_addr" "<@a.b:c@d.e>" = true ∧
    { list with validateDomain := true }.validate "a@b-" = false ∧
    { list with validateDomain := false }.validate "a@b-" = true := by
  have hlist : { Validator.modern with
      startRule := .addressList, validateDomain := true }.validate "a@b.c,D<e@f>" = true := by
    decide +kernel
  have hroute : { Validator.legacy with validateDomain := true }.validateRule "angle_addr"
      "<@a.b:c@d.e>" = true := by
    decide +kernel
  refine ⟨hlist, ?_, hroute, ?_, by decide +kernel, by decide +kernel⟩
  · exact (accepted_of_validateDomain { Validator.modern with startRule := .addressList }).2 _ hlist
  · exact (accepted_of_validateDomain Validator.legacy).1 _ _ hroute

end AddressGrammar.Validation
