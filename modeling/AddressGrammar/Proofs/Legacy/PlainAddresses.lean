import AddressGrammar.Proofs.Peg.DottedRuns
import AddressGrammar.Proofs.Validation.Starts

/-!
# Plain legacy addresses

The legacy grammar reads plain texts as the modern one does, up to one thing: what stands behind the
at sign has to have a dot in it. There are no comments between the parts, so the only form that is
left of a word and of a part of a domain is a run of atom characters, and without brackets and colons
the only form of an address is the bare one.

## Main results

* `reads_localPart_iff`, `reads_domain_iff` — the two sides of an at sign
* `matchesWhole_addrSpec_iff`, `matchesWhole_address_iff` — plain addresses, bare or not
-/

namespace AddressGrammar.Legacy

open Text Peg Peg.Expr Validation

variable {policy : Option Policy} {input : String} {p q i j : Nat} {r : Rule}

/-- With or without a policy, a rule takes the text between two positions. -/
abbrev Reads (policy : Option Policy) (input : String) (r : Rule) (p q : Nat) : Prop :=
  (grammar policy).Matches input r p true q

theorem holdsAtext_atomBytes : atomBytes.HoldsAtext := ⟨by decide, by decide⟩

theorem reads_atom_iff : Reads policy input .atom p q ↔ RunBetween input atomBytes p q :=
  Grammar.matches_body.trans matches_run_iff

section Plain

variable (hplain : IsPlain input)
include hplain

/-- Nothing is taken that begins with a byte which does not occur. -/
theorem not_reads_of_body {a : UInt8} {e : Expr Rule}
    (hbody : (grammar policy).body r = attempt (andThen (exactly a) e))
    (ha : bareBytes.contains a = false) : ¬Reads policy input r p q := by
  intro h
  have h := Grammar.matches_body.mp h
  rw [hbody] at h
  obtain ⟨i, hi, -⟩ := matches_andThen.mp (matches_attempt.mp h)
  exact hplain.byteAt?_ne ha (matches_exactly.mp hi).1

/-! ### Comments -/

theorem eq_of_ocms (h : Reads policy input .ocms p q) : q = p :=
  (Grammar.matches_body.mp h).many_stays fun _ hi =>
    not_reads_of_body hplain (r := .comment) rfl (by decide) (matches_apply.mp hi)

theorem ocms_self (policy : Option Policy) (hp : p ≤ input.utf8ByteSize) :
    Reads policy input .ocms p p := by
  obtain ⟨i, hi⟩ := (ranking policy).exists_miss hp (e := apply .comment) fun i hi =>
    not_reads_of_body hplain (r := .comment) rfl (by decide) (matches_apply.mp hi)
  exact Grammar.matches_body.mpr (.many_miss hi)

theorem of_ocmsThen {e : Expr Rule}
    (h : (andThen (apply .ocms) e).Matches input ((grammar policy).Matches input) p true q) :
    e.Matches input ((grammar policy).Matches input) p true q := by
  obtain ⟨i, hi, hrest⟩ := matches_andThen.mp h
  obtain rfl := eq_of_ocms hplain (matches_apply.mp hi)
  exact hrest

theorem ocmsThen {e : Expr Rule} (h : e.Matches input ((grammar policy).Matches input) p true q)
    (hq : q ≤ input.utf8ByteSize) :
    (andThen (apply .ocms) e).Matches input ((grammar policy).Matches input) p true q := by
  have hp : p ≤ q := h.le fun _ _ _ _ h => h.le
  exact .andThen (.apply (ocms_self hplain policy (Nat.le_trans hp hq))) h

/-! ### Words and parts of domains -/

theorem reads_word_iff : Reads policy input .word p q ↔ RunBetween input atomBytes p q := by
  refine Grammar.matches_body.trans (matches_orElse.trans ⟨?_, fun h =>
    .inl (.apply (reads_atom_iff.mpr h))⟩)
  rintro (hatom | ⟨i, -, hquoted⟩)
  · exact reads_atom_iff.mp (matches_apply.mp hatom)
  · exact absurd (matches_apply.mp hquoted) (not_reads_of_body hplain rfl (by decide))

theorem reads_subDomain_iff :
    Reads policy input .subDomain p q ↔ RunBetween input atomBytes p q := by
  have hname : Reads policy input .domainRef p q ↔ RunBetween input atomBytes p q :=
    Grammar.matches_body.trans (matches_apply.trans reads_atom_iff)
  refine Grammar.matches_body.trans (matches_orElse.trans ⟨?_, fun h =>
    .inl (.apply (hname.mpr h))⟩)
  rintro (href | ⟨i, -, hliteral⟩)
  · exact hname.mp (matches_apply.mp href)
  · exact absurd (matches_apply.mp hliteral) (not_reads_of_body hplain rfl (by decide))

/-- A rule that takes runs does so behind comments. -/
theorem matches_part_iff (policy : Option Policy)
    (hr : ∀ p q, Reads policy input r p q ↔ RunBetween input atomBytes p q) (p q : Nat) :
    (chain [apply Rule.ocms, apply r]).Matches input ((grammar policy).Matches input) p true q ↔
      RunBetween input atomBytes p q :=
  ⟨fun h => (hr p q).mp (matches_apply.mp (of_ocmsThen hplain h)),
    fun h => ocmsThen hplain (.apply ((hr p q).mpr h)) h.le_size⟩

/-! ### Both sides of an at sign -/

/-- **Local parts are runs with dots between them.** -/
theorem reads_localPart_iff (hq : byteAt? input q ≠ some 46) :
    Reads policy input .localPart p q ↔ DottedBetween input atomBytes p q := by
  have hparts := matches_part_iff hplain policy fun _ _ => reads_word_iff hplain
  refine Grammar.matches_body.trans ⟨fun h => ?_, fun h => ?_⟩
  · obtain ⟨i, hword, hrest⟩ := matches_andThen.mp (matches_attempt.mp h)
    exact dottedBetween_of_many hparts ((reads_word_iff hplain).mp (matches_apply.mp hword))
      (of_ocmsThen hplain hrest)
  · obtain ⟨i, hword, hrest⟩ := many_of_dottedBetween hparts (ranking policy) h hq
    exact .attempt (.andThen (.apply ((reads_word_iff hplain).mpr hword))
      (ocmsThen hplain hrest h.le_size))

theorem matches_domainText_iff (policy : Option Policy) (hq : byteAt? input q ≠ some 46) :
    domainText.Matches input ((grammar policy).Matches input) p true q ↔
      DottedBetween input atomBytes p q ∧ DotBetween input p q := by
  have hparts := matches_part_iff hplain policy fun _ _ => reads_subDomain_iff hplain
  constructor
  · intro h
    obtain ⟨i, hfirst, hrest⟩ := matches_andThen.mp h
    have hfirst := (reads_subDomain_iff hplain).mp (matches_apply.mp hfirst)
    obtain ⟨j, hnext, hrest⟩ := matches_many1.mp (of_ocmsThen hplain hrest)
    obtain ⟨hdot, hrun⟩ := (matches_dotThen_iff hparts).mp hnext
    have hback := dottedBetween_of_many hparts hrun hrest
    exact ⟨.dot hfirst hdot hback, i, Nat.le_of_lt hfirst.lt, Nat.lt_of_succ_lt hback.lt, hdot⟩
  · rintro ⟨h, hdot⟩
    obtain ⟨i, hfirst, hdot, hback⟩ := h.exists_rest holdsAtext_atomBytes.not_dot hdot
    obtain ⟨j, hrun, hrest⟩ := many_of_dottedBetween hparts (ranking policy) hback hq
    have hnext := (matches_dotThen_iff hparts).mpr ⟨hdot, hrun⟩
    exact .andThen (.apply ((reads_subDomain_iff hplain).mpr hfirst))
      (ocmsThen hplain (matches_many1.mpr ⟨j, hnext, hrest⟩) h.le_size)

/-- **Domains are runs with dots between them**, with a dot at least, if the policy accepts them. -/
theorem reads_domain_iff (hq : byteAt? input q ≠ some 46) : Reads policy input .domain p q ↔
    (DottedBetween input atomBytes p q ∧ DotBetween input p q) ∧ Accepted policy input p q := by
  refine Grammar.matches_body.trans (Iff.trans ?_
    (and_congr_left' (matches_domainText_iff hplain policy hq)))
  cases policy with
  | none => exact matches_attempt.trans (and_iff_left accepted_none).symm
  | some asked => exact matches_check.trans (and_congr_right' accepted_some.symm)

/-! ### Addresses -/

/-- **Plain bare addresses.** -/
theorem reads_addrSpec_iff : Reads policy input .addrSpec 0 input.utf8ByteSize ↔
    ∃ i, SplitAt policy input atomBytes i ∧ DotBetween input (i + 1) input.utf8ByteSize := by
  refine Grammar.matches_body.trans ⟨fun h => ?_, ?_⟩
  · obtain ⟨i, hlocal, h⟩ := matches_andThen.mp (matches_attempt.mp h)
    obtain ⟨j, hat, h⟩ := matches_andThen.mp (of_ocmsThen hplain h)
    obtain ⟨hi, rfl⟩ := matches_exactly.mp hat
    have hfront := (reads_localPart_iff hplain (not_dot_of_at hi)).mp (matches_apply.mp hlocal)
    have hdomain := matches_apply.mp (of_ocmsThen hplain h)
    obtain ⟨⟨hback, hmore⟩, haccepted⟩ :=
      (reads_domain_iff hplain (not_dot_of_end input)).mp hdomain
    exact ⟨i, ⟨hfront, hi, hback, haccepted⟩, hmore⟩
  · rintro ⟨i, ⟨hfront, hi, hback, haccepted⟩, hmore⟩
    have hlocal : Reads policy input .localPart 0 i :=
      (reads_localPart_iff hplain (not_dot_of_at hi)).mpr hfront
    have hdomain := (reads_domain_iff hplain (not_dot_of_end input)).mpr
      ⟨⟨hback, hmore⟩, haccepted⟩
    have hend := Nat.le_refl input.utf8ByteSize
    exact .attempt (.andThen (.apply hlocal) (ocmsThen hplain
      (.andThen (matches_exactly.mpr ⟨hi, rfl⟩) (ocmsThen hplain (.apply hdomain) hend)) hend))

/-- A plain address has no name and is no group. -/
theorem addrSpec_of_address (h : Reads policy input .address p q) :
    Reads policy input .addrSpec p q := by
  rcases matches_orElse.mp (Grammar.matches_body.mp h) with hmailbox | ⟨i, hi, hgroup⟩
  · rcases matches_orElse.mp (Grammar.matches_body.mp (matches_apply.mp hmailbox)) with
      hspec | ⟨i, hi, hname⟩
    · exact matches_apply.mp hspec
    · obtain ⟨_, -, h⟩ := matches_andThen.mp (matches_attempt.mp hname)
      obtain ⟨_, -, h⟩ := matches_andThen.mp h
      obtain ⟨_, -, h⟩ := matches_andThen.mp h
      obtain ⟨_, -, hangle⟩ := matches_andThen.mp h
      exact absurd (matches_apply.mp hangle) (not_reads_of_body hplain rfl (by decide))
  · have hbody := Grammar.matches_body.mp (matches_apply.mp hgroup)
    obtain ⟨_, -, h⟩ := matches_andThen.mp (matches_attempt.mp hbody)
    obtain ⟨x, hcolon, -⟩ := matches_andThen.mp (of_ocmsThen hplain h)
    exact absurd (matches_exactly.mp hcolon).1 (hplain.byteAt?_ne (by decide))

theorem reads_address_iff :
    Reads policy input .address p q ↔ Reads policy input .addrSpec p q := by
  refine ⟨addrSpec_of_address hplain, fun h => ?_⟩
  have hmailbox : Reads policy input .mailbox p q := Grammar.matches_body.mpr (.orElse (.apply h))
  exact Grammar.matches_body.mpr (.orElse (.apply hmailbox))

/-! ### Whole inputs -/

theorem matchesWhole_addrSpec_iff :
    (grammar policy).MatchesWhole StartRule.addrSpec.ruleName input ↔
      Reads policy input .addrSpec 0 input.utf8ByteSize := by
  refine (Grammar.matchesWhole_iff (ruleNamed?_legacy_addrSpec policy)).trans
    (Grammar.matches_body.trans ⟨fun h => ?_, fun h => ?_⟩)
  · obtain ⟨i, hspec, h⟩ := matches_andThen.mp (of_ocmsThen hplain (matches_attempt.mp h))
    cases of_ocmsThen hplain h with
    | notAhead_miss => exact matches_apply.mp hspec
  · exact .attempt (ocmsThen hplain (.andThen (.apply h)
      (ocmsThen hplain matches_atEnd (Nat.le_refl _))) (Nat.le_refl _))

theorem matchesWhole_address_iff :
    (grammar policy).MatchesWhole StartRule.address.ruleName input ↔
      Reads policy input .address 0 input.utf8ByteSize := by
  refine (Grammar.matchesWhole_iff (ruleNamed?_legacy_address policy)).trans
    (Grammar.matches_body.trans (matches_toEnd.trans (matches_apply.trans
      (Grammar.matches_body.trans ⟨fun h => ?_, fun h => ?_⟩))))
  · obtain ⟨i, haddress, h⟩ := matches_andThen.mp (of_ocmsThen hplain (matches_attempt.mp h))
    obtain rfl := eq_of_ocms hplain (matches_apply.mp h)
    exact matches_apply.mp haddress
  · exact .attempt (ocmsThen hplain (.andThen (.apply h)
      (.apply (ocms_self hplain policy (Nat.le_refl _)))) (Nat.le_refl _))

end Plain

end AddressGrammar.Legacy
