import AddressGrammar.Proofs.Modern.Forms
import AddressGrammar.Proofs.Peg.DottedRuns

/-!
# Plain modern addresses

In a text of atom characters, dots and at signs there are no gaps, and nothing begins there that has
to be opened by a quotation mark or a bracket. Of the three forms of an address only the bare one is
left, of the forms of a local part and of a domain only the dotted and the obsolete ones, and these
two do not differ without gaps.

## Main results

* `takes_localPart_iff`, `takes_domain_iff` — the two sides of an at sign
* `takes_addrSpec_iff` — plain bare addresses
* `takes_address_iff_addrSpec` — plain addresses are bare
-/

namespace AddressGrammar.Modern

open Text Peg Peg.Expr

variable {policy : Option Policy} {input : String} {p q i j : Nat} {r : Rule}

theorem holdsAtext_atomBytes : atomBytes.HoldsAtext := ⟨by decide, by decide⟩

theorem classAt_atomBytes : classAt input atomBytes p = (classAt input ⟨[(65, 90), (97, 122)]⟩ p ||
    (classAt input (.range 48 57) p || classAt input atomMarks p)) := by
  unfold classAt
  cases byteAt? input p with
  | none => rfl
  | some b => simp [atomBytes, ByteClass.contains, ByteClass.range, Bool.or_assoc]

theorem takes_atext_iff :
    Takes policy input .atext p q ↔ classAt input atomBytes p = true ∧ q = p + 1 := by
  have hbyte : ∀ {r c}, body policy r = byte c → ∀ {p q},
      Takes policy input r p q → q = p + 1 := by
    intro r c hr p q h
    have h := Grammar.matches_body.mp h
    rw [show (grammar policy).body r = byte c from hr] at h
    exact (matches_byte.mp h).2
  constructor
  · intro h
    refine ⟨atomBytes_of_atext h, ?_⟩
    rcases matches_orElse.mp (Grammar.matches_body.mp h) with halpha | ⟨i, hi, hother⟩
    · exact hbyte (r := .alpha) rfl (matches_apply.mp halpha)
    · obtain rfl := (matches_apply.mp hi).eq_of_missed
      rcases matches_orElse.mp hother with hdigit | ⟨j, hj, hmark⟩
      · exact hbyte (r := .digit) rfl (matches_apply.mp hdigit)
      · obtain rfl := (matches_apply.mp hj).eq_of_missed
        exact (matches_byte.mp hmark).2
  · rintro ⟨hclass, rfl⟩
    refine Grammar.matches_body.mpr ?_
    cases halpha : classAt input ⟨[(65, 90), (97, 122)]⟩ p with
    | true => exact .orElse (.apply (Grammar.matches_body.mpr (.byte halpha)))
    | false =>
      refine .orElse_next (.apply (Grammar.Matches.of_body (.byte_miss halpha))) ?_
      cases hdigit : classAt input (.range 48 57) p with
      | true => exact .orElse (.apply (Grammar.matches_body.mpr (.byte hdigit)))
      | false =>
        refine .orElse_next (.apply (Grammar.Matches.of_body (.byte_miss hdigit))) (.byte ?_)
        simpa [classAt_atomBytes, halpha, hdigit] using hclass

theorem matches_atoms_iff :
    (many1 (apply Rule.atext)).Matches input ((grammar policy).Matches input) p true q ↔
      RunBetween input atomBytes p q :=
  matches_many1_iff (ranking policy) fun _ _ => matches_apply.trans takes_atext_iff

section Plain

variable (hplain : IsPlain input)
include hplain

theorem eq_of_gap (h : Gap policy input p q) : q = p :=
  h.eq_of_not_starts fun hstarts =>
    not_classAt_of_disjoint (by decide) (hplain.classAt (lt_of_classAt hstarts)) hstarts

theorem gap_self (policy : Option Policy) (hp : p ≤ input.utf8ByteSize) :
    Gap policy input p p := by
  obtain ⟨q, hq⟩ := Gap.exists_of_le policy hp
  obtain rfl := eq_of_gap hplain hq
  exact hq

/-- An expression with gaps around it takes what it takes without them. -/
theorem of_padded {e : Expr Rule}
    (h : (seq [optCfws, e, optCfws]).Matches input ((grammar policy).Matches input) p true q) :
    e.Matches input ((grammar policy).Matches input) p true q := by
  obtain ⟨i, hfront, h⟩ := matches_andThen.mp (matches_attempt.mp h)
  obtain ⟨j, he, hback⟩ := matches_andThen.mp h
  obtain rfl := eq_of_gap hplain hfront
  obtain rfl := eq_of_gap hplain hback
  exact he

theorem padded {e : Expr Rule} (h : e.Matches input ((grammar policy).Matches input) p true q)
    (hq : q ≤ input.utf8ByteSize) :
    (seq [optCfws, e, optCfws]).Matches input ((grammar policy).Matches input) p true q := by
  have hp : p ≤ q := h.le fun _ _ _ _ h => h.le
  exact .attempt (.andThen (gap_self hplain policy (Nat.le_trans hp hq))
    (.andThen h (gap_self hplain policy hq)))

/-- Nothing is taken that a byte opens which does not occur. -/
theorem not_takes_of_opens {a : UInt8} (h : Opens policy input (.single a) r)
    (ha : bareBytes.contains a = false) : ¬Takes policy input r p q := by
  intro hr
  obtain ⟨x, -, hx⟩ := h p q hr
  exact hplain.byteAt?_ne ha (classAt_single.mp hx)

/-! ### Atoms and words -/

theorem takes_atom_iff : Takes policy input .atom p q ↔ RunBetween input atomBytes p q :=
  Grammar.matches_body.trans ⟨fun h => matches_atoms_iff.mp (of_padded hplain h),
    fun h => padded hplain (matches_atoms_iff.mpr h) h.le_size⟩

theorem takes_word_iff : Takes policy input .word p q ↔ RunBetween input atomBytes p q := by
  refine Grammar.matches_body.trans (matches_orElse.trans ⟨?_, fun h => .inl ?_⟩)
  · rintro (hatom | ⟨i, -, hquoted⟩)
    · exact (takes_atom_iff hplain).mp (matches_apply.mp hatom)
    · exact absurd (matches_apply.mp hquoted)
        (not_takes_of_opens hplain opens_quotedString (by decide))
  · exact matches_apply.mpr ((takes_atom_iff hplain).mpr h)

/-! ### Dotted forms -/

theorem dottedBetween_of_dotAtom (h : Takes policy input .dotAtom p q) :
    DottedBetween input atomBytes p q := by
  have htext := matches_apply.mp (of_padded hplain (Grammar.matches_body.mp h))
  exact dottedBetween_of_seq (fun _ _ => matches_atoms_iff) (Grammar.matches_body.mp htext)

theorem dotAtom_of_dottedBetween (h : DottedBetween input atomBytes p q)
    (hq : byteAt? input q ≠ some 46) : Takes policy input .dotAtom p q := by
  obtain ⟨i, hfirst, hrest⟩ := many_of_dottedBetween (fun _ _ => matches_atoms_iff)
    (ranking policy) h hq
  have htext : Takes policy input .dotAtomText p q :=
    Grammar.matches_body.mpr (.attempt (.andThen (matches_atoms_iff.mpr hfirst) hrest))
  exact Grammar.matches_body.mpr (padded hplain (.apply htext) h.le_size)

theorem dottedBetween_of_obsLocalPart (h : Takes policy input .obsLocalPart p q) :
    DottedBetween input atomBytes p q :=
  dottedBetween_of_seq (fun _ _ => matches_apply.trans (takes_word_iff hplain))
    (Grammar.matches_body.mp h)

theorem dottedBetween_of_obsDomain (h : Takes policy input .obsDomain p q) :
    DottedBetween input atomBytes p q :=
  dottedBetween_of_seq (fun _ _ => matches_apply.trans (takes_atom_iff hplain))
    (Grammar.matches_body.mp h)

/-- **Local parts are runs with dots between them.** -/
theorem takes_localPart_iff (hq : byteAt? input q ≠ some 46) :
    Takes policy input .localPart p q ↔ DottedBetween input atomBytes p q := by
  refine Grammar.matches_body.trans (matches_orElse.trans ⟨?_, fun h =>
    .inl (.apply (dotAtom_of_dottedBetween hplain h hq))⟩)
  rintro (hdotted | ⟨i, hi, hother⟩)
  · exact dottedBetween_of_dotAtom hplain (matches_apply.mp hdotted)
  · obtain rfl := (matches_apply.mp hi).eq_of_missed
    rcases matches_orElse.mp hother with hquoted | ⟨j, hj, hobs⟩
    · exact absurd (matches_apply.mp hquoted)
        (not_takes_of_opens hplain opens_quotedString (by decide))
    · obtain rfl := (matches_apply.mp hj).eq_of_missed
      exact dottedBetween_of_obsLocalPart hplain (matches_apply.mp hobs)

omit hplain in
theorem matches_domainForm : (domainForm policy r).Matches input ((grammar policy).Matches input)
    p true q ↔ Takes policy input r p q ∧ Accepted policy input p q := by
  cases policy with
  | none => exact matches_apply.trans (and_iff_left accepted_none).symm
  | some asked => exact matches_check.trans (and_congr matches_apply accepted_some.symm)

/-- **Domains are runs with dots between them**, if the policy accepts them. -/
theorem takes_domain_iff (hq : byteAt? input q ≠ some 46) : Takes policy input .domain p q ↔
    DottedBetween input atomBytes p q ∧ Accepted policy input p q := by
  refine Grammar.matches_body.trans (matches_orElse.trans ⟨?_, fun ⟨h, hp⟩ =>
    .inl (matches_domainForm.mpr ⟨dotAtom_of_dottedBetween hplain h hq, hp⟩)⟩)
  -- The obsolete form is tried where the dotted one is refused. It takes no other text here, so that
  -- the policy refuses it too, but what matters is that it takes runs with dots between them.
  rintro (hdotted | ⟨i, hi, hother⟩)
  · exact (matches_domainForm.mp hdotted).imp_left (dottedBetween_of_dotAtom hplain)
  · have hrestores : (domainForm policy .dotAtom).restores = true := by cases policy <;> rfl
    obtain rfl := hi.eq_of_restores rfl hrestores fun _ _ _ h => h.eq_of_missed
    rcases matches_orElse.mp hother with hliteral | ⟨j, hj, hobs⟩
    · exact absurd (matches_apply.mp hliteral)
        (not_takes_of_opens hplain opens_domainLiteral (by decide))
    · obtain rfl := (matches_apply.mp hj).eq_of_missed
      exact (matches_domainForm.mp hobs).imp_left (dottedBetween_of_obsDomain hplain)

/-! ### Addresses -/

/-- **Plain bare addresses.** -/
theorem takes_addrSpec_iff : Takes policy input .addrSpec 0 input.utf8ByteSize ↔
    ∃ i, SplitAt policy input atomBytes i := by
  refine Grammar.matches_body.trans ⟨fun h => ?_, ?_⟩
  · obtain ⟨i, hlocal, h⟩ := matches_andThen.mp (matches_attempt.mp h)
    obtain ⟨j, hat, hdomain⟩ := matches_andThen.mp h
    obtain ⟨hi, rfl⟩ := matches_exactly.mp hat
    have hfront := (takes_localPart_iff hplain (not_dot_of_at hi)).mp (matches_apply.mp hlocal)
    obtain ⟨hback, haccepted⟩ :=
      (takes_domain_iff hplain (not_dot_of_end input)).mp (matches_apply.mp hdomain)
    exact ⟨i, hfront, hi, hback, haccepted⟩
  · rintro ⟨i, hfront, hi, hback, haccepted⟩
    have hlocal : Takes policy input .localPart 0 i :=
      (takes_localPart_iff hplain (not_dot_of_at hi)).mpr hfront
    have hdomain := (takes_domain_iff hplain (not_dot_of_end input)).mpr ⟨hback, haccepted⟩
    exact .attempt (.andThen (.apply hlocal)
      (.andThen (matches_exactly.mpr ⟨hi, rfl⟩) (.apply hdomain)))

/-- A plain address has no name and is no group. -/
theorem addrSpec_of_address (h : Takes policy input .address p q) :
    Takes policy input .addrSpec p q := by
  rcases matches_orElse.mp (Grammar.matches_body.mp h) with hmailbox | ⟨i, hi, hgroup⟩
  · rcases matches_orElse.mp (Grammar.matches_body.mp (matches_apply.mp hmailbox)) with
      hname | ⟨i, hi, hspec⟩
    · obtain ⟨_, _, x, -, -, hx⟩ := namePlace_of_nameAddr (matches_apply.mp hname)
      exact absurd hx (hplain.byteAt?_ne (by decide))
    · obtain rfl := (matches_apply.mp hi).eq_of_missed
      exact matches_apply.mp hspec
  · obtain ⟨x, -, hx⟩ := groupPlace_of_group (matches_apply.mp hgroup)
    exact absurd hx (hplain.byteAt?_ne (by decide))

/-- **Plain addresses are bare.** -/
theorem takes_address_iff_addrSpec :
    Takes policy input .address p q ↔ Takes policy input .addrSpec p q :=
  ⟨addrSpec_of_address hplain, fun h => address_of_mailbox (mailbox_of_addrSpec h)⟩

end Plain

end AddressGrammar.Modern
