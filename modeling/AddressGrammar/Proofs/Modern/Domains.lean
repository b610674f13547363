import AddressGrammar.Proofs.Hostname.PlainNames
import AddressGrammar.Proofs.Modern.Gaps
import AddressGrammar.Proofs.Peg.Refusals

/-!
# The forms of a domain

A policy is asked about two forms of a domain. The dotted form is a list of atoms whose dots stand
next to them; in the obsolete form there may be comments and white space around every dot. If the
policy refuses the first form, the second one is tried and may take more text, which the policy may
like better. It is steady on an input if that does not happen, which only matters where a domain can
begin. A policy that accepts no comments and no white space is steady on every input: a text without
them has the same extent in both forms, and a policy answers the same about the same text.

## Main definitions

* `Steady` — a policy that refuses both forms of a domain if it refuses the first
* `KeepsClear` — a policy that accepts no comments and no white space in ASCII text

## Main results

* `eq_of_obsDomain` — an obsolete form without gaps ends where the dotted form does
* `not_takes_refused` — a domain of which a form is refused does not match
* `KeepsClear.steady` — what keeps clear is steady
* `keepsClear_hostname` — host names are kept clear
-/

namespace AddressGrammar.Modern

open Text Peg Peg.Expr

variable {policy : Option Policy} {input : String} {p q i j : Nat} {r : Rule}

/-! ### Bytes below 128 -/

theorem coveredAscii_body (policy : Option Policy) (r : Rule) :
    (body policy r).covered holdsAscii (fun _ => true) = true := by
  have hnone : (body policy r).covered holdsAscii (fun _ => true) =
      (body none r).covered holdsAscii fun _ => true := by
    cases policy <;> cases r <;> rfl
  rw [hnone]
  cases r <;> decide

/-- **Rules take bytes below 128 only.** -/
theorem asciiBetween_of_takes (h : Takes policy input r p q) : AsciiBetween input p q := by
  refine h.rule_induction (P := fun _ p b q => b = true → AsciiBetween input p q)
    (fun r p b i hi hb => ?_) rfl
  subst hb
  exact hi.covered AsciiBetween.refl .trans asciiBetween_of_classAt
    (fun _ _ _ h => h.1.eq_of_missed) (fun _ h => h.2 rfl) rfl (coveredAscii_body policy r)

/-! ### Text without gaps -/

/-- No gap begins between two positions. -/
def Clear (input : String) (p q : Nat) : Prop :=
  ∀ i, p ≤ i → i < q → ¬classAt input gapStarts i = true

/-- In clear text gaps are empty. -/
theorem Clear.eq_of_gap (h : Clear input p q) (hgap : Gap policy input i j) (hi : p ≤ i)
    (hj : j ≤ q) : j = i := by
  rcases Nat.eq_or_lt_of_le hgap.le with heq | hlt
  · exact heq.symm
  · exact hgap.eq_of_not_starts (h i hi (Nat.lt_of_lt_of_le hlt hj))

/-- Behind a dot, an atom that stands in clear text is plain text. -/
theorem Clear.text_of_atom (h : Clear input p q) (hatom : Takes policy input .atom i j) (hi : p ≤ i)
    (hj : j ≤ q) :
    Gap policy input i i ∧ Gap policy input j j ∧
      (many1 (apply .atext)).Matches input ((grammar policy).Matches input) i true j := by
  obtain ⟨k, hgap, hbody⟩ := matches_andThen.mp (matches_attempt.mp (Grammar.matches_body.mp hatom))
  obtain ⟨l, htext, hgap'⟩ := matches_andThen.mp hbody
  have hkl : k ≤ l := htext.le fun _ _ _ _ h => h.le
  have hik : i ≤ k := Gap.le hgap
  have hlj : l ≤ j := Gap.le hgap'
  obtain rfl := h.eq_of_gap hgap hi (Nat.le_trans hkl (Nat.le_trans hlj hj))
  obtain rfl := h.eq_of_gap hgap' (Nat.le_trans hi hkl) hj
  exact ⟨hgap, hgap', htext⟩

/-- Text that could be an atom is one. -/
theorem exists_atom
    (h : (many1 (apply .atext)).Matches input ((grammar policy).Matches input) i true j)
    (hj : j ≤ input.utf8ByteSize) : ∃ k, Takes policy input .atom i k := by
  obtain ⟨k, hk⟩ := Gap.exists_of_le policy hj
  have hi : Gap policy input i i := Gap.self policy (atomBytes_of_many1 h) (by decide)
  exact ⟨k, Grammar.matches_body.mpr (.attempt (.andThen hi (.andThen h hk)))⟩

/-- In clear text, atoms with dots between them are the same whether or not there may be gaps. -/
theorem Clear.eq_of_dots (h : Clear input p q)
    (hm : (many (chain [token '.', apply Rule.atom])).Matches input ((grammar policy).Matches input)
      i true q) (hi : p ≤ i) (hgap : Gap policy input i i)
    (hm' : (many (chain [token '.', many1 (apply Rule.atext)])).Matches input
      ((grammar policy).Matches input) i true j) (hj : j ≤ input.utf8ByteSize) :
    j = q ∧ Gap policy input q q := by
  generalize he : many (chain [token '.', apply Rule.atom]) = e at hm
  generalize hb : true = b at hm
  induction hm with
  | @many_miss _ k l hmiss =>
    cases he
    refine ⟨?_, hgap⟩
    cases hm' with
    | many_miss | many_still => rfl
    | many_next hpart _ hrest =>
      obtain ⟨m, hdot, htext⟩ := matches_andThen.mp hpart
      have hend := hrest.le fun _ _ _ _ h => h.le
      obtain ⟨n, hatom⟩ := exists_atom htext (Nat.le_trans hend hj)
      cases (hmiss.unique Grammar.matches_unique (.andThen hdot (.apply hatom))).1
  | many_still hstill =>
    cases he
    obtain ⟨m, hdot, hatom⟩ := matches_andThen.mp hstill
    have hle := (matches_apply.mp hatom).le
    have hm := (matches_exactly.mp hdot).2
    omega
  | @many_next _ k l q hpart hpos hrest _ ih =>
    cases he
    obtain ⟨m, hdot, hatom⟩ := matches_andThen.mp hpart
    obtain rfl := (matches_exactly.mp hdot).2
    have hlq := hrest.le fun _ _ _ _ h => h.le
    have hkl := (matches_apply.mp hatom).le
    obtain ⟨-, hl, htext⟩ := h.text_of_atom (matches_apply.mp hatom) (by omega) hlq
    have hpart' : (chain [token '.', many1 (apply Rule.atext)]).Matches input
        ((grammar policy).Matches input) k true l := .andThen hdot htext
    cases hm' with
    | many_miss hmiss => cases (hmiss.unique Grammar.matches_unique hpart').1
    | many_still hstill => exact absurd (hstill.unique Grammar.matches_unique hpart').2 hpos
    | many_next hnext _ hrest' =>
      obtain ⟨-, rfl⟩ := hpart'.unique Grammar.matches_unique hnext
      exact ih h (by omega) hl hrest' rfl rfl
  | _ => cases he

/-- **An obsolete form without gaps ends where the dotted form does.** -/
theorem eq_of_obsDomain (h : Clear input p q) (hobs : Takes policy input .obsDomain p q)
    (hdotted : Takes policy input .dotAtom p j) (hj : j ≤ input.utf8ByteSize) : j = q := by
  obtain ⟨k, hatom, hrest⟩ :=
    matches_andThen.mp (matches_attempt.mp (Grammar.matches_body.mp hobs))
  have hkq := hrest.le fun _ _ _ _ h => h.le
  obtain ⟨hp, hk, htext⟩ := h.text_of_atom (matches_apply.mp hatom) (Nat.le_refl p) hkq
  obtain ⟨l, hgap, hbody⟩ :=
    matches_andThen.mp (matches_attempt.mp (Grammar.matches_body.mp hdotted))
  obtain rfl := Gap.unique hp hgap
  obtain ⟨m, hdots, hgap'⟩ := matches_andThen.mp hbody
  obtain ⟨k', htext', hrest'⟩ :=
    matches_andThen.mp (matches_attempt.mp (Grammar.matches_body.mp (matches_apply.mp hdots)))
  obtain ⟨-, rfl⟩ := htext.unique Grammar.matches_unique htext'
  have hmj : m ≤ j := Gap.le hgap'
  have hlk := (matches_apply.mp hatom).le
  obtain ⟨rfl, hq⟩ := h.eq_of_dots hrest hlk hk hrest' (Nat.le_trans hmj hj)
  exact Gap.unique hq hgap'

/-! ### Policies that keep clear of gaps -/

/-- A policy that accepts no text in ASCII in which a gap could begin. -/
def KeepsClear (policy : Policy) : Prop :=
  ∀ text, policy.accepts text = true → (∀ i b, byteAt? text i = some b → b < 128) →
    ∀ i, ¬classAt text gapStarts i = true

/-- **Host names are kept clear.** -/
theorem keepsClear_hostname : KeepsClear Hostname.policy := by
  intro text h hascii i hgap
  obtain ⟨b, hb, hmem⟩ := (Option.any_eq_true _ _).mp hgap
  have hhost : classAt text Hostname.hostBytes i = true :=
    (Option.any_eq_true _ _).mpr ⟨b, hb, Hostname.hostBytes_of_isHostname h hascii hb⟩
  exact not_classAt_of_disjoint (by decide) hhost hgap

/-- What a policy of this kind accepts of the input is clear. -/
theorem KeepsClear.clear {asked : Policy} (hasked : KeepsClear asked)
    (hm : (check (apply r) asked).Matches input ((grammar policy).Matches input) p true q) :
    Takes policy input r p q ∧ Clear input p q ∧ q ≤ input.utf8ByteSize := by
  cases hm with
  | check hr hp =>
    obtain ⟨text, htext, haccepts⟩ := (Option.any_eq_true _ _).mp hp
    have hbyte := byteAt?_slice htext
    refine ⟨matches_apply.mp hr, fun i hpi hiq hgap => ?_, ?_⟩
    · refine hasked text haccepts (fun k b hk => ?_) (i - p) ?_
      · rw [hbyte k] at hk
        split at hk
        · next hlt =>
          exact asciiBetween_of_takes (matches_apply.mp hr) _ b (Nat.le_add_right p k) hlt hk
        · cases hk
      · rw [classAt, hbyte, if_pos (by omega), Nat.add_sub_cancel' hpi]
        exact hgap
    · rw [slice?_eq_dite] at htext
      split at htext
      · next hv => exact hv.2.1.le_rawEndPos
      · cases htext

/-! ### Policies that do not change their mind -/

/-- Where a domain can begin: at the beginning of the input or behind an at sign. -/
def DomainPlace (input : String) (p : Nat) : Prop :=
  p = 0 ∨ ∃ i, p = i + 1 ∧ byteAt? input i = some 64

/-- Where a domain can begin, a policy that refuses the text of the dotted form refuses that of the
obsolete form as well. -/
def Steady (asked : Policy) (input : String) : Prop :=
  ∀ p j q, DomainPlace input p → Takes (some asked) input .dotAtom p j →
    (slice? input p j).any asked.accepts = false → Takes (some asked) input .obsDomain p q →
      (slice? input p q).any asked.accepts = false

/-- **A policy that keeps clear of gaps is steady** on every input. -/
theorem KeepsClear.steady {asked : Policy} (hasked : KeepsClear asked) (input : String) :
    Steady asked input := by
  intro p j q _ hdotted hrefused hobs
  refine Bool.eq_false_iff.mpr fun hp => ?_
  obtain ⟨-, hclear, hq⟩ := hasked.clear (.check (.apply hobs) hp)
  have hj := hdotted.le_size (Nat.le_trans hobs.le hq)
  obtain rfl := eq_of_obsDomain hclear hobs hdotted hj
  cases hp.symm.trans hrefused

/-- **A domain of which a form is refused does not match**, if the policy is steady. -/
theorem not_takes_refused {asked : Policy} (hasked : Steady asked input) (hplace : DomainPlace input p)
    {refuses : Rule → Nat → Prop}
    (hfree : ∀ r, (r = .dotAtom ∨ r = .domainLiteral ∨ r = .obsDomain) → ∀ p, ¬refuses r p)
    (hr : (body (some asked) .domain).Refuses input ((grammar (some asked)).Matches input) refuses p) :
    ¬(body (some asked) .domain).Matches input ((grammar (some asked)).Matches input) p true q := by
  let call := (grammar (some asked)).Matches input
  have hforms : ∀ r, (r = .dotAtom ∨ r = .domainLiteral ∨ r = .obsDomain) →
      (apply r).Fatal input call refuses :=
    fun r hr => fatal_apply fun p q h => absurd h (hfree r hr p)
  have hfirst : (check (apply .dotAtom) asked).Fatal input call refuses :=
    fatal_check Grammar.matches_unique (hforms _ (.inl rfl))
  have hlast : (check (apply .obsDomain) asked).Fatal input call refuses :=
    fatal_check Grammar.matches_unique (hforms _ (.inr (.inr rfl)))
  have hothers := fatal_orElse Grammar.matches_unique (hforms _ (.inr (.inl rfl))) hlast
    fun p i q hr => absurd (refuses_apply.mp hr) (hfree _ (.inr (.inl rfl)) p)
  intro hm
  rcases refuses_orElse.mp hr with hr | ⟨i, hi, hr⟩
  · rcases matches_orElse.mp hm with hm | ⟨i, hi, hrest⟩
    · exact hfirst p q hr hm
    · obtain ⟨j, hdotted, hrefused⟩ : ∃ j, Takes (some asked) input .dotAtom p j ∧
          (slice? input p j).any asked.accepts = false := by
        rcases refuses_check.mp hr with hr | ⟨j, hj, hrefused⟩
        · exact absurd (refuses_apply.mp hr) (hfree _ (.inl rfl) p)
        · exact ⟨j, matches_apply.mp hj, hrefused⟩
      obtain rfl : i = p := hi.eq_of_restores rfl rfl fun _ _ _ h => h.eq_of_missed
      rcases matches_orElse.mp hrest with hliteral | ⟨k, hk, hchecked⟩
      · exact opens_dotAtom.not_both opens_domainLiteral (by decide) hdotted
          (matches_apply.mp hliteral)
      · obtain rfl := (matches_apply.mp hk).eq_of_missed
        cases hchecked with
        | check hobs hp =>
          cases hp.symm.trans (hasked _ _ _ hplace hdotted hrefused (matches_apply.mp hobs))
  · rcases matches_orElse.mp hm with hm | ⟨i', hi', hrest⟩
    · cases (hi.unique Grammar.matches_unique hm).1
    · obtain ⟨-, rfl⟩ := hi.unique Grammar.matches_unique hi'
      exact hothers _ q hr hrest

end AddressGrammar.Modern
