import AddressGrammar.Proofs.Modern.Refusals

/-!
# The three forms of an address

An address is a bare one, a named one with its brackets, or a group. The grammar tries a name first,
takes as much of it as there is and does not go back on that: whether a name was the right choice
shows only behind it. It never is the wrong one. Where a bare address stands, a name would end
behind the first word, in front of a dot or an at sign, and so the bracket or the colon that has to
follow a name is missing.

## Main results

* `namePlace_of_nameAddr`, `specPlace_of_addrSpec`, `groupPlace_of_group` — what stands where a form
  of an address was taken
* `mailbox_of_addrSpec`, `address_of_mailbox`, `address_of_group` — no form stands in the way of
  another one
-/

namespace AddressGrammar.Modern

open Text Peg Peg.Expr

variable {policy : Option Policy} {input : String} {p q : Nat}

theorem namePlace_of_nameAddr (h : Takes policy input .nameAddr p q) : NamePlace policy input p := by
  obtain ⟨i, hname, hangle⟩ := matches_andThen.mp (matches_attempt.mp (Grammar.matches_body.mp h))
  obtain ⟨x, hgap, hopen⟩ := opens_angleAddr i q (matches_apply.mp hangle)
  rcases matches_opt.mp hname with hname | ⟨rfl, j, hname⟩
  · exact ⟨true, i, x, matches_apply.mp hname, hgap, classAt_single.mp hopen⟩
  · obtain rfl := (matches_apply.mp hname).eq_of_missed
    exact ⟨false, _, x, matches_apply.mp hname, hgap, classAt_single.mp hopen⟩

theorem specPlace_of_addrSpec (h : Takes policy input .addrSpec p q) : SpecPlace policy input p := by
  obtain ⟨i, hlocal, h⟩ := matches_andThen.mp (matches_attempt.mp (Grammar.matches_body.mp h))
  obtain ⟨j, hat, -⟩ := matches_andThen.mp h
  exact word_of_localPart (matches_apply.mp hlocal) (matches_exactly.mp hat).1

theorem groupPlace_of_group (h : Takes policy input .group p q) : GroupPlace policy input p := by
  obtain ⟨i, hname, h⟩ := matches_andThen.mp (matches_attempt.mp (Grammar.matches_body.mp h))
  obtain ⟨j, hcolon, -⟩ := matches_andThen.mp h
  exact ⟨i, matches_apply.mp hname, (matches_exactly.mp hcolon).1⟩

/-- **No name stands in the way of a bare address.** -/
theorem mailbox_of_addrSpec (h : Takes policy input .addrSpec p q) :
    Takes policy input .mailbox p q := by
  have hspec := specPlace_of_addrSpec h
  have hname := misses_of_not_takes hspec.address.le_size fun i hname =>
    hspec.not_name (namePlace_of_nameAddr hname)
  exact Grammar.matches_body.mpr (.orElse_next (.apply hname) (.apply h))

theorem mailbox_of_nameAddr (h : Takes policy input .nameAddr p q) :
    Takes policy input .mailbox p q :=
  Grammar.matches_body.mpr (.orElse (.apply h))

theorem address_of_mailbox (h : Takes policy input .mailbox p q) :
    Takes policy input .address p q :=
  Grammar.matches_body.mpr (.orElse (.apply h))

/-- What a mailbox begins with. -/
theorem place_of_mailbox (h : Takes policy input .mailbox p q) :
    NamePlace policy input p ∨ SpecPlace policy input p := by
  rcases matches_orElse.mp (Grammar.matches_body.mp h) with hname | ⟨i, hi, hspec⟩
  · exact .inl (namePlace_of_nameAddr (matches_apply.mp hname))
  · obtain rfl := (matches_apply.mp hi).eq_of_missed
    exact .inr (specPlace_of_addrSpec (matches_apply.mp hspec))

theorem not_mailbox_of_group {i : Nat} (h : Takes policy input .group p q) :
    ¬Takes policy input .mailbox p i := by
  intro hmailbox
  have hgroup := groupPlace_of_group h
  rcases place_of_mailbox hmailbox with hname | hspec
  · exact hname.not_group hgroup
  · exact hspec.not_group hgroup

/-- **No mailbox stands in the way of a group.** -/
theorem address_of_group (h : Takes policy input .group p q) : Takes policy input .address p q := by
  have hmailbox := misses_of_not_takes (groupPlace_of_group h).address.le_size fun _ =>
    not_mailbox_of_group h
  exact Grammar.matches_body.mpr (.orElse_next (.apply hmailbox) (.apply h))

end AddressGrammar.Modern
