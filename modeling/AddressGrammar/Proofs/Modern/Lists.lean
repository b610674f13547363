import AddressGrammar.Proofs.Modern.Gaps

/-!
# Lists of addresses

A list of addresses has two forms. In the plain form an address stands behind every comma; in the
obsolete form it may be left out. Where the plain form cannot go on because of one bad address, the
obsolete form cannot go on either, although it takes the gaps between the addresses by itself: it
asks for the same addresses behind these gaps, and where it asks for the bad one it finds neither an
address nor a comma.

## Main definitions

* `AddressPlace` — behind a gap stands something that an address begins with
* `sparseItem` — an element of a list in its obsolete form

## Main results

* `not_sparseItem` — a list does not go on where an address has begun that does not match
* `stuck_of_plainList` — an obsolete list stops where the plain one does
-/

namespace AddressGrammar.Modern

open Text Peg Peg.Expr

variable {policy : Option Policy} {input : String} {p q i j : Nat}

/-- Behind the gap there is something that an address begins with. -/
def AddressPlace (policy : Option Policy) (input : String) (p : Nat) : Prop :=
  ∃ x, Gap policy input p x ∧ classAt input addressStarts x = true

theorem AddressPlace.le_size (h : AddressPlace policy input p) : p ≤ input.utf8ByteSize := by
  obtain ⟨x, hx, hstart⟩ := h
  exact Nat.le_trans hx.le (Nat.le_of_lt (lt_of_classAt hstart))

/-- There is no other byte than those behind the gap. -/
theorem AddressPlace.not_byte (h : AddressPlace policy input p) (hgap : Gap policy input p q)
    {a : UInt8} (ha : addressStarts.contains a = false) : byteAt? input q ≠ some a := by
  obtain ⟨x, hx, hstart⟩ := h
  obtain rfl := hx.unique hgap
  exact byteAt?_ne_of_classAt hstart ha

/-- An element of a list that may leave its address out. -/
abbrev sparseItem : Expr Rule := chain [opt (apply .address), optCfws, token ',', optCfws]

/-- An element and the comma right behind it. -/
theorem sparseItem_of_opt
    (h : (opt (apply Rule.address)).Matches input ((grammar policy).Matches input) p true i)
    (hi : byteAt? input i = some 44) (hgap : Gap policy input (i + 1) j) :
    sparseItem.Matches input ((grammar policy).Matches input) p true j :=
  .andThen h (.andThen (Gap.self_of_byte policy hi (by decide))
    (.andThen (matches_exactly.mpr ⟨hi, rfl⟩) hgap))

/-- An element that has its address. -/
theorem sparseItem_of_address (h : Takes policy input .address p i) (hi : byteAt? input i = some 44)
    (hgap : Gap policy input (i + 1) j) :
    sparseItem.Matches input ((grammar policy).Matches input) p true j :=
  sparseItem_of_opt (.orElse (.attempt (.apply h))) hi hgap

/-- **A list does not go on where an address has begun that does not match.** -/
theorem not_sparseItem (hplace : AddressPlace policy input p)
    (hdead : ∀ q, ¬Takes policy input .address p q) :
    ¬sparseItem.Matches input ((grammar policy).Matches input) p true q := by
  intro h
  obtain ⟨i, haddress, h⟩ := matches_andThen.mp h
  obtain ⟨j, hgap, h⟩ := matches_andThen.mp h
  obtain ⟨k, hcomma, -⟩ := matches_andThen.mp h
  rcases matches_opt.mp haddress with haddress | ⟨rfl, -⟩
  · exact hdead i (matches_apply.mp haddress)
  · exact hplace.not_byte hgap (by decide) (matches_exactly.mp hcomma).1

theorem not_sparseList (hplace : AddressPlace policy input p)
    (hdead : ∀ q, ¬Takes policy input .address p q) :
    ¬sparseList.Matches input ((grammar policy).Matches input) p true q := by
  intro h
  obtain ⟨i, hmany, -⟩ := matches_andThen.mp (matches_attempt.mp h)
  obtain ⟨j, hfirst, -⟩ := matches_many1.mp hmany
  exact not_sparseItem hplace hdead hfirst

/-- An obsolete list fails only if its first element does. -/
theorem not_sparseItem_of_missed
    (h : sparseList.Matches input ((grammar policy).Matches input) p false q) :
    ¬sparseItem.Matches input ((grammar policy).Matches input) p true i := by
  intro hitem
  obtain ⟨-, j, h⟩ := misses_attempt.mp h
  rcases misses_andThen.mp h with h | ⟨k, -, h⟩
  · rcases misses_andThen.mp h with h | ⟨l, -, h⟩
    · obtain ⟨-, m, h⟩ := misses_attempt.mp h
      cases (hitem.unique Grammar.matches_unique h).1
    · cases h.many_matched
  · cases h.eq_true_of_total rfl

/-- Behind a comma, an address that matches or does not do so in front of the gap does the same
behind it. -/
theorem AddressPlace.shift (h : AddressPlace policy input p) :
    ∃ x, Gap policy input p x ∧ Gap policy input x x ∧ AddressPlace policy input x ∧
      (∀ q, Takes policy input .address p q → Takes policy input .address x q) ∧
      ((∀ q, ¬Takes policy input .address p q) → ∀ q, ¬Takes policy input .address x q) := by
  have hp := h.le_size
  obtain ⟨x, hx, hstart⟩ := h
  have hself : Gap policy input x x := Gap.self policy hstart (by decide)
  have hshift : Shifts policy input p x (apply .address) := shifts_address hx hself
  refine ⟨x, hx, hself, ⟨x, hself, hstart⟩, fun q hq => ?_, fun hdead q hq => ?_⟩
  · obtain ⟨q', hq', heq⟩ := hshift true q (.apply hq)
    exact heq rfl ▸ matches_apply.mp hq'
  · obtain ⟨b, i, hb⟩ := exists_matches policy hp (apply .address)
    cases b with
    | true => exact hdead i (matches_apply.mp hb)
    | false =>
      obtain ⟨j, hj, -⟩ := hshift false i hb
      cases (hq.unique (matches_apply.mp hj)).1

/-- **An obsolete list stops where the plain one does** if an address has begun there that does not
match. -/
theorem stuck_of_plainList {s y z u : Nat} (hs : Takes policy input .address s y)
    (hmany : (many (chain [token ',', apply .address])).Matches input
      ((grammar policy).Matches input) y true z)
    (hz : byteAt? input z = some 44) (hplace : AddressPlace policy input (z + 1))
    (hdead : ∀ q, ¬Takes policy input .address (z + 1) q)
    (hsparse : (many sparseItem).Matches input ((grammar policy).Matches input) s true u) :
    AddressPlace policy input u ∧ ∀ q, ¬Takes policy input .address u q := by
  generalize he : many (chain [token ',', apply Rule.address]) = e at hmany
  generalize hb : true = b at hmany
  -- The obsolete list takes the comma behind the address, and the gap there.
  have hstep : ∀ {s y x}, Takes policy input .address s y → byteAt? input y = some 44 →
      Gap policy input (y + 1) x →
      (many sparseItem).Matches input ((grammar policy).Matches input) s true u →
      (many sparseItem).Matches input ((grammar policy).Matches input) x true u := by
    intro s y x hs hy hgap hsparse
    have hpos : x ≠ s := by
      have hsy := hs.le
      have hyx := hgap.le
      omega
    exact (sparseItem_of_address hs hy hgap).many_rest Grammar.matches_unique hpos hsparse
  induction hmany generalizing s with
  | many_miss | many_still =>
    cases he
    obtain ⟨x, hgap, -, hplace', -, hdead'⟩ := hplace.shift
    have hrest := hstep hs hz hgap hsparse
    obtain rfl := hrest.many_stays fun i => not_sparseItem hplace' (hdead' hdead)
    exact ⟨hplace', hdead' hdead⟩
  | many_next hpart _ _ _ ih =>
    cases he
    obtain ⟨k, hcomma, haddress⟩ := matches_andThen.mp hpart
    obtain ⟨hy, rfl⟩ := matches_exactly.mp hcomma
    have hplace' : AddressPlace policy input _ := opens_address _ _ (matches_apply.mp haddress)
    obtain ⟨x, hgap, -, -, hshift, -⟩ := hplace'.shift
    have hnext := hshift _ (matches_apply.mp haddress)
    exact ih hnext hz hplace hdead (hstep hs hy hgap hsparse) rfl rfl
  | _ => cases he

end AddressGrammar.Modern
