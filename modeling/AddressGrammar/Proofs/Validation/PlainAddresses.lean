import AddressGrammar.Proofs.Legacy.PlainAddresses
import AddressGrammar.Proofs.Modern.PlainAddresses
import AddressGrammar.Proofs.Validation.Depth
import AddressGrammar.Validation.Shorthands

/-!
# Plain addresses

What a text of atom characters, dots and at signs has to look like to be an address, in both
grammars, can be said without a grammar: dotted text, an at sign, dotted text. The forms of an
address with names, brackets, quotes, groups and comments need characters that are not there, and the
obsolete forms are no wider than the plain ones without gaps. The bound on nesting cannot be hit
either, since nothing in such a text pays for nesting, however long it is.

## Main definitions

* `IsBareAddress` — two dotted texts with an at sign between them

## Main results

* `plain_addresses` — the plain texts that the shorthands accept
-/

namespace AddressGrammar.Validation

open Text Peg

variable {text front back : String} {c : ByteClass} {i : Nat} {checkDomain : Bool}

/-- A text is dotted on both sides of its at sign, and what stands behind it is a host name if that
is asked for. -/
structure IsBareAddress (checkDomain : Bool) (text localPart domain : String) : Prop where
  eq : text = localPart ++ "@" ++ domain
  single : text.toList.count '@' = 1
  dotted : IsDotted localPart
  dotted_domain : IsDotted domain
  hostname : checkDomain = true → Hostname.isHostname domain = true

/-! ### Depth -/

theorem byteCount_eq_zero (hplain : IsPlain text) {a : Char}
    (hch : bareBytes.contains a.toNat.toUInt8 = false) : byteCount a text = 0 := by
  refine List.count_eq_zero.mpr fun hmem => ?_
  obtain ⟨i, hi⟩ := List.mem_iff_getElem?.mp hmem
  exact hplain.byteAt?_ne hch ((byteAt?_eq_getElem? text i).trans hi)

/-- Plain texts are not too deep for the default bound. -/
theorem not_tooDeep_of_plain (hplain : IsPlain text) {v : Validator}
    (hdepth : v.maxDepth = defaultMaxDepth) (name : String) (limit : Nat) :
    v.checkRule name text ≠ .error (.tooDeep limit) := by
  have hopen := byteCount_eq_zero hplain (a := '(') (by decide)
  have hcolon := byteCount_eq_zero hplain (a := ':') (by decide)
  unfold Validator.checkRule
  rw [hdepth, defaultMaxDepth]
  cases v.syntaxKind with
  | modern =>
    refine checkWhole_not_tooDeep (Modern.tariff v.policy) (fun r => ?_) name limit
    have hneed : (Modern.tariff v.policy).need r ≤ 17 := Modern.need_le r
    have htolls : tollsFrom (Modern.tariff v.policy).toll text 0 = _ := Modern.tollsFrom_zero text
    omega
  | legacy =>
    refine checkWhole_not_tooDeep (Legacy.tariff v.policy) (fun r => ?_) name limit
    have hneed : (Legacy.tariff v.policy).need r ≤ 13 := Legacy.need_le r
    have htolls : tollsFrom (Legacy.tariff v.policy).toll text 0 = _ := Legacy.tollsFrom_zero text
    omega

/-- Plain texts are checked by the plain meaning of the grammars. -/
theorem validate_iff_of_plain (hplain : IsPlain text) {v : Validator}
    (hdepth : v.maxDepth = defaultMaxDepth) :
    v.validate text = true ↔ v.MatchesPlainly v.startRule.ruleName text :=
  isOk_iff.trans (v.checkRule_eq_ok_iff (not_tooDeep_of_plain hplain hdepth _))

/-! ### Both sides of the at sign -/

theorem not_at_of_isDotted (h : IsDotted text) : '@' ∉ text.toList := by
  intro hmem
  rcases h.isAtext_or_dot '@' hmem with hatext | hdot
  · cases hatext
  · cases hdot

theorem count_at (hfront : IsDotted front) (hback : IsDotted back) :
    (front ++ "@" ++ back).toList.count '@' = 1 := by
  simp only [String.toList_append, List.count_append,
    List.count_eq_zero.mpr (not_at_of_isDotted hfront),
    List.count_eq_zero.mpr (not_at_of_isDotted hback)]
  rfl

/-- There is one way to cut a text at its at sign. -/
theorem IsBareAddress.unique {front' back' : String} (h : IsBareAddress checkDomain text front back)
    (h' : IsBareAddress checkDomain text front' back') : front' = front ∧ back' = back := by
  have hchars : front.toList ++ '@' :: back.toList = front'.toList ++ '@' :: back'.toList := by
    simpa [String.append_assoc] using congrArg String.toList (h.eq.symm.trans h'.eq)
  obtain ⟨hfront, -, hback⟩ := (List.append_cons_inj_of_notMem (not_at_of_isDotted h.dotted)
    (not_at_of_isDotted h.dotted_domain)).mp hchars
  exact ⟨String.toList_injective hfront.symm, String.toList_injective hback.symm⟩

/-! ### Positions -/

/-- The policy of a validator accepts a text if it is a host name, or need not be one. -/
theorem accepted_iff {v : Validator} {p q : Nat} (h : slice? text p q = some back) :
    Accepted v.policy text p q ↔ (v.validateDomain = true → Hostname.isHostname back = true) := by
  rw [Validator.policy]
  cases v.validateDomain with
  | false => simp [accepted_none]
  | true => simp [accepted_some, h, Hostname.policy]

/-- Where the parts of a text stand that has an at sign in it. -/
theorem placed_parts (htext : text = front ++ "@" ++ back) :
    Placed front text 0 ∧ byteAt? text front.utf8ByteSize = some 64 ∧
      Placed back text (front.utf8ByteSize + 1) ∧
      front.utf8ByteSize + 1 + back.utf8ByteSize = text.utf8ByteSize := by
  have hall : Placed (front ++ "@" ++ back) text 0 := ⟨"", "", by simp [htext], rfl⟩
  obtain ⟨hfront, hat, hback⟩ := hall.parts (a := '@') (by decide)
  rw [Nat.zero_add] at hat hback
  refine ⟨hfront, hat, hback, ?_⟩
  rw [htext, String.utf8ByteSize_append, String.utf8ByteSize_append]
  rfl

/-- **A bare address by position.** -/
theorem splitAt_iff (hc : c.HoldsAtext) {v : Validator} (htext : text = front ++ "@" ++ back) :
    SplitAt v.policy text c front.utf8ByteSize ↔
      IsBareAddress v.validateDomain text front back := by
  obtain ⟨hfront, hat, hback, hsize⟩ := placed_parts htext
  -- Neither the at sign nor the end of the text goes on with the run in front of it.
  have hmiddle : ¬classAt text c (0 + front.utf8ByteSize) = true := fun h =>
    byteAt?_ne_of_classAt h hc.not_at (by rwa [Nat.zero_add])
  have hend : ¬classAt text c (front.utf8ByteSize + 1 + back.utf8ByteSize) = true := fun h =>
    Nat.lt_irrefl _ (hsize ▸ lt_of_classAt h)
  have hleft := dottedBetween_iff hc hfront hmiddle
  have hright := dottedBetween_iff hc hback hend
  have hhost := accepted_iff (v := v) hback.slice?_self
  rw [Nat.zero_add] at hleft
  rw [hsize] at hright hhost
  constructor
  · intro h
    have hdotted := hleft.mp h.front
    have hdotted' := hright.mp h.back
    exact ⟨htext, htext ▸ count_at hdotted hdotted', hdotted, hdotted', hhost.mp h.accepted⟩
  · exact fun h => ⟨hleft.mpr h.dotted, hat, hright.mpr h.dotted_domain, hhost.mpr h.hostname⟩

/-- The dots of a domain by position. -/
theorem IsBareAddress.dotBetween_iff (h : IsBareAddress checkDomain text front back) :
    DotBetween text (front.utf8ByteSize + 1) text.utf8ByteSize ↔ '.' ∈ back.toList := by
  obtain ⟨-, -, hback, hsize⟩ := placed_parts h.eq
  rw [← hsize]
  exact hback.dotBetween_iff h.dotted_domain.toNat_lt

/-- A text that is read on both sides of an at sign is cut there. -/
theorem exists_append_of_splitAt {policy : Option Policy} (hc : c.HoldsAtext)
    (h : SplitAt policy text c i) :
    ∃ front back, text = front ++ "@" ++ back ∧ front.utf8ByteSize = i :=
  exists_append_of_byteAt? (a := '@') (h.front.ascii hc.1) (by decide) h.atSign

theorem exists_splitAt_iff (hc : c.HoldsAtext) {v : Validator} :
    (∃ i, SplitAt v.policy text c i) ↔
      ∃ front back, IsBareAddress v.validateDomain text front back := by
  constructor
  · rintro ⟨i, h⟩
    obtain ⟨front, back, htext, rfl⟩ := exists_append_of_splitAt hc h
    exact ⟨front, back, (splitAt_iff hc htext).mp h⟩
  · rintro ⟨front, back, h⟩
    exact ⟨_, (splitAt_iff hc h.eq).mpr h⟩

theorem exists_dotted_splitAt_iff (hc : c.HoldsAtext) {v : Validator} :
    (∃ i, SplitAt v.policy text c i ∧ DotBetween text (i + 1) text.utf8ByteSize) ↔
      ∃ front back, IsBareAddress v.validateDomain text front back ∧ '.' ∈ back.toList := by
  constructor
  · rintro ⟨i, h, hdot⟩
    obtain ⟨front, back, htext, rfl⟩ := exists_append_of_splitAt hc h
    have h := (splitAt_iff hc htext).mp h
    exact ⟨front, back, h, h.dotBetween_iff.mp hdot⟩
  · rintro ⟨front, back, h, hdot⟩
    exact ⟨_, (splitAt_iff hc h.eq).mpr h, h.dotBetween_iff.mpr hdot⟩

/-! ### The two grammars -/

section Checks

variable (hplain : IsPlain text) {v : Validator} (hdepth : v.maxDepth = defaultMaxDepth)
  (hstart : v.startRule ≠ .addressList)
include hplain hdepth hstart

/-- **Plain addresses of the modern grammar.** -/
theorem validate_modern_iff (hkind : v.syntaxKind = .modern) :
    v.validate text = true ↔ ∃ front back, IsBareAddress v.validateDomain text front back := by
  rw [validate_iff_of_plain hplain hdepth, Validator.MatchesPlainly, hkind,
    ← exists_splitAt_iff Modern.holdsAtext_atomBytes, ← Modern.takes_addrSpec_iff hplain]
  cases hs : v.startRule with
  | address => exact matchesWhole_address.trans (Modern.takes_address_iff_addrSpec hplain)
  | addrSpec => exact matchesWhole_addrSpec
  | addressList => exact absurd hs hstart

/-- **Plain addresses of the legacy grammar.** -/
theorem validate_legacy_iff (hkind : v.syntaxKind = .legacy) :
    v.validate text = true ↔
      ∃ front back, IsBareAddress v.validateDomain text front back ∧ '.' ∈ back.toList := by
  rw [validate_iff_of_plain hplain hdepth, Validator.MatchesPlainly, hkind,
    ← exists_dotted_splitAt_iff Legacy.holdsAtext_atomBytes, ← Legacy.reads_addrSpec_iff hplain]
  cases hs : v.startRule with
  | address => exact (Legacy.matchesWhole_address_iff hplain).trans (Legacy.reads_address_iff hplain)
  | addrSpec => exact Legacy.matchesWhole_addrSpec_iff hplain
  | addressList => exact absurd hs hstart

end Checks

/-- **The language of plain addresses.** Of the texts of atom characters, dots and at signs, the
modern grammar accepts those that have one at sign, with runs of atom characters joined by single dots
on both sides of it, and a host name behind it if that is asked for. The legacy grammar accepts those
of them that have a dot behind the at sign, so without one there the grammars differ, and nowhere
else. It makes no difference whether an address is asked for or a bare address. -/
theorem plain_addresses (text : String) (checkDomain : Bool) (hplain : IsPlain text) :
    (isAddress text checkDomain = isAddrSpec text checkDomain ∧
      (isAddrSpec text checkDomain = true ↔
        ∃ localPart domain, IsBareAddress checkDomain text localPart domain)) ∧
    (isLegacyAddress text checkDomain = isLegacyAddrSpec text checkDomain ∧
      (isLegacyAddrSpec text checkDomain = true ↔
        ∃ localPart domain, IsBareAddress checkDomain text localPart domain ∧
          '.' ∈ domain.toList)) ∧
    (isAddress text checkDomain ≠ isLegacyAddress text checkDomain ↔
      ∃ localPart domain, IsBareAddress checkDomain text localPart domain ∧
        '.' ∉ domain.toList) := by
  have haddress : isAddress text checkDomain = true ↔ _ :=
    validate_modern_iff (v := { Validator.modern with validateDomain := checkDomain }) hplain rfl
      nofun rfl
  have haddrSpec : isAddrSpec text checkDomain = true ↔ _ :=
    validate_modern_iff
      (v := { Validator.modern.addrSpecOnly true with validateDomain := checkDomain }) hplain rfl
      nofun rfl
  have hlegacyAddress : isLegacyAddress text checkDomain = true ↔ _ :=
    validate_legacy_iff (v := { Validator.legacy with validateDomain := checkDomain }) hplain rfl
      nofun rfl
  have hlegacyAddrSpec : isLegacyAddrSpec text checkDomain = true ↔ _ :=
    validate_legacy_iff
      (v := { Validator.legacy.addrSpecOnly true with validateDomain := checkDomain }) hplain rfl
      nofun rfl
  refine ⟨⟨Bool.eq_iff_iff.mpr (haddress.trans haddrSpec.symm), haddrSpec⟩,
    ⟨Bool.eq_iff_iff.mpr (hlegacyAddress.trans hlegacyAddrSpec.symm), hlegacyAddrSpec⟩, ?_⟩
  rw [Ne, Bool.eq_iff_iff, haddress, hlegacyAddress]
  constructor
  · intro hdiffer
    by_contra hnone
    refine hdiffer ⟨fun ⟨front, back, h⟩ => ⟨front, back, h, ?_⟩, fun ⟨front, back, h, _⟩ =>
      ⟨front, back, h⟩⟩
    by_contra hdot
    exact hnone ⟨front, back, h, hdot⟩
  · rintro ⟨front, back, h, hdot⟩ hsame
    obtain ⟨front', back', h', hdot'⟩ := hsame.mp ⟨front, back, h⟩
    obtain ⟨-, rfl⟩ := h.unique h'
    exact hdot hdot'

/-- Two runs on both sides of an at sign, the right ones a host name, and one run on each side. -/
theorem plain_addresses_dots :
    (IsPlain "a.b@c.d" ∧ isLegacyAddrSpec "a.b@c.d" true = true) ∧
      IsPlain "a!@b" ∧ isAddress "a!@b" false ≠ isLegacyAddress "a!@b" false := by
  have hdotted : IsPlain "a.b@c.d" := by decide
  have hplain : IsPlain "a!@b" := by decide
  have hjoined : IsBareAddress true "a.b@c.d" "a.b" "c.d" :=
    ⟨rfl, by decide, ⟨["a", "b"], nofun, by decide, rfl⟩,
      ⟨["c", "d"], nofun, by decide, rfl⟩, fun _ => by decide⟩
  have hsingle : IsBareAddress false "a!@b" "a!" "b" :=
    ⟨rfl, by decide, ⟨["a!"], nofun, by decide, rfl⟩,
      ⟨["b"], nofun, by decide, rfl⟩, nofun⟩
  obtain ⟨-, ⟨-, hlegacy⟩, -⟩ := plain_addresses "a.b@c.d" true hdotted
  obtain ⟨-, -, hdiffer⟩ := plain_addresses "a!@b" false hplain
  exact ⟨⟨hdotted, hlegacy.mpr ⟨_, _, hjoined, by decide⟩⟩, hplain,
    hdiffer.mpr ⟨_, _, hsingle, by decide⟩⟩

end AddressGrammar.Validation
