import AddressGrammar.Proofs.Modern.Joining
import AddressGrammar.Proofs.Validation.Starts

/-!
# Lists joined by commas

Addresses that are joined by commas are a list of addresses, and some of them may be left out if
there is at least one comma. The list is read in its obsolete form here, which allows for both. Its
plain form is tried first, and either comes to the end of the input as well or is put back.

The obsolete form takes the gap behind a comma together with the comma, so an address in the list is
asked for behind the gap in front of it.

## Main definitions

* `ElementAt` — an element of the list is taken from a position on

## Main results

* `matches_intercalate` — the elements are taken one after the other, to the end of the list
* `admits_intercalate` — addresses joined by commas are admitted as a list
-/

namespace AddressGrammar.Modern

open Text Peg Peg.Expr

variable {policy : Option Policy} {s t input : String} {off p q x y : Nat}

/-! ### One element -/

theorem byteAt?_comma (before s behind : String) :
    byteAt? (before ++ (s ++ "," ++ behind)) (before.utf8ByteSize + s.utf8ByteSize) = some 44 := by
  have hplaced : Placed "," (before ++ (s ++ "," ++ behind)) (before ++ s).utf8ByteSize :=
    ⟨before ++ s, behind, by simp only [String.append_assoc], rfl⟩
  have hbyte := hplaced.byteAt?_eq (i := 0) (by decide)
  rw [String.utf8ByteSize_append] at hbyte
  exact hbyte.trans (by decide)

namespace Element

/-- The first of the texts that a list is joined from. -/
theorem of_intercalate (before s : String) (rest : List String) :
    Element s (before ++ ",".intercalate (s :: rest)) before.utf8ByteSize := by
  cases rest with
  | nil =>
    rw [String.intercalate_singleton]
    refine ⟨⟨before, "", by rw [String.append_empty], rfl⟩, .inl ?_⟩
    exact byteAt?_eq_none_iff.mpr (Nat.le_of_eq (String.utf8ByteSize_append ..))
  | cons u rest =>
    rw [String.intercalate_cons_cons]
    exact ⟨⟨before, "," ++ ",".intercalate (u :: rest), by simp only [String.append_assoc], rfl⟩,
      .inr (byteAt?_comma before s _)⟩

variable (h : Element s t off)
include h

/-- At the end of an element there is nothing but a comma. -/
theorem not_classAt_stop {c : ByteClass} (hc : c.contains 44 = false) :
    ¬classAt t c (off + s.utf8ByteSize) = true := by
  rw [h.classAt_eq hc (Nat.le_refl _)]
  exact fun hc => Nat.lt_irrefl _ (lt_of_classAt hc)

theorem gap_stop (policy : Option Policy) :
    Gap policy t (off + s.utf8ByteSize) (off + s.utf8ByteSize) := by
  obtain ⟨x, hx⟩ := Gap.exists_of_le policy h.size_le
  obtain rfl := hx.eq_of_not_starts (h.not_classAt_stop (by decide))
  exact hx

theorem not_address_stop (policy : Option Policy) :
    ¬Takes policy t .address (off + s.utf8ByteSize) q := by
  intro haddress
  obtain ⟨x, hx, hstart⟩ := opens_address _ _ haddress
  obtain rfl := hx.unique (h.gap_stop policy)
  exact h.not_classAt_stop (by decide) hstart

end Element

/-- The element is left out, or an address takes it from the position on. -/
def ElementAt (policy : Option Policy) (s t : String) (off x : Nat) : Prop :=
  s = "" ∧ x = off ∨ Takes policy t .address x (off + s.utf8ByteSize)

namespace Element

variable (h : Element s t off) (hs : s = "" ∨ Takes policy s .address 0 s.utf8ByteSize)
include h hs

theorem at_start : ElementAt policy s t off off := by
  rcases hs with rfl | hs
  · exact .inl ⟨rfl, rfl⟩
  · exact .inr (h.takes_address hs)

/-- Behind a comma, an element is taken from the end of the gap on. -/
theorem at_gap (hgap : Gap policy t off x) : ElementAt policy s t off x := by
  rcases hs with rfl | hs
  · exact .inl ⟨rfl, (hgap.unique (h.gap_stop policy)).symm⟩
  · have haddress : Takes policy t .address off (off + s.utf8ByteSize) := h.takes_address hs
    obtain ⟨y, hy, -, -, hshift, -⟩ := AddressPlace.shift (opens_address _ _ haddress)
    obtain rfl := hgap.unique hy
    exact .inr (hshift _ haddress)

end Element

/-! ### All of them -/

theorem opt_of_elementAt (h : Element s t off) (hx : ElementAt policy s t off x) :
    (opt (apply Rule.address)).Matches t ((grammar policy).Matches t) x true
      (off + s.utf8ByteSize) := by
  rcases hx with ⟨rfl, rfl⟩ | haddress
  · have hmiss := misses_of_not_takes h.size_le fun _ => h.not_address_stop policy
    exact .orElse_next (.attempt_miss (.apply hmiss)) .succeed
  · exact .orElse (.attempt (.apply haddress))

/-- An element and the comma behind it, with the gap there. -/
theorem sparseItem_of_elementAt (h : Element s t off) (hx : ElementAt policy s t off x)
    (hcomma : byteAt? t (off + s.utf8ByteSize) = some 44)
    (hgap : Gap policy t (off + s.utf8ByteSize + 1) y) :
    sparseItem.Matches t ((grammar policy).Matches t) x true y :=
  sparseItem_of_opt (opt_of_elementAt h hx) hcomma hgap

theorem ElementAt.le (hx : ElementAt policy s t off x) : x ≤ off + s.utf8ByteSize := by
  rcases hx with ⟨-, rfl⟩ | haddress
  · exact Nat.le_add_right _ _
  · exact haddress.le

/-- **The elements are taken one after the other**, to the end of the list. -/
theorem matches_intercalate {rest : List String} {before : String}
    (hl : ∀ a ∈ s :: rest, a = "" ∨ Takes policy a .address 0 a.utf8ByteSize)
    (ht : t = before ++ ",".intercalate (s :: rest))
    (hx : ElementAt policy s t before.utf8ByteSize x) :
    (chain [many sparseItem, opt (apply .address)]).Matches t ((grammar policy).Matches t) x true
      t.utf8ByteSize := by
  induction rest generalizing s before x with
  | nil =>
    have h : Element s t before.utf8ByteSize := ht ▸ .of_intercalate before s []
    have hsize : before.utf8ByteSize + s.utf8ByteSize = t.utf8ByteSize := by
      rw [ht, String.intercalate_singleton, String.utf8ByteSize_append]
    have hopt := opt_of_elementAt h hx
    have hgap := h.gap_stop policy
    rw [hsize] at hopt hgap
    have hend : byteAt? t t.utf8ByteSize ≠ some 44 := by
      rw [byteAt?_eq_none_iff.mpr (Nat.le_refl _)]
      nofun
    exact .andThen (.many_miss (.andThen hopt
      (.andThen hgap (.andThen_miss (misses_exactly.mpr ⟨hend, rfl⟩))))) hopt
  | cons u rest ih =>
    have h : Element s t before.utf8ByteSize := ht ▸ .of_intercalate before s (u :: rest)
    have hcomma : byteAt? t (before.utf8ByteSize + s.utf8ByteSize) = some 44 := by
      rw [ht, String.intercalate_cons_cons]
      exact byteAt?_comma before s _
    have ht' : t = before ++ s ++ "," ++ ",".intercalate (u :: rest) := by
      rw [ht, String.intercalate_cons_cons]
      simp only [String.append_assoc]
    have hsize : (before ++ s ++ ",").utf8ByteSize = before.utf8ByteSize + s.utf8ByteSize + 1 := by
      rw [String.utf8ByteSize_append, String.utf8ByteSize_append]
      rfl
    obtain ⟨y, hgap⟩ :=
      Gap.exists_of_le policy (Nat.succ_le_of_lt (lt_of_byteAt?_eq_some hcomma))
    have hgap' : Gap policy t (before ++ s ++ ",").utf8ByteSize y := by
      rw [hsize]
      exact hgap
    have hu : Element u t (before ++ s ++ ",").utf8ByteSize := ht' ▸ .of_intercalate _ u rest
    have hy := hu.at_gap (hl u (.tail _ List.mem_cons_self)) hgap'
    obtain ⟨i, hmany, hlast⟩ :=
      matches_andThen.mp (ih (fun a ha => hl a (List.mem_cons_of_mem _ ha)) ht' hy)
    have hpos : y ≠ x := by
      have hle := hx.le
      have hlt : before.utf8ByteSize + s.utf8ByteSize < y := hgap.le
      omega
    exact .andThen (.many_next (sparseItem_of_elementAt h hx hcomma hgap) hpos hmany) hlast

/-- **Two elements or more are an obsolete list.** -/
theorem obsAddrList_of_intercalate {u : String} {rest : List String}
    (hl : ∀ a ∈ s :: u :: rest, a = "" ∨ Takes policy a .address 0 a.utf8ByteSize)
    (ht : t = ",".intercalate (s :: u :: rest)) :
    Takes policy t .obsAddrList 0 t.utf8ByteSize := by
  have ht' : t = "" ++ ",".intercalate (s :: u :: rest) := by rw [ht, String.empty_append]
  have h : Element s t "".utf8ByteSize := ht' ▸ .of_intercalate "" s (u :: rest)
  have hx : ElementAt policy s t "".utf8ByteSize 0 := h.at_start (hl s List.mem_cons_self)
  have hcomma : byteAt? t ("".utf8ByteSize + s.utf8ByteSize) = some 44 := by
    rw [ht', String.intercalate_cons_cons]
    exact byteAt?_comma "" s _
  obtain ⟨y, hgap⟩ := Gap.exists_of_le policy (lt_of_byteAt?_eq_some hcomma)
  have hpos : y ≠ 0 := Nat.ne_of_gt (Nat.lt_of_lt_of_le (Nat.succ_pos _) hgap.le)
  have hfirst := sparseItem_of_elementAt h hx hcomma hgap
  obtain ⟨i, hmany, hlast⟩ := matches_andThen.mp (matches_intercalate hl ht' hx)
  have hrest := hfirst.many_rest Grammar.matches_unique hpos hmany
  exact Grammar.matches_body.mpr
    (.attempt (.andThen (matches_many1.mpr ⟨y, hfirst, hrest⟩) hlast))

end AddressGrammar.Modern

namespace AddressGrammar.Validation

open Peg Peg.Expr Modern

variable {policy : Option Policy} {input : String}

/-- A list that is taken in its obsolete form to the end of the input, even if the plain form ends
before it. -/
theorem matchesWhole_obsAddrList (h : Takes policy input .obsAddrList 0 input.utf8ByteSize) :
    (Modern.grammar policy).MatchesWhole StartRule.addressList.ruleName input := by
  refine (Grammar.matchesWhole_iff (ruleNamed?_startRule policy .addressList)).mpr
    (Grammar.matches_body.mpr ?_)
  obtain ⟨b, q, hplain⟩ :=
    exists_matches policy (Nat.zero_le input.utf8ByteSize) (seq [apply Rule.addressList, atEnd])
  cases b with
  | true =>
    obtain ⟨i, hlist, hend⟩ := matches_andThen.mp (matches_attempt.mp hplain)
    have hi := (matches_apply.mp hlist).le_size (Nat.zero_le _)
    obtain rfl : i = input.utf8ByteSize :=
      Nat.le_antisymm hi (Nat.le_of_not_lt fun hlt => not_matches_atEnd hlt hend)
    exact .orElse (matches_toEnd.mpr hlist)
  | false =>
    obtain ⟨rfl, -⟩ := misses_attempt.mp hplain
    exact .orElse_next hplain (matches_toEnd.mpr (.apply h))

/-- **Lists are closed under joining.** What a modern validator accepts as addresses it admits as a
list when they are joined by commas. Some or all of them may be left out, if there is a comma. -/
theorem admits_intercalate (v : Validator) (hv : v.syntaxKind = .modern) (l : List String)
    (hne : l ≠ []) (hone : l ≠ [""])
    (hl : ∀ a ∈ l, a = "" ∨ { v with startRule := .address }.validate a = true) :
    { v with startRule := .addressList }.Admits (",".intercalate l) := by
  obtain ⟨kind, start, hosts, depth⟩ := v
  obtain rfl : kind = .modern := hv
  refine Validator.admits_of_matchesPlainly ?_
  have htaken : ∀ a ∈ l, a = "" ∨
      Takes (Validator.policy ⟨.modern, start, hosts, depth⟩) a .address 0 a.utf8ByteSize := by
    intro a ha
    refine (hl a ha).imp_right fun h => ?_
    have haddress := Validator.matchesPlainly_of_validate h
    exact matchesWhole_address.mp haddress
  match l with
  | [] => exact absurd rfl hne
  | [a] =>
    have ha : a ≠ "" := fun ha => hone (ha ▸ rfl)
    have haddress := (htaken a List.mem_cons_self).resolve_left ha
    rw [String.intercalate_singleton]
    exact matchesWhole_addressList (addressList_of_address haddress)
  | a :: b :: rest => exact matchesWhole_obsAddrList (obsAddrList_of_intercalate htaken rfl)

/-- A group, nothing, and the group again. -/
theorem admits_intercalate_left_out :
    Validator.modern.validate "a:;" = true ∧
      { Validator.modern with startRule := .addressList }.Admits "a:;,,a:;" := by
  have hgroup : Validator.modern.validate "a:;" = true := by decide +kernel
  have hjoined : ",".intercalate ["a:;", "", "a:;"] = "a:;,,a:;" := by decide
  refine ⟨hgroup, hjoined ▸ admits_intercalate .modern rfl ["a:;", "", "a:;"] ?_ ?_ fun a ha => ?_⟩
  · nofun
  · nofun
  · rcases List.mem_cons.mp ha with rfl | ha
    · exact .inr hgroup
    · rcases List.mem_cons.mp ha with rfl | ha
      · exact .inl rfl
      · obtain rfl := List.mem_singleton.mp ha
        exact .inr hgroup

end AddressGrammar.Validation
