import AddressGrammar.Proofs.Modern.Domains
import AddressGrammar.Proofs.Modern.Lists

/-!
# Refusals in the modern grammar

A modern address that comes to a refused domain does not match in another way, since all that could
be tried instead expects other bytes: behind its first word, a bare address has a dot or an at sign,
where a name would end and a bracket or a colon would have to follow; a route begins with an at
sign, which no address does.

A list may match without the address that comes to the refusal. It then stops in front of that
address, or at the comma there, and neither is the end of a list. The obsolete form of a list, which
is tried where the plain form fails, is stopped by the same address: it asks for it behind the gap,
where it does the same.

All this needs a policy that is steady, and only where one form of a domain is refused and another
one is tried. A domain stands behind an at sign unless it is asked for on its own, so that is where
the policy has to be steady.

## Main definitions

* `NamePlace`, `SpecPlace`, `GroupPlace` — where the three forms of an address have begun
* `Stopped`, `Ends` — what is known of a rule that has come to a refusal

## Main results

* `ends_of_refuses` — a rule that comes to a refusal does not match, or stops in front of something
* `not_takes_all_of_refuses` — it does not take a whole input
-/

namespace AddressGrammar.Modern

open Text Peg Peg.Expr

variable {policy : Option Policy} {input : String} {p q i j : Nat} {b : Bool}

/-! ### Places -/

/-- A named address has begun: behind the name, if there is one, stands a bracket. -/
def NamePlace (policy : Option Policy) (input : String) (p : Nat) : Prop :=
  ∃ b i x, (grammar policy).Matches input .displayName p b i ∧ Gap policy input i x ∧
    byteAt? input x = some 60

/-- A bare address has begun: behind a word stands a dot or an at sign. -/
def SpecPlace (policy : Option Policy) (input : String) (p : Nat) : Prop :=
  ∃ i, Takes policy input .word p i ∧ classAt input dotOrAt i = true

/-- A group has begun: behind a name stands a colon. -/
def GroupPlace (policy : Option Policy) (input : String) (p : Nat) : Prop :=
  ∃ i, Takes policy input .displayName p i ∧ byteAt? input i = some 58

/-- The places exclude each other, since the first word of a bare address is all that could be a
name. -/
theorem SpecPlace.not_name (h : SpecPlace policy input p) : ¬NamePlace policy input p := by
  rintro ⟨b, i, x, hname, hgap, hx⟩
  obtain ⟨j, hword, hj⟩ := h
  obtain ⟨-, rfl⟩ := eq_of_displayName hword hj hname
  obtain rfl := hgap.eq_of_not_starts (not_classAt_of_disjoint (by decide) hj)
  exact byteAt?_ne_of_classAt hj (by decide) hx

theorem SpecPlace.not_group (h : SpecPlace policy input p) : ¬GroupPlace policy input p := by
  rintro ⟨i, hname, hi⟩
  obtain ⟨j, hword, hj⟩ := h
  obtain ⟨-, rfl⟩ := eq_of_displayName hword hj hname
  exact byteAt?_ne_of_classAt hj (by decide) hi

theorem NamePlace.not_group (h : NamePlace policy input p) : ¬GroupPlace policy input p := by
  rintro ⟨i, hname, hi⟩
  obtain ⟨b, j, x, hname', hgap, hx⟩ := h
  obtain ⟨-, rfl⟩ := hname.unique hname'
  have hcolon : classAt input (.single 58) j = true := classAt_single.mpr hi
  obtain rfl := hgap.eq_of_not_starts (not_classAt_of_disjoint (by decide) hcolon)
  cases hi.symm.trans hx

theorem NamePlace.address (h : NamePlace policy input p) : AddressPlace policy input p := by
  obtain ⟨b, i, x, hname, hgap, hx⟩ := h
  cases b with
  | true =>
    obtain ⟨y, hy, hstart⟩ := opens_displayName p i hname
    exact ⟨y, hy, classAt_mono (List.subset_cons_self _ _) hstart⟩
  | false =>
    obtain rfl := hname.eq_of_missed
    exact ⟨x, hgap, classAt_of_byteAt? hx (by decide)⟩

theorem SpecPlace.address (h : SpecPlace policy input p) : AddressPlace policy input p := by
  obtain ⟨i, hword, -⟩ := h
  obtain ⟨x, hx, hstart⟩ := opens_word p i hword
  exact ⟨x, hx, classAt_mono (List.subset_cons_self _ _) hstart⟩

theorem GroupPlace.address (h : GroupPlace policy input p) : AddressPlace policy input p := by
  obtain ⟨i, hname, -⟩ := h
  obtain ⟨x, hx, hstart⟩ := opens_displayName p i hname
  exact ⟨x, hx, classAt_mono (List.subset_cons_self _ _) hstart⟩

/-- What a list may stop at because of a refusal: a comma, or what an address or the gap in front of
it begins with. -/
def listStops : ByteClass := ⟨(44, 44) :: (gapStarts.intervals ++ addressStarts.intervals)⟩

/-- What a route may stop at because of a refusal. -/
def routeStops : ByteClass := ⟨(44, 44) :: (64, 64) :: gapStarts.intervals⟩

theorem listStops_of_starts (h : classAt input addressStarts p = true) :
    classAt input listStops p = true :=
  classAt_mono (fun _ hmem => .tail _ (List.mem_append_right _ hmem)) h

theorem AddressPlace.listStops (h : AddressPlace policy input p) :
    classAt input listStops p = true := by
  obtain ⟨x, hgap, hx⟩ := h
  rcases hgap.cases with rfl | hp
  · exact listStops_of_starts hx
  · exact classAt_mono (fun _ hmem => .tail _ (List.mem_append_left _ hmem)) hp

/-! ### What is known behind a refusal -/

/-- The rules that come to a domain. -/
def askers : Rule → Bool
  | .domain | .addrSpec | .obsDomainList | .obsRoute | .obsAngleAddr | .angleAddr | .nameAddr
  | .mailbox | .group | .address | .mailboxList | .addressList | .obsMboxList | .obsAddrList | .root
  | .onlyAddrSpec | .onlyAddressList => true
  | _ => false

/-- The grammar without a policy is the one with it, but for the checks. -/
theorem body_unchecked (policy : Policy) (r : Rule) :
    body none r = (body (some policy) r).unchecked := by
  cases r <;> rfl

theorem askers_of_asks {policy : Policy} (r : Rule)
    (h : (body (some policy) r).asks askers = true) : askers r = true := by
  revert h
  cases r <;> first
    | exact fun _ => rfl
    | exact nofun

/-- The rules that may match without what comes to a refusal. Whether a domain does depends on where
it stands. -/
def survives : Rule → Bool
  | .domain | .obsDomainList | .mailboxList | .addressList | .obsMboxList | .obsAddrList => true
  | _ => false

/-- What is known of the place of a rule that has come to a refusal. -/
def Stopped (policy : Option Policy) (input : String) (p : Nat) : Rule → Prop
  | .addrSpec => SpecPlace policy input p
  | .obsDomainList => byteAt? input p = some 64
  | .obsRoute => ∃ x, Gap policy input p x ∧ byteAt? input x = some 64
  | .angleAddr | .obsAngleAddr => ∃ x, Gap policy input p x ∧ byteAt? input x = some 60
  | .nameAddr => NamePlace policy input p
  | .mailbox => NamePlace policy input p ∨ SpecPlace policy input p
  | .group => GroupPlace policy input p
  | .address => AddressPlace policy input p
  | .addressList => ∀ q, Takes policy input .obsAddrList p q → classAt input listStops q = true
  | .domain | .mailboxList | .obsMboxList | .obsAddrList | .root | .onlyAddrSpec
  | .onlyAddressList => True
  | _ => False

/-- What a list does that has come to a refusal: it stops early, or an address has begun where it
begins. -/
def ListEnds (policy : Option Policy) (input : String) (p : Nat) (b : Bool) (q : Nat) : Prop :=
  if b then classAt input listStops q = true else AddressPlace policy input p

/-- What a rule does that has come to a refusal. -/
def Ends (policy : Option Policy) (input : String) (p : Nat) (b : Bool) (q : Nat) : Rule → Prop
  | .domain => DomainPlace input p → b = false
  | .obsDomainList => b = true → classAt input routeStops q = true
  | .mailboxList | .addressList | .obsMboxList | .obsAddrList => ListEnds policy input p b q
  | _ => b = false

theorem askers_of_stopped {r : Rule} (h : Stopped policy input p r) : askers r = true := by
  cases r <;> first
    | rfl
    | exact h.elim

theorem eq_false_of_ends {r : Rule} (hr : survives r = false) (h : Ends policy input p b q r) :
    b = false := by
  cases r <;> first
    | exact h
    | cases hr

/-- A rule that has come to a refusal does not take the rest of the input. -/
theorem Ends.lt {r : Rule} (h : Ends policy input p true q r) (hp : DomainPlace input p) :
    q < input.utf8ByteSize := by
  cases r with
  | domain => cases h hp
  | obsDomainList => exact lt_of_classAt (h rfl)
  | mailboxList | addressList | obsMboxList | obsAddrList => exact lt_of_classAt (c := listStops) h
  | _ => cases h

section Bodies

variable {asked : Policy} {refuses : Rule → Nat → Prop}

/-- All that is known of the rules inside that come to a refusal. -/
structure Known (asked : Policy) (input : String) (refuses : Rule → Nat → Prop) : Prop where
  stopped : ∀ {r p}, refuses r p → Stopped (some asked) input p r
  ends : ∀ {r p b q}, refuses r p → (grammar (some asked)).Matches input r p b q →
    Ends (some asked) input p b q r

namespace Known

variable (hk : Known asked input refuses)
include hk

theorem asks (r : Rule) (p : Nat) (h : refuses r p) : askers r = true :=
  askers_of_stopped (hk.stopped h)

theorem not_takes {r : Rule} (h : refuses r p) (hr : survives r = false) :
    ¬Takes (some asked) input r p q := fun hm => by
  cases eq_false_of_ends hr (hk.ends h hm)

theorem fatal_rule (r : Rule) (hr : survives r = false) :
    (apply r).Fatal input ((grammar (some asked)).Matches input) refuses :=
  fatal_apply fun _ _ h => hk.not_takes h hr

/-- Parts that come to no domain. -/
theorem fatal_free {e : Expr Rule} (he : e.asks askers = false) :
    e.Fatal input ((grammar (some asked)).Matches input) refuses := fatal_of_asks hk.asks he

theorem not_refuses {e : Expr Rule} (he : e.asks askers = false) :
    ¬e.Refuses input ((grammar (some asked)).Matches input) refuses p := fun h => by
  cases he.symm.trans (h.asks hk.asks)

/-! #### Bare addresses and routes -/

theorem not_takes_domain (h : refuses .domain p) (hp : DomainPlace input p) :
    ¬Takes (some asked) input .domain p q := fun hm => by
  cases hk.ends h hm hp

/-- A domain behind an at sign. -/
theorem fatal_atDomain : (chain [token '@', apply Rule.domain]).Fatal input
    ((grammar (some asked)).Matches input) refuses := by
  intro p q hr hm
  obtain ⟨i, hat, hr⟩ := hr.behind hk.asks rfl
  obtain ⟨i', hat', hm⟩ := matches_andThen.mp hm
  obtain ⟨-, rfl⟩ := hat.unique Grammar.matches_unique hat'
  obtain ⟨hbyte, rfl⟩ := matches_exactly.mp hat
  exact hk.not_takes_domain (refuses_apply.mp hr) (.inr ⟨p, rfl, hbyte⟩) (matches_apply.mp hm)

theorem fatal_addrSpec : (body (some asked) .addrSpec).Fatal input
    ((grammar (some asked)).Matches input) refuses :=
  fatal_attempt (fatal_andThen Grammar.matches_unique (hk.fatal_free rfl) hk.fatal_atDomain)

theorem specPlace (h : (body (some asked) .addrSpec).Refuses input
    ((grammar (some asked)).Matches input) refuses p) : SpecPlace (some asked) input p := by
  obtain ⟨i, hlocal, h⟩ := (refuses_attempt.mp h).behind hk.asks rfl
  obtain ⟨j, hat, -⟩ := h.behind hk.asks rfl
  exact word_of_localPart (matches_apply.mp hlocal) (matches_exactly.mp hat).1

/-- A further part of a route. -/
theorem fatal_routePart :
    (chain [many (alt [apply Rule.cfws, token ',']), optCfws, token '@', apply .domain]).Fatal input
      ((grammar (some asked)).Matches input) refuses :=
  fatal_andThen Grammar.matches_unique (hk.fatal_free rfl)
    (fatal_andThen Grammar.matches_unique (hk.fatal_free rfl) hk.fatal_atDomain)

theorem routeStops_of_routePart
    (h : (chain [many (alt [apply Rule.cfws, token ',']), optCfws, token '@',
      apply .domain]).Refuses input ((grammar (some asked)).Matches input) refuses p) :
    classAt input routeStops p = true := by
  have hgap : ∀ {i}, classAt input gapStarts i = true → classAt input routeStops i = true :=
    fun h => classAt_mono (fun _ hmem => .tail _ (.tail _ hmem)) h
  obtain ⟨i, hmany, h⟩ := h.behind hk.asks rfl
  obtain ⟨j, hcfws, h⟩ := h.behind hk.asks rfl
  obtain ⟨k, hat, -⟩ := h.behind hk.asks rfl
  cases hmany with
  | many_miss | many_still =>
    rcases Gap.cases hcfws with rfl | hp
    · exact classAt_of_byteAt? (matches_exactly.mp hat).1 (by decide)
    · exact hgap hp
  | many_next hpart =>
    rcases matches_orElse.mp hpart with hcfws | ⟨l, hl, hcomma⟩
    · exact hgap (gapStarts_of_cfws (matches_apply.mp hcfws))
    · obtain rfl := (matches_apply.mp hl).eq_of_missed
      exact classAt_of_byteAt? (matches_exactly.mp hcomma).1 (by decide)

/-- A list of domains stops in front of a refused one, unless it is the first. -/
theorem routeStops_of_domains (hr : (body (some asked) .obsDomainList).Refuses input
      ((grammar (some asked)).Matches input) refuses p)
    (hm : (body (some asked) .obsDomainList).Matches input ((grammar (some asked)).Matches input) p
      true q) : classAt input routeStops q = true := by
  obtain ⟨i, hat, hm⟩ := matches_andThen.mp (matches_attempt.mp hm)
  obtain ⟨j, hdomain, hmany⟩ := matches_andThen.mp hm
  obtain ⟨i', hat', hr⟩ := (refuses_attempt.mp hr).behind hk.asks rfl
  obtain ⟨-, rfl⟩ := hat.unique Grammar.matches_unique hat'
  obtain ⟨hbyte, rfl⟩ := matches_exactly.mp hat
  rcases refuses_andThen.mp hr with hr | ⟨j', hdomain', hr⟩
  · exact absurd (matches_apply.mp hdomain)
      (hk.not_takes_domain (refuses_apply.mp hr) (.inr ⟨p, rfl, hbyte⟩))
  · obtain ⟨-, rfl⟩ := hdomain.unique Grammar.matches_unique hdomain'
    exact hk.routeStops_of_routePart
      (refuses_of_many Grammar.matches_unique hk.fatal_routePart hmany hr)

theorem fatal_obsRoute : (body (some asked) .obsRoute).Fatal input
    ((grammar (some asked)).Matches input) refuses := by
  refine fatal_attempt (fatal_andThen Grammar.matches_unique (hk.fatal_free rfl)
    (fatal_andThen_of Grammar.matches_unique (fun p i q hr hm hrest => ?_) (hk.fatal_free rfl)))
  have hstop : classAt input routeStops i = true :=
    hk.ends (refuses_apply.mp hr) (matches_apply.mp hm) rfl
  obtain ⟨j, hcolon, -⟩ := matches_andThen.mp hrest
  exact byteAt?_ne_of_classAt hstop (by decide) (matches_exactly.mp hcolon).1

/-! #### Addresses in angle brackets -/

/-- Behind the bracket of an address with a route. -/
theorem fatal_routed :
    (chain [opt (apply Rule.obsRoute), apply .addrSpec, token '>', optCfws]).Fatal input
      ((grammar (some asked)).Matches input) refuses := by
  refine fatal_andThen_of Grammar.matches_unique (fun p i q hr hm hrest => ?_)
    (fatal_andThen Grammar.matches_unique (hk.fatal_rule _ rfl) (hk.fatal_free rfl))
  have hroute : refuses .obsRoute p := refuses_apply.mp (refuses_opt.mp hr)
  obtain ⟨x, hx, hat⟩ := hk.stopped hroute
  rcases matches_opt.mp hm with hm | ⟨rfl, -⟩
  · exact hk.not_takes hroute rfl (matches_apply.mp hm)
  · obtain ⟨j, hspec, -⟩ := matches_andThen.mp hrest
    have hbody := Grammar.matches_body.mp (matches_apply.mp hspec)
    obtain ⟨k, hlocal, -⟩ := matches_andThen.mp (matches_attempt.mp hbody)
    obtain ⟨y, hy, hstart⟩ := opens_localPart _ k (matches_apply.mp hlocal)
    obtain rfl := hx.unique hy
    exact byteAt?_ne_of_classAt hstart (by decide) hat

theorem fatal_obsAngleAddr : (body (some asked) .obsAngleAddr).Fatal input
    ((grammar (some asked)).Matches input) refuses :=
  fatal_attempt (fatal_andThen Grammar.matches_unique (hk.fatal_free rfl)
    (fatal_andThen Grammar.matches_unique (hk.fatal_free rfl) hk.fatal_routed))

/-- Where a bare address has begun behind the bracket, there is no route. -/
theorem fatal_angleAddr : (body (some asked) .angleAddr).Fatal input
    ((grammar (some asked)).Matches input) refuses := by
  refine fatal_orElse Grammar.matches_unique
    (fatal_attempt (fatal_andThen Grammar.matches_unique (hk.fatal_free rfl)
      (fatal_andThen Grammar.matches_unique (hk.fatal_free rfl)
        (fatal_andThen Grammar.matches_unique (hk.fatal_rule _ rfl) (hk.fatal_free rfl)))))
    (hk.fatal_rule _ rfl) fun p i q hr hi hm => ?_
  obtain ⟨rfl, -⟩ := misses_attempt.mp hi
  obtain ⟨j, hgap, hr⟩ := (refuses_attempt.mp hr).behind hk.asks rfl
  obtain ⟨k, hopen, hr⟩ := hr.behind hk.asks rfl
  have hspec : refuses .addrSpec k := refuses_apply.mp (hr.front hk.asks rfl)
  have hbody := Grammar.matches_body.mp (matches_apply.mp hm)
  obtain ⟨j', hgap', hm⟩ := matches_andThen.mp (matches_attempt.mp hbody)
  obtain rfl := Gap.unique hgap hgap'
  obtain ⟨k', hopen', hm⟩ := matches_andThen.mp hm
  obtain ⟨-, rfl⟩ := hopen.unique Grammar.matches_unique hopen'
  obtain ⟨l, hroute, hrest⟩ := matches_andThen.mp hm
  rcases matches_opt.mp hroute with hroute | ⟨rfl, -⟩
  · have hplace : SpecPlace (some asked) input k' := hk.stopped hspec
    obtain ⟨m, hword, -⟩ := hplace
    exact opens_word.not_both opens_obsRoute (by decide) hword (matches_apply.mp hroute)
  · obtain ⟨m, hm, -⟩ := matches_andThen.mp hrest
    exact hk.not_takes hspec rfl (matches_apply.mp hm)

/-! #### Addresses -/

theorem namePlace (h : (body (some asked) .nameAddr).Refuses input
    ((grammar (some asked)).Matches input) refuses p) : NamePlace (some asked) input p := by
  obtain ⟨i, hname, h⟩ := (refuses_attempt.mp h).behind hk.asks rfl
  obtain ⟨x, hx, hopen⟩ := hk.stopped (refuses_apply.mp h)
  rcases matches_opt.mp hname with hname | ⟨rfl, j, hname⟩
  · exact ⟨true, i, x, matches_apply.mp hname, hx, hopen⟩
  · obtain rfl := (matches_apply.mp hname).eq_of_missed
    exact ⟨false, _, x, matches_apply.mp hname, hx, hopen⟩

theorem fatal_nameAddr : (body (some asked) .nameAddr).Fatal input
    ((grammar (some asked)).Matches input) refuses :=
  fatal_attempt (fatal_andThen Grammar.matches_unique (hk.fatal_free rfl) (hk.fatal_rule _ rfl))

/-- A named address is no bare one. -/
theorem fatal_mailbox : (body (some asked) .mailbox).Fatal input
    ((grammar (some asked)).Matches input) refuses := by
  refine fatal_orElse Grammar.matches_unique (hk.fatal_rule _ rfl) (hk.fatal_rule _ rfl)
    fun p i q hr hi hm => ?_
  obtain rfl := (matches_apply.mp hi).eq_of_missed
  have hbody := Grammar.matches_body.mp (matches_apply.mp hm)
  obtain ⟨j, hlocal, hm⟩ := matches_andThen.mp (matches_attempt.mp hbody)
  obtain ⟨k, hat, -⟩ := matches_andThen.mp hm
  have hplace : SpecPlace (some asked) input i :=
    word_of_localPart (matches_apply.mp hlocal) (matches_exactly.mp hat).1
  exact hplace.not_name (hk.stopped (refuses_apply.mp hr))

theorem groupPlace (h : (body (some asked) .group).Refuses input
    ((grammar (some asked)).Matches input) refuses p) : GroupPlace (some asked) input p := by
  obtain ⟨i, hname, h⟩ := (refuses_attempt.mp h).behind hk.asks rfl
  obtain ⟨j, hcolon, -⟩ := h.behind hk.asks rfl
  exact ⟨i, matches_apply.mp hname, (matches_exactly.mp hcolon).1⟩

/-- A mailbox is no group. -/
theorem fatal_address : (body (some asked) .address).Fatal input
    ((grammar (some asked)).Matches input) refuses := by
  refine fatal_orElse Grammar.matches_unique (hk.fatal_rule _ rfl) (hk.fatal_rule _ rfl)
    fun p i q hr hi hm => ?_
  obtain rfl := (matches_apply.mp hi).eq_of_missed
  have hbody := Grammar.matches_body.mp (matches_apply.mp hm)
  obtain ⟨j, hname, hm⟩ := matches_andThen.mp (matches_attempt.mp hbody)
  obtain ⟨k, hcolon, -⟩ := matches_andThen.mp hm
  have hplace : GroupPlace (some asked) input i :=
    ⟨j, matches_apply.mp hname, (matches_exactly.mp hcolon).1⟩
  rcases hk.stopped (refuses_apply.mp hr) with hname | hspec
  · exact hname.not_group hplace
  · exact hspec.not_group hplace

theorem mailbox_place (h : refuses .mailbox p) : AddressPlace (some asked) input p := by
  rcases hk.stopped h with hname | hspec
  · exact hname.address
  · exact hspec.address

theorem addressPlace (h : (body (some asked) .address).Refuses input
    ((grammar (some asked)).Matches input) refuses p) : AddressPlace (some asked) input p := by
  rcases refuses_orElse.mp h with hmailbox | ⟨i, hi, hgroup⟩
  · exact hk.mailbox_place (refuses_apply.mp hmailbox)
  · obtain rfl := (matches_apply.mp hi).eq_of_missed
    exact GroupPlace.address (hk.stopped (refuses_apply.mp hgroup))

/-! #### Lists -/

/-- What an element of an obsolete list that comes to a refusal stops at. -/
theorem address_of_sparseItem
    (h : sparseItem.Refuses input ((grammar (some asked)).Matches input) refuses p) :
    AddressPlace (some asked) input p ∧ ∀ q, ¬Takes (some asked) input .address p q := by
  have haddress : refuses .address p := refuses_apply.mp (refuses_opt.mp (h.front hk.asks rfl))
  exact ⟨hk.stopped haddress, fun q => hk.not_takes haddress rfl⟩

theorem fatal_sparseItem :
    sparseItem.Fatal input ((grammar (some asked)).Matches input) refuses := by
  intro p q hr
  obtain ⟨hplace, hdead⟩ := hk.address_of_sparseItem hr
  exact not_sparseItem hplace hdead

/-- An obsolete list stops in front of the address that comes to a refusal. -/
theorem ends_sparseList
    (hr : sparseList.Refuses input ((grammar (some asked)).Matches input) refuses p)
    (hm : sparseList.Matches input ((grammar (some asked)).Matches input) p b q) :
    ListEnds (some asked) input p b q := by
  have hr := refuses_andThen.mp (refuses_attempt.mp hr)
  cases b with
  | false =>
    have hfirst := fun i => not_sparseItem_of_missed (i := i) hm
    rcases hr with hr | ⟨i, hi, -⟩
    · rcases refuses_andThen.mp hr with hr | ⟨i, hi, -⟩
      · exact (hk.address_of_sparseItem (refuses_attempt.mp hr)).1
      · exact absurd (matches_attempt.mp hi) (hfirst i)
    · obtain ⟨j, hj, -⟩ := matches_many1.mp hi
      exact absurd hj (hfirst j)
  | true =>
    obtain ⟨i, hmany, hlast⟩ := matches_andThen.mp (matches_attempt.mp hm)
    have hstuck : AddressPlace (some asked) input i ∧
        ∀ q, ¬Takes (some asked) input .address i q := by
      rcases hr with hr | ⟨i', hi', hr⟩
      · obtain ⟨j, hfirst, hrest⟩ := matches_many1.mp hmany
        rcases refuses_andThen.mp hr with hr | ⟨j', hj', hr⟩
        · exact absurd hfirst (hk.fatal_sparseItem p j (refuses_attempt.mp hr))
        · obtain ⟨-, rfl⟩ := hfirst.unique Grammar.matches_unique (matches_attempt.mp hj')
          exact hk.address_of_sparseItem
            (refuses_of_many Grammar.matches_unique hk.fatal_sparseItem hrest hr)
      · obtain ⟨-, rfl⟩ := hmany.unique Grammar.matches_unique hi'
        have haddress := refuses_apply.mp (refuses_opt.mp hr)
        exact ⟨hk.stopped haddress, fun q => hk.not_takes haddress rfl⟩
    rcases matches_opt.mp hlast with hlast | ⟨rfl, -⟩
    · exact absurd (matches_apply.mp hlast) (hstuck.2 q)
    · exact hstuck.1.listStops

/-- Where a mailbox or an address comes to a refusal, an address has begun and does not match. -/
theorem address_of_element {r : Rule} (hr : r = .mailbox ∨ r = .address) (h : refuses r p) :
    AddressPlace (some asked) input p ∧ (∀ q, ¬Takes (some asked) input r p q) ∧
      ∀ q, ¬Takes (some asked) input .address p q := by
  rcases hr with rfl | rfl
  · exact ⟨hk.mailbox_place h, fun q => hk.not_takes h rfl, fun q hm =>
      hk.fatal_address p q (.orElse (.apply h)) (Grammar.matches_body.mp hm)⟩
  · exact ⟨hk.stopped h, fun q => hk.not_takes h rfl, fun q => hk.not_takes h rfl⟩

/-- A further element of a plain list. -/
theorem fatal_plainItem {r : Rule} (hr : r = .mailbox ∨ r = .address) :
    (chain [token ',', apply r]).Fatal input ((grammar (some asked)).Matches input) refuses := by
  refine fatal_andThen Grammar.matches_unique (hk.fatal_free rfl) (hk.fatal_rule r ?_)
  rcases hr with rfl | rfl <;> rfl

theorem stop_of_plainItem {r : Rule} (hr : r = .mailbox ∨ r = .address)
    (h : (chain [token ',', apply r]).Refuses input ((grammar (some asked)).Matches input)
      refuses p) :
    byteAt? input p = some 44 ∧ AddressPlace (some asked) input (p + 1) ∧
      ∀ q, ¬Takes (some asked) input .address (p + 1) q := by
  obtain ⟨i, hcomma, h⟩ := h.behind hk.asks rfl
  obtain ⟨hb, rfl⟩ := matches_exactly.mp hcomma
  obtain ⟨hplace, -, hdead⟩ := hk.address_of_element hr (refuses_apply.mp h)
  exact ⟨hb, hplace, hdead⟩

/-- A list in its plain form, or else in its obsolete form `s`. -/
theorem ends_list {r s : Rule} (hr : r = .mailbox ∨ r = .address)
    (hs : (grammar (some asked)).body s = sparseList)
    (hends : ∀ {p b q}, refuses s p → (grammar (some asked)).Matches input s p b q →
      ListEnds (some asked) input p b q)
    (h : (alt [seq [apply r, many (chain [token ',', apply r])], apply s]).Refuses input
      ((grammar (some asked)).Matches input) refuses p)
    (hm : (alt [seq [apply r, many (chain [token ',', apply r])], apply s]).Matches input
      ((grammar (some asked)).Matches input) p b q) : ListEnds (some asked) input p b q := by
  rcases refuses_orElse.mp h with hplain | ⟨i, hi, hobs⟩
  · rcases refuses_andThen.mp (refuses_attempt.mp hplain) with hfirst | ⟨i, hi, hloop⟩
    · -- The first element does not match, so the obsolete form decides.
      obtain ⟨hplace, hdead, hdead'⟩ := hk.address_of_element hr (refuses_apply.mp hfirst)
      cases b with
      | false => exact hplace
      | true =>
        rcases matches_orElse.mp hm with hplain | ⟨i, hi, hsparse⟩
        · obtain ⟨j, hj, -⟩ := matches_andThen.mp (matches_attempt.mp hplain)
          exact absurd (matches_apply.mp hj) (hdead j)
        · obtain ⟨rfl, -⟩ := misses_attempt.mp hi
          have hsparse := Grammar.matches_body.mp (matches_apply.mp hsparse)
          rw [hs] at hsparse
          exact absurd hsparse (not_sparseList hplace hdead')
    · -- The plain form ends at the comma in front of the refused element.
      cases hm with
      | orElse hm =>
        obtain ⟨j, hj, hmany⟩ := matches_andThen.mp (matches_attempt.mp hm)
        obtain ⟨-, rfl⟩ := hi.unique Grammar.matches_unique hj
        have hstop := refuses_of_many Grammar.matches_unique (hk.fatal_plainItem hr) hmany hloop
        exact classAt_of_byteAt? (hk.stop_of_plainItem hr hstop).1 (by decide)
      | orElse_next hmiss =>
        obtain ⟨-, j, hmiss⟩ := misses_attempt.mp hmiss
        rcases misses_andThen.mp hmiss with hj | ⟨k, -, hmany⟩
        · cases (hi.unique Grammar.matches_unique hj).1
        · cases hmany.many_matched
  · obtain ⟨rfl, -⟩ := misses_attempt.mp hi
    cases hm with
    | orElse hplain => cases (hi.unique Grammar.matches_unique hplain).1
    | orElse_next hmiss hsparse =>
      obtain ⟨rfl, -⟩ := misses_attempt.mp hmiss
      exact hends (refuses_apply.mp hobs) (matches_apply.mp hsparse)

/-- Where an obsolete list matches although the plain one has come to a refusal, it stops early
too. -/
theorem stopped_addressList (h : (body (some asked) .addressList).Refuses input
    ((grammar (some asked)).Matches input) refuses p)
    (hm : Takes (some asked) input .obsAddrList p q) : classAt input listStops q = true := by
  have hsparse := Grammar.matches_body.mp hm
  rcases refuses_orElse.mp h with hplain | ⟨i, hi, hobs⟩
  · rcases refuses_andThen.mp (refuses_attempt.mp hplain) with hfirst | ⟨i, hi, hloop⟩
    · obtain ⟨hplace, hdead, -⟩ := hk.address_of_element (.inr rfl) (refuses_apply.mp hfirst)
      exact absurd hsparse (not_sparseList hplace hdead)
    · have hfirst := matches_apply.mp hi
      have hle := hfirst.le_size (AddressPlace.le_size (opens_address p i hfirst))
      obtain ⟨b, z, hmany⟩ :=
        exists_matches (some asked) hle (many (chain [token ',', apply .address]))
      obtain rfl := hmany.many_matched
      have hstop :=
        refuses_of_many Grammar.matches_unique (hk.fatal_plainItem (.inr rfl)) hmany hloop
      obtain ⟨hz, hplace, hdead⟩ := hk.stop_of_plainItem (.inr rfl) hstop
      obtain ⟨u, hmany1, hlast⟩ := matches_andThen.mp (matches_attempt.mp hsparse)
      obtain ⟨hplace', hdead'⟩ :=
        stuck_of_plainList hfirst hmany hz hplace hdead (many_of_many1 hmany1)
      rcases matches_opt.mp hlast with hlast | ⟨rfl, -⟩
      · exact absurd (matches_apply.mp hlast) (hdead' q)
      · exact hplace'.listStops
  · obtain ⟨rfl, -⟩ := misses_attempt.mp hi
    exact hk.ends (refuses_apply.mp hobs) hm

/-- A list of mailboxes that stops early is not the end of a group. -/
theorem fatal_group : (body (some asked) .group).Fatal input
    ((grammar (some asked)).Matches input) refuses := by
  refine fatal_attempt (fatal_andThen Grammar.matches_unique (hk.fatal_free rfl)
    (fatal_andThen Grammar.matches_unique (hk.fatal_free rfl)
      (fatal_andThen_of Grammar.matches_unique (fun p i q hr hm hrest => ?_) (hk.fatal_free rfl))))
  obtain ⟨j, hend, -⟩ := matches_andThen.mp hrest
  have hend : byteAt? input i = some 59 := (matches_exactly.mp hend).1
  have hlist : refuses .mailboxList p := by
    rcases refuses_orElse.mp (refuses_opt.mp hr) with hr | ⟨j, -, hr⟩
    · exact refuses_apply.mp hr
    · exact absurd hr (hk.not_refuses rfl)
  -- Where the list does not match, an address has begun behind the gap, and no group ends there.
  have hno : ∀ {b}, (apply Rule.mailboxList).Matches input ((grammar (some asked)).Matches input) p
      false b → ¬Gap (some asked) input p i := fun hmiss hgap =>
    AddressPlace.not_byte (hk.ends hlist (matches_apply.mp hmiss)) hgap (by decide) hend
  rcases matches_opt.mp hm with hpart | ⟨rfl, j, hpart⟩
  · rcases matches_orElse.mp hpart with htaken | ⟨k, hmiss, hcfws⟩
    · have hstop : classAt input listStops i = true := hk.ends hlist (matches_apply.mp htaken)
      exact byteAt?_ne_of_classAt hstop (by decide) hend
    · obtain rfl := (matches_apply.mp hmiss).eq_of_missed
      exact hno hmiss (.orElse (.attempt hcfws))
  · obtain ⟨k, hmiss, hcfws⟩ := misses_orElse.mp hpart
    obtain rfl := (matches_apply.mp hmiss).eq_of_missed
    exact hno hmiss (.orElse_next (.attempt_miss hcfws) .succeed)

/-! #### Whole inputs -/

/-- A list that stops early does not take the rest of the input. -/
theorem fatal_listToEnd {r : Rule} (hr : ∀ {p q}, refuses r p → Takes (some asked) input r p q →
    classAt input listStops q = true) :
    (seq [apply r, atEnd]).Fatal input ((grammar (some asked)).Matches input) refuses := by
  refine fatal_attempt (fatal_andThen_of Grammar.matches_unique (fun p i q hr' hm hend => ?_)
    (hk.fatal_free rfl))
  exact not_matches_atEnd (lt_of_classAt (hr (refuses_apply.mp hr') (matches_apply.mp hm))) hend

theorem fatal_onlyAddressList : (body (some asked) .onlyAddressList).Fatal input
    ((grammar (some asked)).Matches input) refuses := by
  refine fatal_orElse Grammar.matches_unique (hk.fatal_listToEnd fun h hm => hk.ends h hm)
    (hk.fatal_listToEnd fun h hm => hk.ends h hm) fun p i q hr hi hm => ?_
  obtain ⟨rfl, -⟩ := misses_attempt.mp hi
  have hlist : refuses .addressList i :=
    refuses_apply.mp ((refuses_attempt.mp hr).front hk.asks rfl)
  obtain ⟨j, hobs, hend⟩ := matches_andThen.mp (matches_attempt.mp hm)
  exact not_matches_atEnd (lt_of_classAt (hk.stopped hlist j (matches_apply.mp hobs))) hend

/-! #### Bodies -/

/-- A part that asks for a gap and then for a fixed byte. -/
theorem gap_of_refuses {a : UInt8} {e : Expr Rule}
    (h : (andThen optCfws (andThen (exactly a) e)).Refuses input
      ((grammar (some asked)).Matches input) refuses p) :
    ∃ x, Gap (some asked) input p x ∧ byteAt? input x = some a := by
  obtain ⟨x, hgap, h⟩ := h.behind hk.asks rfl
  obtain ⟨i, hbyte, -⟩ := h.behind hk.asks rfl
  exact ⟨x, hgap, (matches_exactly.mp hbyte).1⟩

/-- **What is known of a rule is known because of its body.** -/
theorem stopped_of_body {r : Rule} (h : (body (some asked) r).Refuses input
    ((grammar (some asked)).Matches input) refuses p) : Stopped (some asked) input p r := by
  cases r with
  | addrSpec => exact hk.specPlace h
  | obsDomainList =>
    obtain ⟨i, hat, -⟩ := (refuses_attempt.mp h).behind hk.asks rfl
    exact (matches_exactly.mp hat).1
  | obsRoute =>
    obtain ⟨x, hgap, h⟩ := (refuses_attempt.mp h).behind hk.asks rfl
    exact ⟨x, hgap, hk.stopped (refuses_apply.mp (h.front hk.asks rfl))⟩
  | obsAngleAddr => exact hk.gap_of_refuses (refuses_attempt.mp h)
  | angleAddr =>
    rcases refuses_orElse.mp h with hplain | ⟨i, hi, hobs⟩
    · exact hk.gap_of_refuses (refuses_attempt.mp hplain)
    · obtain ⟨rfl, -⟩ := misses_attempt.mp hi
      exact hk.stopped (r := .obsAngleAddr) (refuses_apply.mp hobs)
  | nameAddr => exact hk.namePlace h
  | mailbox =>
    rcases refuses_orElse.mp h with hname | ⟨i, hi, hspec⟩
    · exact .inl (hk.stopped (refuses_apply.mp hname))
    · obtain rfl := (matches_apply.mp hi).eq_of_missed
      exact .inr (hk.stopped (refuses_apply.mp hspec))
  | group => exact hk.groupPlace h
  | address => exact hk.addressPlace h
  | addressList => exact fun q hm => hk.stopped_addressList h hm
  | domain | mailboxList | obsMboxList | obsAddrList | root | onlyAddrSpec | onlyAddressList =>
    trivial
  | _ => exact absurd h (hk.not_refuses rfl)

/-- **A refusal inside a body is fatal for it**, unless the rule is a domain or a list. -/
theorem fatal_body {r : Rule} (hr : survives r = false) :
    (body (some asked) r).Fatal input ((grammar (some asked)).Matches input) refuses := by
  cases r with
  | addrSpec => exact hk.fatal_addrSpec
  | obsRoute => exact hk.fatal_obsRoute
  | obsAngleAddr => exact hk.fatal_obsAngleAddr
  | angleAddr => exact hk.fatal_angleAddr
  | nameAddr => exact hk.fatal_nameAddr
  | mailbox => exact hk.fatal_mailbox
  | group => exact hk.fatal_group
  | address => exact hk.fatal_address
  | onlyAddressList => exact hk.fatal_onlyAddressList
  | root | onlyAddrSpec =>
    exact fatal_attempt
      (fatal_andThen Grammar.matches_unique (hk.fatal_rule _ rfl) (hk.fatal_free rfl))
  | domain | obsDomainList | mailboxList | addressList | obsMboxList | obsAddrList => cases hr
  | _ => exact hk.fatal_free rfl

/-- **What a rule does is what its body does.** -/
theorem ends_of_body (hasked : Steady asked input) {r : Rule}
    (h : (body (some asked) r).Refuses input ((grammar (some asked)).Matches input) refuses p)
    (hm : (grammar (some asked)).Matches input r p b q) : Ends (some asked) input p b q r := by
  obtain ⟨i, hbody, hq⟩ := Grammar.matches_iff.mp hm
  have hlist : ListEnds (some asked) input p b i → ListEnds (some asked) input p b q := by
    subst hq
    cases b <;> exact id
  have hfatal : survives r = false → b = false := by
    intro hr
    cases b with
    | true => exact absurd hbody (hk.fatal_body hr p i h)
    | false => rfl
  cases r with
  | domain =>
    intro hplace
    cases b with
    | true =>
      refine absurd hbody (not_takes_refused hasked hplace ?_ h)
      rintro r (rfl | rfl | rfl) p h
      · exact hk.stopped h
      · exact hk.stopped h
      · exact hk.stopped h
    | false => rfl
  | obsDomainList =>
    rintro rfl
    exact hk.routeStops_of_domains h (Grammar.matches_body.mp hm)
  | obsMboxList | obsAddrList => exact hlist (hk.ends_sparseList h hbody)
  | mailboxList =>
    exact hlist (hk.ends_list (.inl rfl) rfl (fun h hm => hk.ends (r := .obsMboxList) h hm) h hbody)
  | addressList =>
    exact hlist (hk.ends_list (.inr rfl) rfl (fun h hm => hk.ends (r := .obsAddrList) h hm) h hbody)
  | _ => exact hfatal rfl

end Known

end Bodies

/-- **A rule that comes to a refusal does not match, or stops in front of something**, if the policy
is steady. -/
theorem ends_of_refuses {asked : Policy} (hasked : Steady asked input) {r : Rule}
    (h : (grammar (some asked)).Refuses input r p)
    (hm : (grammar (some asked)).Matches input r p b q) : Ends (some asked) input p b q r := by
  refine (h.rule_induction (P := fun r p => Stopped (some asked) input p r ∧
    ∀ b q, (grammar (some asked)).Matches input r p b q → Ends (some asked) input p b q r)
    fun r p hr => ?_).2 b q hm
  have hk : Known asked input fun r p => (grammar (some asked)).Refuses input r p ∧
      Stopped (some asked) input p r ∧
      ∀ b q, (grammar (some asked)).Matches input r p b q → Ends (some asked) input p b q r :=
    ⟨fun h => h.2.1, fun h => h.2.2 _ _⟩
  exact ⟨hk.stopped_of_body hr, fun b q hm => hk.ends_of_body hasked hr hm⟩

/-- **A modern rule that comes to a refusal does not take the rest of the input.** -/
theorem not_takes_all_of_refuses {asked : Policy} (hasked : Steady asked input) {r : Rule}
    (h : (grammar (some asked)).Refuses input r p) (hp : DomainPlace input p) :
    ¬Takes (some asked) input r p input.utf8ByteSize := fun hm =>
  Nat.lt_irrefl _ ((ends_of_refuses hasked h hm).lt hp)

end AddressGrammar.Modern
