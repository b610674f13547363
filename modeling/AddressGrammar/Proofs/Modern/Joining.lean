import AddressGrammar.Proofs.Modern.Elements

/-!
# Addresses inside a list

Routes and groups hold lists of their own, so their rules take commas, and might take the comma
behind an element of the list around them. They do not do so in what they match: behind the domains
of a route stands a colon, and behind the mailboxes of a group a semicolon. Where one of the inner
lists ends in the text, it ends inside the list as well, in front of this mark.

Only matches are carried. A route that fails in the text may match in the list, where its commas go
on; but then a bracket has been opened that the text does not close, and the text is no address.

## Main definitions

* `GroupsKept` — from a position on, groups are groups inside the list

## Main results

* `Element.takes_mailbox` — mailboxes are mailboxes inside the list
* `Element.groupsKept`, `Element.takes_address` — so are groups, however deep, and addresses
-/

namespace AddressGrammar.Modern

open Text Peg Peg.Expr

variable {policy : Option Policy} {s t input : String} {off p q i j x : Nat} {a : UInt8}

/-- There is no address where something else stands behind the gap. -/
theorem not_address_of_byte (hgap : Gap policy input p x) (hx : byteAt? input x = some a)
    (ha : addressStarts.contains a = false) : ¬Takes policy input .address p q := fun h =>
  AddressPlace.not_byte (opens_address p q h) hgap ha hx

theorem Lexes.of_byte (hp : Lexes policy s p) (ha : byteAt? s p = some a)
    (hplain : plainBytes.contains a = true) : Lexes policy s (p + 1) :=
  hp.next (classAt_of_byteAt? ha hplain)

/-- No further domain of a route begins in front of a colon. -/
theorem not_routePart (hp : byteAt? input p = some 58) :
    ¬(chain [many (alt [apply Rule.cfws, token ',']), optCfws, token '@', apply .domain]).Matches
      input ((grammar policy).Matches input) p true q := by
  intro hm
  have hcolon := classAt_single.mpr hp
  have hgap : ¬classAt input gapStarts p = true := not_classAt_of_disjoint (by decide) hcolon
  obtain ⟨i, hcommas, hm⟩ := matches_andThen.mp hm
  obtain ⟨j, hgap', hm⟩ := matches_andThen.mp hm
  obtain ⟨k, hat, -⟩ := matches_andThen.mp hm
  obtain rfl := hcommas.many_stays fun l hl => by
    rcases matches_orElse.mp hl with hcfws | ⟨m, hm, hcomma⟩
    · exact hgap (gapStarts_of_cfws (matches_apply.mp hcfws))
    · obtain rfl := (matches_apply.mp hm).eq_of_missed
      cases hp.symm.trans (matches_exactly.mp hcomma).1
  obtain rfl := Gap.eq_of_not_starts hgap' hgap
  cases hp.symm.trans (matches_exactly.mp hat).1

/-- No list of mailboxes begins where a semicolon stands behind the gap. -/
theorem not_mailboxList (hgap : Gap policy input p x) (hx : byteAt? input x = some 59) :
    ¬Takes policy input .mailboxList p q := by
  intro hm
  have hdead : ∀ {i}, ¬Takes policy input .address p i :=
    not_address_of_byte hgap hx (by decide)
  rcases matches_orElse.mp (Grammar.matches_body.mp hm) with hplain | ⟨i, hi, hobs⟩
  · obtain ⟨i, hmailbox, -⟩ := matches_andThen.mp (matches_attempt.mp hplain)
    exact hdead (address_of_mailbox (matches_apply.mp hmailbox))
  · obtain ⟨rfl, -⟩ := misses_attempt.mp hi
    have hbody := Grammar.matches_body.mp (matches_apply.mp hobs)
    obtain ⟨j, hitems, -⟩ := matches_andThen.mp (matches_attempt.mp hbody)
    obtain ⟨k, hitem, -⟩ := matches_many1.mp hitems
    obtain ⟨l, haddress, hitem⟩ := matches_andThen.mp hitem
    obtain ⟨m, hgap', hitem⟩ := matches_andThen.mp hitem
    obtain ⟨n, hcomma, -⟩ := matches_andThen.mp hitem
    rcases matches_opt.mp haddress with haddress | ⟨rfl, -⟩
    · exact hdead (matches_apply.mp haddress)
    · obtain rfl := Gap.unique hgap hgap'
      cases hx.symm.trans (matches_exactly.mp hcomma).1

/-- From the position on, groups of the text are groups inside the list. -/
def GroupsKept (policy : Option Policy) (s t : String) (off p : Nat) : Prop :=
  ∀ {k q}, p ≤ k → Lexes policy s k → Takes policy s .group k q →
    Takes policy t .group (off + k) (off + q)

theorem GroupsKept.mono (hgroup : GroupsKept policy s t off p) (hpq : p ≤ q) :
    GroupsKept policy s t off q := fun hk => hgroup (Nat.le_trans hpq hk)

namespace Element

variable (h : Element s t off)
include h

theorem gap (hp : Lexes policy s p) (hgap : Gap policy s p q) :
    Gap policy t (off + p) (off + q) ∧ Lexes policy s q :=
  h.carried policy rfl p true q hp hgap

theorem takes {r : Rule} (hr : inElement r = true) (hp : Lexes policy s p)
    (hm : Takes policy s r p q) : Takes policy t r (off + p) (off + q) ∧ Lexes policy s q := by
  obtain ⟨hm', hq⟩ := h.carried_rule policy hr p true q hp (.apply hm)
  exact ⟨matches_apply.mp hm', hq⟩

theorem misses {r : Rule} (hr : inElement r = true) (hp : Lexes policy s p)
    (hm : (grammar policy).Matches s r p false q) :
    (grammar policy).Matches t r (off + p) false (off + q) :=
  matches_apply.mp (h.carried_rule policy hr p false q hp (.apply hm)).1

theorem exactly {call : Rule → Nat → Bool → Nat → Prop} (hp : byteAt? s p = some a) :
    (Expr.exactly a).Matches t call (off + p) true (off + (p + 1)) :=
  matches_exactly.mpr ⟨h.byteAt?_of_some hp, rfl⟩

theorem misses_of_not_takes {r : Rule} (hp : Lexes policy s p)
    (hr : ∀ q, ¬Takes policy t r (off + p) q) :
    (grammar policy).Matches t r (off + p) false (off + p) :=
  Modern.misses_of_not_takes (Nat.le_trans (Nat.add_le_add_left hp.le_size _) h.size_le) hr

/-! ### Routes -/

/-- The commas and gaps in front of a further domain. -/
theorem routeCommas (hp : Lexes policy s p)
    (hm : (many (alt [apply Rule.cfws, token ','])).Matches s ((grammar policy).Matches s) p true i)
    (hi : i < s.utf8ByteSize) :
    (many (alt [apply Rule.cfws, token ','])).Matches t ((grammar policy).Matches t) (off + p) true
      (off + i) ∧ Lexes policy s i := by
  refine hm.many_carried (I := Lexes policy s) (fun k l hk hkl _ => ?_) (fun hi' hend => ?_) hp
  · rcases matches_orElse.mp hkl with hcfws | ⟨m, hm, hcomma⟩
    · obtain ⟨hcfws', hl⟩ := h.takes rfl hk (matches_apply.mp hcfws)
      exact ⟨.orElse (.apply hcfws'), hl⟩
    · obtain rfl := (matches_apply.mp hm).eq_of_missed
      obtain ⟨hbyte, rfl⟩ := matches_exactly.mp hcomma
      exact ⟨.orElse_next (.apply (h.misses rfl hk (matches_apply.mp hm))) (h.exactly hbyte),
        hk.of_byte hbyte (by decide)⟩
  · obtain ⟨l, hend⟩ := hend
    obtain ⟨m, hm, hcomma⟩ := misses_orElse.mp hend
    obtain rfl := (matches_apply.mp hm).eq_of_missed
    have hcomma' : byteAt? t (off + m) ≠ some 44 := by
      rw [h.byteAt?_eq hi]
      exact (misses_exactly.mp hcomma).1
    exact ⟨off + m, .orElse_next (.apply (h.misses rfl hi' (matches_apply.mp hm)))
      (misses_exactly.mpr ⟨hcomma', rfl⟩)⟩

/-- A further domain. -/
theorem routePart (hp : Lexes policy s p) (hm : (chain [many (alt [apply Rule.cfws, token ',']),
      optCfws, token '@', apply .domain]).Matches s ((grammar policy).Matches s) p true q) :
    (chain [many (alt [apply Rule.cfws, token ',']), optCfws, token '@', apply .domain]).Matches t
      ((grammar policy).Matches t) (off + p) true (off + q) ∧ Lexes policy s q := by
  obtain ⟨i, hcommas, hm⟩ := matches_andThen.mp hm
  obtain ⟨j, hgap, hm⟩ := matches_andThen.mp hm
  obtain ⟨k, hat, hdomain⟩ := matches_andThen.mp hm
  obtain ⟨hbyte, rfl⟩ := matches_exactly.mp hat
  have hij : i ≤ j := Gap.le hgap
  obtain ⟨hcommas', hi⟩ :=
    h.routeCommas hp hcommas (Nat.lt_of_le_of_lt hij (lt_of_byteAt?_eq_some hbyte))
  obtain ⟨hgap', hj⟩ := h.gap hi hgap
  obtain ⟨hdomain', hq⟩ := h.takes rfl (hj.of_byte hbyte (by decide)) (matches_apply.mp hdomain)
  exact ⟨.andThen hcommas' (.andThen hgap' (.andThen (h.exactly hbyte) (.apply hdomain'))), hq⟩

theorem takes_obsDomainList (hp : Lexes policy s p) (hm : Takes policy s .obsDomainList p q)
    (hq : byteAt? s q = some 58) : Takes policy t .obsDomainList (off + p) (off + q) := by
  obtain ⟨i, hat, hm⟩ := matches_andThen.mp (matches_attempt.mp (Grammar.matches_body.mp hm))
  obtain ⟨j, hdomain, hmany⟩ := matches_andThen.mp hm
  obtain ⟨hbyte, rfl⟩ := matches_exactly.mp hat
  obtain ⟨hdomain', hj⟩ := h.takes rfl (hp.of_byte hbyte (by decide)) (matches_apply.mp hdomain)
  have hq' := h.byteAt?_of_some hq
  have hend := exists_miss policy (Nat.le_of_lt (lt_of_byteAt?_eq_some hq')) fun _ =>
    not_routePart hq'
  obtain ⟨hmany', -⟩ := hmany.many_carried (I := Lexes policy s)
    (fun _ _ hk hkl _ => h.routePart hk hkl) (fun _ _ => hend) hj
  exact Grammar.matches_body.mpr
    (.attempt (.andThen (h.exactly hbyte) (.andThen (.apply hdomain') hmany')))

theorem takes_obsRoute (hp : Lexes policy s p) (hm : Takes policy s .obsRoute p q) :
    Takes policy t .obsRoute (off + p) (off + q) := by
  obtain ⟨i, hgap, hm⟩ := matches_andThen.mp (matches_attempt.mp (Grammar.matches_body.mp hm))
  obtain ⟨j, hlist, hm⟩ := matches_andThen.mp hm
  obtain ⟨k, hcolon, hback⟩ := matches_andThen.mp hm
  obtain ⟨hbyte, rfl⟩ := matches_exactly.mp hcolon
  obtain ⟨hgap', hi⟩ := h.gap hp hgap
  have hj := (lexes_iff_of_takes rfl (matches_apply.mp hlist)).mp hi
  obtain ⟨hback', -⟩ := h.gap (hj.of_byte hbyte (by decide)) hback
  have hlist' := h.takes_obsDomainList hi (matches_apply.mp hlist) hbyte
  exact Grammar.matches_body.mpr (.attempt
    (.andThen hgap' (.andThen (.apply hlist') (.andThen (h.exactly hbyte) hback'))))

/-! ### Mailboxes -/

theorem takes_obsAngleAddr (hp : Lexes policy s p) (hm : Takes policy s .obsAngleAddr p q) :
    Takes policy t .obsAngleAddr (off + p) (off + q) := by
  obtain ⟨i, hgap, hm⟩ := matches_andThen.mp (matches_attempt.mp (Grammar.matches_body.mp hm))
  obtain ⟨j, hopen, hm⟩ := matches_andThen.mp hm
  obtain ⟨k, hroute, hspec⟩ := matches_andThen.mp hm
  obtain ⟨hbyte, rfl⟩ := matches_exactly.mp hopen
  obtain ⟨hgap', hi⟩ := h.gap hp hgap
  have hj := hi.of_byte hbyte (by decide)
  have hrest : ∀ {k}, Lexes policy s k →
      (chain [apply Rule.addrSpec, token '>', optCfws]).Matches s ((grammar policy).Matches s) k
        true q →
      (chain [apply Rule.addrSpec, token '>', optCfws]).Matches t ((grammar policy).Matches t)
        (off + k) true (off + q) := fun hk hm => (h.carried policy rfl _ _ _ hk hm).1
  have hroute' : (opt (apply Rule.obsRoute)).Matches t ((grammar policy).Matches t)
      (off + (i + 1)) true (off + k) ∧ Lexes policy s k := by
    rcases matches_opt.mp hroute with hroute | ⟨rfl, -⟩
    · have hroute := matches_apply.mp hroute
      exact ⟨.orElse (.attempt (.apply (h.takes_obsRoute hj hroute))),
        (lexes_iff_of_takes rfl hroute).mp hj⟩
    · -- Where an address follows, there is no route in the list either.
      obtain ⟨l, hspec', -⟩ := matches_andThen.mp (hrest hj hspec)
      have hbody := Grammar.matches_body.mp (matches_apply.mp hspec')
      obtain ⟨m, hlocal, -⟩ := matches_andThen.mp (matches_attempt.mp hbody)
      have hmiss := h.misses_of_not_takes hj fun _ =>
        opens_localPart.not_both opens_obsRoute (by decide) (matches_apply.mp hlocal)
      exact ⟨.orElse_next (.attempt_miss (.apply hmiss)) .succeed, hj⟩
  exact Grammar.matches_body.mpr (.attempt (.andThen hgap' (.andThen (h.exactly hbyte)
    (.andThen hroute'.1 (hrest hroute'.2 hspec)))))

theorem takes_angleAddr (hp : Lexes policy s p) (hm : Takes policy s .angleAddr p q) :
    Takes policy t .angleAddr (off + p) (off + q) := by
  have hplain := h.carried policy
    (e := seq [optCfws, token '<', apply .addrSpec, token '>', optCfws]) rfl
  rcases matches_orElse.mp (Grammar.matches_body.mp hm) with hm | ⟨i, hi, hobs⟩
  · exact Grammar.matches_body.mpr (.orElse (hplain _ _ _ hp hm).1)
  · obtain ⟨hi', -⟩ := hplain _ _ _ hp hi
    obtain ⟨rfl, -⟩ := misses_attempt.mp hi
    exact Grammar.matches_body.mpr
      (.orElse_next hi' (.apply (h.takes_obsAngleAddr hp (matches_apply.mp hobs))))

theorem takes_nameAddr (hp : Lexes policy s p) (hm : Takes policy s .nameAddr p q) :
    Takes policy t .nameAddr (off + p) (off + q) := by
  obtain ⟨i, hname, hangle⟩ := matches_andThen.mp (matches_attempt.mp (Grammar.matches_body.mp hm))
  obtain ⟨hname', hi⟩ := h.carried policy rfl _ _ _ hp hname
  exact Grammar.matches_body.mpr
    (.attempt (.andThen hname' (.apply (h.takes_angleAddr hi (matches_apply.mp hangle)))))

/-- **Mailboxes are mailboxes inside the list.** -/
theorem takes_mailbox (hp : Lexes policy s p) (hm : Takes policy s .mailbox p q) :
    Takes policy t .mailbox (off + p) (off + q) := by
  rcases matches_orElse.mp (Grammar.matches_body.mp hm) with hname | ⟨i, hi, hspec⟩
  · exact mailbox_of_nameAddr (h.takes_nameAddr hp (matches_apply.mp hname))
  · obtain rfl := (matches_apply.mp hi).eq_of_missed
    exact mailbox_of_addrSpec (h.takes rfl hp (matches_apply.mp hspec)).1

/-! ### Lists of mailboxes -/

/-- An address is one inside the list if the group is one that it may be. -/
theorem takes_address_of (hgroup : GroupsKept policy s t off p) (hp : Lexes policy s p)
    (hm : Takes policy s .address p q) : Takes policy t .address (off + p) (off + q) := by
  rcases matches_orElse.mp (Grammar.matches_body.mp hm) with hmailbox | ⟨i, hi, hg⟩
  · exact address_of_mailbox (h.takes_mailbox hp (matches_apply.mp hmailbox))
  · obtain rfl := (matches_apply.mp hi).eq_of_missed
    exact address_of_group (hgroup (Nat.le_refl _) hp (matches_apply.mp hg))

/-- An address that may be left out, in front of a gap and something that is no address. -/
theorem optAddress (hgroup : GroupsKept policy s t off p) (hp : Lexes policy s p)
    (hm : (opt (apply Rule.address)).Matches s ((grammar policy).Matches s) p true i)
    (hgap : Gap policy s i x) (hx : byteAt? s x = some a)
    (ha : addressStarts.contains a = false) :
    (opt (apply Rule.address)).Matches t ((grammar policy).Matches t) (off + p) true (off + i) ∧
      Lexes policy s i := by
  rcases matches_opt.mp hm with hm | ⟨rfl, -⟩
  · have hm := matches_apply.mp hm
    exact ⟨.orElse (.attempt (.apply (h.takes_address_of hgroup hp hm))),
      (lexes_iff_of_takes rfl hm).mp hp⟩
  · have hmiss := h.misses_of_not_takes hp fun _ =>
      not_address_of_byte (h.gap hp hgap).1 (h.byteAt?_of_some hx) ha
    exact ⟨.orElse_next (.attempt_miss (.apply hmiss)) .succeed, hp⟩

/-- An element of the obsolete form. -/
theorem sparseItem (hgroup : GroupsKept policy s t off p) (hp : Lexes policy s p)
    (hm : Modern.sparseItem.Matches s ((grammar policy).Matches s) p true q) :
    Modern.sparseItem.Matches t ((grammar policy).Matches t) (off + p) true (off + q) ∧
      Lexes policy s q := by
  obtain ⟨i, haddress, hm⟩ := matches_andThen.mp hm
  obtain ⟨j, hgap, hm⟩ := matches_andThen.mp hm
  obtain ⟨k, hcomma, hback⟩ := matches_andThen.mp hm
  obtain ⟨hbyte, rfl⟩ := matches_exactly.mp hcomma
  obtain ⟨haddress', hi⟩ := h.optAddress hgroup hp haddress hgap hbyte (by decide)
  obtain ⟨hgap', hj⟩ := h.gap hi hgap
  obtain ⟨hback', hq⟩ := h.gap (hj.of_byte hbyte (by decide)) hback
  exact ⟨.andThen haddress' (.andThen hgap' (.andThen (h.exactly hbyte) hback')), hq⟩

/-- The obsolete form, up to the semicolon. -/
theorem takes_obsMboxList (hgroup : GroupsKept policy s t off p) (hp : Lexes policy s p)
    (hm : Takes policy s .obsMboxList p q) (hq : byteAt? s q = some 59) :
    Takes policy t .obsMboxList (off + p) (off + q) := by
  obtain ⟨i, hitems, hlast⟩ := matches_andThen.mp (matches_attempt.mp (Grammar.matches_body.mp hm))
  obtain ⟨j, hfirst, hmany⟩ := matches_many1.mp hitems
  have hpj : p ≤ j := hfirst.le fun _ _ _ _ h => h.le
  have hq' := h.byteAt?_of_some hq
  obtain ⟨hfirst', hj⟩ := h.sparseItem hgroup hp hfirst
  have hlast' : p ≤ i ∧ Lexes policy s i → (opt (apply Rule.address)).Matches t
      ((grammar policy).Matches t) (off + i) true (off + q) := fun hi =>
    (h.optAddress (hgroup.mono hi.1) hi.2 hlast (Gap.self_of_byte policy hq (by decide)) hq
      (by decide)).1
  have hitem : ∀ k l, p ≤ k ∧ Lexes policy s k →
      Modern.sparseItem.Matches s ((grammar policy).Matches s) k true l →
      Modern.sparseItem.Matches t ((grammar policy).Matches t) (off + k) true (off + l) ∧
        p ≤ l ∧ Lexes policy s l := by
    intro k l hk hkl
    obtain ⟨hkl', hl⟩ := h.sparseItem (hgroup.mono hk.1) hk.2 hkl
    exact ⟨hkl', Nat.le_trans hk.1 (hkl.le fun _ _ _ _ h => h.le), hl⟩
  -- Behind the last comma an address may stand, and then the semicolon.
  have hend : p ≤ i ∧ Lexes policy s i → ∃ k, Modern.sparseItem.Matches t
      ((grammar policy).Matches t) (off + i) false k := fun hi =>
    ⟨off + q, .andThen (hlast' hi) (.andThen (Gap.self_of_byte policy hq' (by decide))
      (.andThen_miss (misses_exactly_of_ne hq' (by decide))))⟩
  obtain ⟨hmany', hi⟩ := hmany.many_carried (fun k l hk hkl _ => hitem k l hk hkl)
    (fun hi _ => hend hi) ⟨hpj, hj⟩
  exact Grammar.matches_body.mpr
    (.attempt (.andThen (matches_many1.mpr ⟨_, hfirst', hmany'⟩) (hlast' hi)))

/-- The plain form, up to the semicolon. -/
theorem plainMailboxes (hp : Lexes policy s p)
    (hm : (chain [apply Rule.mailbox, many (chain [token ',', apply .mailbox])]).Matches s
      ((grammar policy).Matches s) p true q) (hq : byteAt? s q = some 59) :
    (chain [apply Rule.mailbox, many (chain [token ',', apply .mailbox])]).Matches t
      ((grammar policy).Matches t) (off + p) true (off + q) := by
  obtain ⟨i, hfirst, hmany⟩ := matches_andThen.mp hm
  have hfirst := matches_apply.mp hfirst
  have hitem : ∀ k l, Lexes policy s k →
      (chain [token ',', apply Rule.mailbox]).Matches s ((grammar policy).Matches s) k true l →
      (chain [token ',', apply Rule.mailbox]).Matches t ((grammar policy).Matches t) (off + k) true
        (off + l) ∧ Lexes policy s l := by
    intro k l hk hkl
    obtain ⟨m, hcomma, hmailbox⟩ := matches_andThen.mp hkl
    obtain ⟨hbyte, rfl⟩ := matches_exactly.mp hcomma
    have hm := hk.of_byte hbyte (by decide)
    have hmailbox := matches_apply.mp hmailbox
    exact ⟨.andThen (h.exactly hbyte) (.apply (h.takes_mailbox hm hmailbox)),
      (lexes_iff_of_takes rfl hmailbox).mp hm⟩
  have hend : ∃ k, (chain [token ',', apply Rule.mailbox]).Matches t ((grammar policy).Matches t)
      (off + q) false k :=
    ⟨off + q, .andThen_miss (misses_exactly_of_ne (h.byteAt?_of_some hq) (by decide))⟩
  obtain ⟨hmany', -⟩ := hmany.many_carried (fun k l hk hkl _ => hitem k l hk hkl) (fun _ _ => hend)
    ((lexes_iff_of_takes rfl hfirst).mp hp)
  exact .andThen (.apply (h.takes_mailbox hp hfirst)) hmany'

/-- An element that does not begin with a mailbox does not do so inside the list: it is a group, or
the address is left out. -/
theorem not_mailbox_of_item (hgroup : GroupsKept policy s t off p) (hp : Lexes policy s p)
    (hmailbox : (grammar policy).Matches s .mailbox p false j)
    (hm : Modern.sparseItem.Matches s ((grammar policy).Matches s) p true q) :
    ¬Takes policy t .mailbox (off + p) i := by
  obtain ⟨k, haddress, hm⟩ := matches_andThen.mp hm
  obtain ⟨x, hgap, hm⟩ := matches_andThen.mp hm
  obtain ⟨l, hcomma, -⟩ := matches_andThen.mp hm
  rcases matches_opt.mp haddress with haddress | ⟨rfl, -⟩
  · have hbody := Grammar.matches_body.mp (matches_apply.mp haddress)
    rcases matches_orElse.mp hbody with hmailbox' | ⟨m, hmiss, hg⟩
    · cases (hmailbox.unique (matches_apply.mp hmailbox')).1
    · obtain rfl := (matches_apply.mp hmiss).eq_of_missed
      exact not_mailbox_of_group (hgroup (Nat.le_refl _) hp (matches_apply.mp hg))
  · intro hmailbox'
    have hcomma := h.byteAt?_of_some (matches_exactly.mp hcomma).1
    exact not_address_of_byte (h.gap hp hgap).1 hcomma (by decide) (address_of_mailbox hmailbox')

/-- A list of mailboxes, up to the semicolon. -/
theorem takes_mailboxList (hgroup : GroupsKept policy s t off p) (hp : Lexes policy s p)
    (hm : Takes policy s .mailboxList p q) (hq : byteAt? s q = some 59) :
    Takes policy t .mailboxList (off + p) (off + q) := by
  rcases matches_orElse.mp (Grammar.matches_body.mp hm) with hplain | ⟨i, hi, hobs⟩
  · have hplain := h.plainMailboxes hp (matches_attempt.mp hplain) hq
    exact Grammar.matches_body.mpr (.orElse (.attempt hplain))
  · obtain ⟨rfl, j, hj⟩ := misses_attempt.mp hi
    have hobs := matches_apply.mp hobs
    obtain ⟨k, hitems, -⟩ := matches_andThen.mp (matches_attempt.mp (Grammar.matches_body.mp hobs))
    obtain ⟨l, hfirst, -⟩ := matches_many1.mp hitems
    have hmailbox : (grammar policy).Matches s .mailbox i false j := by
      rcases misses_andThen.mp hj with hmailbox | ⟨m, -, hmany⟩
      · exact matches_apply.mp hmailbox
      · cases hmany.many_matched
    have hmiss := h.misses_of_not_takes hp fun _ =>
      h.not_mailbox_of_item hgroup hp hmailbox hfirst
    exact Grammar.matches_body.mpr (.orElse_next (.attempt_miss (.andThen_miss (.apply hmiss)))
      (.apply (h.takes_obsMboxList hgroup hp hobs hq)))

/-! ### Groups -/

/-- What stands in a group. -/
theorem groupItems (hgroup : GroupsKept policy s t off p) (hp : Lexes policy s p)
    (hm : (opt (alt [apply Rule.mailboxList, apply .cfws])).Matches s ((grammar policy).Matches s) p
      true q) (hq : byteAt? s q = some 59) :
    (opt (alt [apply Rule.mailboxList, apply .cfws])).Matches t ((grammar policy).Matches t)
      (off + p) true (off + q) ∧ Lexes policy s q := by
  have hmiss : Gap policy s p q → (grammar policy).Matches t .mailboxList (off + p) false (off + p) :=
    fun hgap => h.misses_of_not_takes hp fun _ =>
      not_mailboxList (h.gap hp hgap).1 (h.byteAt?_of_some hq)
  rcases matches_opt.mp hm with hm | ⟨rfl, i, hi⟩
  · rcases matches_orElse.mp hm with hlist | ⟨i, hi, hcfws⟩
    · have hlist := matches_apply.mp hlist
      exact ⟨.orElse (.attempt (.orElse (.apply (h.takes_mailboxList hgroup hp hlist hq)))),
        (lexes_iff_of_takes rfl hlist).mp hp⟩
    · obtain rfl := (matches_apply.mp hi).eq_of_missed
      have hgap : Gap policy s i q := .orElse (.attempt hcfws)
      obtain ⟨hcfws', hlexes⟩ := h.takes rfl hp (matches_apply.mp hcfws)
      exact ⟨.orElse (.attempt (.orElse_next (.apply (hmiss hgap)) (.apply hcfws'))), hlexes⟩
  · obtain ⟨j, hj, hcfws⟩ := misses_orElse.mp hi
    obtain rfl := (matches_apply.mp hj).eq_of_missed
    obtain rfl := (matches_apply.mp hcfws).eq_of_missed
    have hmiss' := hmiss (Gap.self_of_byte policy hq (by decide))
    have hcfws' := h.misses rfl hp (matches_apply.mp hcfws)
    exact ⟨.orElse_next (.attempt_miss (.orElse_next (.apply hmiss') (.apply hcfws'))) .succeed, hp⟩

/-- A group is one inside the list if the groups behind its colon are. -/
theorem takes_group_of (hgroup : GroupsKept policy s t off (p + 1)) (hp : Lexes policy s p)
    (hm : Takes policy s .group p q) : Takes policy t .group (off + p) (off + q) := by
  obtain ⟨i, hname, hm⟩ := matches_andThen.mp (matches_attempt.mp (Grammar.matches_body.mp hm))
  obtain ⟨j, hcolon, hm⟩ := matches_andThen.mp hm
  obtain ⟨k, hitems, hm⟩ := matches_andThen.mp hm
  obtain ⟨l, hend, hback⟩ := matches_andThen.mp hm
  obtain ⟨hbyte, rfl⟩ := matches_exactly.mp hcolon
  obtain ⟨hbyte', rfl⟩ := matches_exactly.mp hend
  have hpi := (matches_apply.mp hname).le
  obtain ⟨hname', hi⟩ := h.takes rfl hp (matches_apply.mp hname)
  obtain ⟨hitems', hk⟩ := h.groupItems (hgroup.mono (Nat.succ_le_succ hpi))
    (hi.of_byte hbyte (by decide)) hitems hbyte'
  obtain ⟨hback', -⟩ := h.gap (hk.of_byte hbyte' (by decide)) hback
  exact Grammar.matches_body.mpr (.attempt (.andThen (.apply hname')
    (.andThen (h.exactly hbyte) (.andThen hitems' (.andThen (h.exactly hbyte') hback')))))

/-- **Groups are groups inside the list**, however deep. -/
theorem groupsKept (policy : Option Policy) (p : Nat) : GroupsKept policy s t off p := by
  -- The induction is on what is left of the text behind the position.
  induction hn : s.utf8ByteSize - p using Nat.strongRecOn generalizing p with
  | _ n ih =>
    intro k q hpk hk hm
    rcases Nat.eq_or_lt_of_le hk.le_size with hsize | hlt
    · obtain ⟨x, hx, hstart⟩ := opens_address k q (address_of_group hm)
      have hkx := hx.le
      have hxs := lt_of_classAt hstart
      omega
    · exact h.takes_group_of (ih (s.utf8ByteSize - (k + 1)) (by omega) (k + 1) rfl) hk hm

/-- **An address is one inside the list.** -/
theorem takes_address (hm : Takes policy s .address p s.utf8ByteSize) :
    Takes policy t .address (off + p) (off + s.utf8ByteSize) :=
  h.takes_address_of (h.groupsKept policy p) (lexes_of_takes rfl hm) hm

end Element

end AddressGrammar.Modern
