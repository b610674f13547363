import AddressGrammar.Legacy.Grammar
import AddressGrammar.Proofs.Peg.Refusals

/-!
# Refusals in the legacy grammar

A legacy address that comes to a refused domain does not match in another way. Whatever could be
tried instead of a part that has come as far as a domain is of another shape: an address with a
local part goes on with a dot or an at sign behind its first word, where a phrase would stop and ask
for something else, and a route begins with an at sign, which no local part does.

So a refusal is fatal for every rule, under any policy.

## Main definitions

* `SpecPlace`, `NamePlace` — where a bare address has begun, or a name in front of one
* `Stopped` — what is known of a rule that has come to a refusal

## Main results

* `not_takes_of_refuses` — a rule that comes to a refusal does not match
-/

namespace AddressGrammar.Legacy

open Text Peg Peg.Expr

variable {policy : Policy} {input : String} {p q i j : Nat}

/-- Under the policy, a rule takes the text between two positions. -/
abbrev Takes (policy : Policy) (input : String) (r : Rule) (p q : Nat) : Prop :=
  (grammar (some policy)).Matches input r p true q

/-! ### How words, comments and spaces begin and end -/

/-- Whether a word may begin with the byte. -/
def startsWord (b : UInt8) : Bool := atomBytes.contains b || b == 34

theorem startsWord_of_word (h : Takes policy input .word p q) :
    ∃ b, byteAt? input p = some b ∧ startsWord b = true := by
  rcases matches_orElse.mp (Grammar.matches_body.mp h) with hatom | ⟨i, hi, hquoted⟩
  · have hrun := matches_run.mp (Grammar.matches_body.mp (matches_apply.mp hatom))
    obtain ⟨b, hb, hmem⟩ := (Option.any_eq_true _ _).mp hrun.1
    exact ⟨b, hb, by simp [startsWord, hmem]⟩
  · obtain rfl := (matches_apply.mp hi).eq_of_missed
    have hbody := Grammar.matches_body.mp (matches_apply.mp hquoted)
    obtain ⟨j, hj, -⟩ := matches_andThen.mp (matches_attempt.mp hbody)
    exact ⟨34, (matches_exactly.mp hj).1, by decide⟩

theorem not_word {b : UInt8} (hb : byteAt? input p = some b) (hstart : startsWord b = false) :
    ¬Takes policy input .word p q := by
  intro h
  obtain ⟨b', hb', hstart'⟩ := startsWord_of_word h
  cases hb.symm.trans hb'
  cases hstart.symm.trans hstart'

theorem byteAt?_of_comment (h : Takes policy input .comment p q) : byteAt? input p = some 40 := by
  obtain ⟨i, hi, -⟩ := matches_andThen.mp (matches_attempt.mp (Grammar.matches_body.mp h))
  exact (matches_exactly.mp hi).1

/-- Comments take nothing, or begin with a bracket. -/
theorem ocms_cases (h : Takes policy input .ocms p q) : q = p ∨ byteAt? input p = some 40 := by
  by_cases hb : byteAt? input p = some 40
  · exact .inr hb
  · exact .inl ((Grammar.matches_body.mp h).many_stays fun i hi =>
      hb (byteAt?_of_comment (matches_apply.mp hi)))

/-- Spaces take nothing, or begin with a space. -/
theorem spaces_cases (h : Takes policy input .spaces p q) : q = p ∨ byteAt? input p = some 32 := by
  by_cases hb : byteAt? input p = some 32
  · exact .inr hb
  · exact .inl ((Grammar.matches_body.mp h).many_stays fun i hi =>
      hb (matches_exactly.mp (Grammar.matches_body.mp (matches_apply.mp hi))).1)

theorem ocms_again (h : Takes policy input .ocms p i) (h' : Takes policy input .ocms i j) : j = i :=
  (Grammar.matches_body.mp h).many_again Grammar.matches_unique (Grammar.matches_body.mp h')

theorem spaces_again (h : Takes policy input .spaces p i) (h' : Takes policy input .spaces i j) :
    j = i :=
  (Grammar.matches_body.mp h).many_again Grammar.matches_unique (Grammar.matches_body.mp h')

theorem byteAt?_of_angleAddr (h : Takes policy input .angleAddr p q) :
    byteAt? input p = some 60 := by
  obtain ⟨i, hi, -⟩ := matches_andThen.mp (matches_attempt.mp (Grammar.matches_body.mp h))
  exact (matches_exactly.mp hi).1

/-- A phrase takes all spaces behind it. -/
theorem spaces_of_phrase (h : Takes policy input .phrase p i)
    (h' : Takes policy input .spaces i j) : j = i := by
  have hpart : ∀ {k l}, (chain [apply Rule.word, apply .spaces]).Matches input
      ((grammar (some policy)).Matches input) k true l →
      ∀ m, Takes policy input .spaces l m → m = l := by
    intro k l hkl m hm
    obtain ⟨n, -, hspaces⟩ := matches_andThen.mp hkl
    exact spaces_again (matches_apply.mp hspaces) hm
  obtain ⟨k, hfirst, hrest⟩ := matches_many1.mp (Grammar.matches_body.mp h)
  exact (hrest.many_invariant (I := fun l => ∀ m, Takes policy input .spaces l m → m = l)
    (fun _ _ _ hkl => hpart hkl) (hpart hfirst)).1 j h'

/-! ### Places -/

/-- A bare address has begun: behind a word and comments there is a dot or an at sign. -/
def SpecPlace (policy : Policy) (input : String) (p : Nat) : Prop :=
  ∃ i j, Takes policy input .word p i ∧ Takes policy input .ocms i j ∧
    (byteAt? input j = some 46 ∨ byteAt? input j = some 64)

/-- A name has begun that stands in front of an address in angle brackets: behind a phrase and
comments there is a space or a bracket. -/
def NamePlace (policy : Policy) (input : String) (p : Nat) : Prop :=
  ∃ i j, Takes policy input .phrase p i ∧ Takes policy input .ocms i j ∧
    (byteAt? input j = some 32 ∨ byteAt? input j = some 60)

/-- A local part has words with dots between them. -/
theorem specPlace_of_localPart (h : Takes policy input .localPart p i)
    (h' : Takes policy input .ocms i j) (hj : byteAt? input j = some 64) :
    SpecPlace policy input p := by
  obtain ⟨k, hword, h⟩ := matches_andThen.mp (matches_attempt.mp (Grammar.matches_body.mp h))
  obtain ⟨l, hocms, h⟩ := matches_andThen.mp h
  refine ⟨k, l, matches_apply.mp hword, matches_apply.mp hocms, ?_⟩
  cases h with
  | many_miss | many_still =>
    obtain rfl := ocms_again (matches_apply.mp hocms) h'
    exact .inr hj
  | many_next h =>
    obtain ⟨m, hdot, -⟩ := matches_andThen.mp h
    exact .inl (matches_exactly.mp hdot).1

/-- Where a bare address has begun, a phrase is its first word. -/
theorem SpecPlace.phrase (h : SpecPlace policy input p) (hphrase : Takes policy input .phrase p q) :
    ∃ j, Takes policy input .ocms q j ∧ Takes policy input .spaces q q ∧
      (byteAt? input j = some 46 ∨ byteAt? input j = some 64) := by
  obtain ⟨i, j, hword, hocms, hj⟩ := h
  obtain ⟨b, hb, hspace, hstart⟩ :
      ∃ b, byteAt? input i = some b ∧ b ≠ 32 ∧ startsWord b = false := by
    rcases ocms_cases hocms with rfl | hb
    · rcases hj with hb | hb
      · exact ⟨46, hb, by decide, by decide⟩
      · exact ⟨64, hb, by decide, by decide⟩
    · exact ⟨40, hb, by decide, by decide⟩
  obtain ⟨k, hfirst, hrest⟩ := matches_many1.mp (Grammar.matches_body.mp hphrase)
  obtain ⟨l, hl, hspaces⟩ := matches_andThen.mp hfirst
  obtain ⟨-, rfl⟩ := hword.unique (matches_apply.mp hl)
  have hk : k = l := by
    rcases spaces_cases (matches_apply.mp hspaces) with hk | hb'
    · exact hk
    · cases hb.symm.trans hb'
      exact absurd rfl hspace
  subst hk
  have hq : q = k := hrest.many_stays fun m hm => by
    obtain ⟨n, hn, -⟩ := matches_andThen.mp hm
    exact not_word hb hstart (matches_apply.mp hn)
  subst hq
  exact ⟨j, hocms, matches_apply.mp hspaces, hj⟩

/-! ### Refusals -/

/-- The rules that come to a domain. -/
def askers : Rule → Bool
  | .domain | .addrSpec | .route | .angleAddr | .mailbox | .group | .address | .valid | .root
  | .onlyAddrSpec => true
  | _ => false

/-- The grammar without a policy is the one with it, but for the checks. -/
theorem body_unchecked (policy : Policy) (r : Rule) :
    body none r = (body (some policy) r).unchecked := by
  cases r <;> rfl

theorem askers_of_asks {policy : Policy} (r : Rule)
    (h : (body (some policy) r).asks askers = true) : askers r = true := by
  revert h
  cases r <;> first
    | exact fun _ => rfl
    | exact nofun

/-- What is known of a rule that has come to a refusal at a position. -/
def Stopped (policy : Policy) (input : String) (p : Nat) : Rule → Prop
  | .addrSpec => SpecPlace policy input p
  | .route => byteAt? input p = some 64
  | .angleAddr => byteAt? input p = some 60
  | .mailbox => SpecPlace policy input p ∨ NamePlace policy input p
  | .domain | .group | .address | .valid | .root | .onlyAddrSpec => True
  | _ => False

theorem askers_of_stopped {r : Rule} (h : Stopped policy input p r) : askers r = true := by
  cases r <;> first
    | rfl
    | exact h.elim

section Bodies

variable {refuses : Rule → Nat → Prop}

/-- Refusals are fatal for the rules inside, and what is known of these is true. -/
structure Fatally (policy : Policy) (input : String) (refuses : Rule → Nat → Prop) : Prop where
  stopped : ∀ {r p}, refuses r p → Stopped policy input p r
  fatal : ∀ {r p q}, refuses r p → ¬Takes policy input r p q

namespace Fatally

variable (hk : Fatally policy input refuses)
include hk

theorem asks (r : Rule) (p : Nat) (h : refuses r p) : askers r = true :=
  askers_of_stopped (hk.stopped h)

theorem fatal_rule (r : Rule) :
    (apply r).Fatal input ((grammar (some policy)).Matches input) refuses :=
  fatal_apply fun _ _ h => hk.fatal h

/-- Parts that come to no domain. -/
theorem fatal_free {e : Expr Rule} (he : e.asks askers = false) :
    e.Fatal input ((grammar (some policy)).Matches input) refuses := fatal_of_asks hk.asks he

theorem fatal_at : (token '@' : Expr Rule).Fatal input
    ((grammar (some policy)).Matches input) refuses :=
  hk.fatal_free rfl

theorem fatal_atEnd : (atEnd : Expr Rule).Fatal input
    ((grammar (some policy)).Matches input) refuses :=
  hk.fatal_free rfl

/-- A local part has been taken where a bare address comes to a refusal. -/
theorem specPlace (h : (body (some policy) .addrSpec).Refuses input
    ((grammar (some policy)).Matches input) refuses p) : SpecPlace policy input p := by
  obtain ⟨i, hi, h⟩ := (refuses_attempt.mp h).behind hk.asks rfl
  obtain ⟨j, hj, h⟩ := h.behind hk.asks rfl
  obtain ⟨k, hat, -⟩ := h.behind hk.asks rfl
  exact specPlace_of_localPart (matches_apply.mp hi) (matches_apply.mp hj)
    (matches_exactly.mp hat).1

/-- A part of a route begins with an at sign. -/
theorem byteAt?_of_routePart (h : (chain [apply Rule.atSign, apply .ocms, apply .domain]).Refuses
    input ((grammar (some policy)).Matches input) refuses p) : byteAt? input p = some 64 := by
  obtain ⟨i, hi, -⟩ := h.behind hk.asks rfl
  exact (matches_exactly.mp (Grammar.matches_body.mp (matches_apply.mp hi))).1

theorem fatal_routePart : (chain [apply Rule.atSign, apply .ocms, apply .domain]).Fatal input
    ((grammar (some policy)).Matches input) refuses :=
  fatal_andThen Grammar.matches_unique (hk.fatal_free rfl)
    (fatal_andThen Grammar.matches_unique (hk.fatal_free rfl) (hk.fatal_rule _))

/-- A name has been taken where a named address comes to a refusal. -/
theorem namePlace (h : (seq [apply Rule.phrase, apply .spaces, apply .ocms, apply .spaces,
    apply .angleAddr]).Refuses input ((grammar (some policy)).Matches input) refuses p) :
    NamePlace policy input p := by
  obtain ⟨i, hphrase, h⟩ := (refuses_attempt.mp h).behind hk.asks rfl
  obtain ⟨j, hspaces, h⟩ := h.behind hk.asks rfl
  obtain ⟨k, hocms, h⟩ := h.behind hk.asks rfl
  obtain ⟨l, hspaces', hangle⟩ := h.behind hk.asks rfl
  obtain rfl := spaces_of_phrase (matches_apply.mp hphrase) (matches_apply.mp hspaces)
  refine ⟨j, k, matches_apply.mp hphrase, matches_apply.mp hocms, ?_⟩
  rcases spaces_cases (matches_apply.mp hspaces') with rfl | hb
  · exact .inr (hk.stopped (refuses_apply.mp hangle))
  · exact .inl hb

/-- **What is known of a rule whose body comes to a refusal.** -/
theorem stopped_of_body {r : Rule} (h : (body (some policy) r).Refuses input
    ((grammar (some policy)).Matches input) refuses p) : Stopped policy input p r := by
  cases r with
  | domain | group | address | valid | root | onlyAddrSpec => trivial
  | addrSpec => exact hk.specPlace h
  | route =>
    rcases refuses_andThen.mp ((refuses_attempt.mp h).front hk.asks rfl) with h | ⟨i, hi, -⟩
    · exact hk.byteAt?_of_routePart (refuses_attempt.mp h)
    · obtain ⟨j, hj, -⟩ := matches_andThen.mp (matches_attempt.mp hi)
      exact (matches_exactly.mp (Grammar.matches_body.mp (matches_apply.mp hj))).1
  | angleAddr =>
    obtain ⟨i, hi, -⟩ := (refuses_attempt.mp h).behind hk.asks rfl
    exact (matches_exactly.mp hi).1
  | mailbox =>
    rcases refuses_orElse.mp h with hspec | ⟨i, hi, hname⟩
    · exact .inl (hk.stopped (refuses_apply.mp hspec))
    · obtain rfl := (matches_apply.mp hi).eq_of_missed
      exact .inr (hk.namePlace hname)
  | _ => cases h.asks hk.asks

/-- A route that comes to a refusal, at first or later on, stops at an at sign. -/
theorem fatal_route : (body (some policy) .route).Fatal input
    ((grammar (some policy)).Matches input) refuses := by
  refine fatal_attempt (fatal_andThen_of Grammar.matches_unique (fun p i q hr hm hcolon => ?_)
    (hk.fatal_free rfl))
  obtain ⟨j, hfirst, hrest⟩ := matches_many1.mp hm
  rcases refuses_andThen.mp hr with hr | ⟨j', hj', hr⟩
  · exact hk.fatal_routePart p j (refuses_attempt.mp hr) hfirst
  · obtain ⟨-, rfl⟩ := hfirst.unique Grammar.matches_unique (matches_attempt.mp hj')
    have hat := hk.byteAt?_of_routePart
      (refuses_of_many Grammar.matches_unique hk.fatal_routePart hrest hr)
    cases hat.symm.trans (matches_exactly.mp hcolon).1

/-- Without its route, an address in angle brackets would have to begin with an at sign. -/
theorem fatal_angleAddr : (body (some policy) .angleAddr).Fatal input
    ((grammar (some policy)).Matches input) refuses := by
  have hbehind : (chain [apply Rule.ocms, apply .addrSpec, token '>']).Fatal input
      ((grammar (some policy)).Matches input) refuses :=
    fatal_andThen Grammar.matches_unique (hk.fatal_free rfl)
      (fatal_andThen Grammar.matches_unique (hk.fatal_rule _) (hk.fatal_free rfl))
  refine fatal_attempt (fatal_andThen Grammar.matches_unique (hk.fatal_free rfl)
    (fatal_andThen Grammar.matches_unique (hk.fatal_free rfl)
      (fatal_andThen_of Grammar.matches_unique (fun p i q hr hm hq => ?_) hbehind)))
  have hroute : refuses .route p := refuses_apply.mp (refuses_opt.mp hr)
  have hat : byteAt? input p = some 64 := hk.stopped hroute
  rcases matches_opt.mp hm with hm | ⟨rfl, -⟩
  · exact hk.fatal hroute (matches_apply.mp hm)
  · obtain ⟨j, hocms, hq⟩ := matches_andThen.mp hq
    obtain ⟨k, hspec, -⟩ := matches_andThen.mp hq
    obtain rfl : j = i := (ocms_cases (matches_apply.mp hocms)).resolve_right fun hb => by
      cases hat.symm.trans hb
    have hbody := Grammar.matches_body.mp (matches_apply.mp hspec)
    obtain ⟨l, hlocal, -⟩ := matches_andThen.mp (matches_attempt.mp hbody)
    have hbody := Grammar.matches_body.mp (matches_apply.mp hlocal)
    obtain ⟨m, hword, -⟩ := matches_andThen.mp (matches_attempt.mp hbody)
    exact not_word hat (by decide) (matches_apply.mp hword)

/-- A bare address that has begun is not taken for a name. -/
theorem fatal_mailbox : (body (some policy) .mailbox).Fatal input
    ((grammar (some policy)).Matches input) refuses := by
  refine fatal_orElse Grammar.matches_unique (hk.fatal_rule _) (fatal_seq Grammar.matches_unique ?_)
    fun p i q hr hi hm => ?_
  · simp [hk.fatal_rule]
  · obtain rfl := (matches_apply.mp hi).eq_of_missed
    have hplace : SpecPlace policy input i := hk.stopped (refuses_apply.mp hr)
    obtain ⟨j, hphrase, hm⟩ := matches_andThen.mp (matches_attempt.mp hm)
    obtain ⟨k, hspaces, hm⟩ := matches_andThen.mp hm
    obtain ⟨l, hocms, hm⟩ := matches_andThen.mp hm
    obtain ⟨m, hspaces', hangle⟩ := matches_andThen.mp hm
    obtain ⟨l', hocms', hstay, hl⟩ := hplace.phrase (matches_apply.mp hphrase)
    obtain ⟨-, rfl⟩ := hstay.unique (matches_apply.mp hspaces)
    obtain ⟨-, rfl⟩ := hocms'.unique (matches_apply.mp hocms)
    have hangle := byteAt?_of_angleAddr (matches_apply.mp hangle)
    rcases spaces_cases (matches_apply.mp hspaces') with rfl | hb <;> rcases hl with hl | hl
    · cases hl.symm.trans hangle
    · cases hl.symm.trans hangle
    · cases hl.symm.trans hb
    · cases hl.symm.trans hb

/-- Where a mailbox has come to a domain there is no colon behind a phrase. -/
theorem fatal_address : (body (some policy) .address).Fatal input
    ((grammar (some policy)).Matches input) refuses := by
  refine fatal_orElse Grammar.matches_unique (hk.fatal_rule _) (hk.fatal_rule _)
    fun p i q hr hi hm => ?_
  obtain rfl := (matches_apply.mp hi).eq_of_missed
  have hbody := Grammar.matches_body.mp (matches_apply.mp hm)
  obtain ⟨j, hphrase, h⟩ := matches_andThen.mp (matches_attempt.mp hbody)
  obtain ⟨k, hocms, h⟩ := matches_andThen.mp h
  obtain ⟨l, hcolon, -⟩ := matches_andThen.mp h
  have hcolon := (matches_exactly.mp hcolon).1
  rcases hk.stopped (refuses_apply.mp hr) with hplace | ⟨j', k', hphrase', hocms', hk'⟩
  · obtain ⟨k', hocms', -, hk'⟩ := hplace.phrase (matches_apply.mp hphrase)
    obtain ⟨-, rfl⟩ := hocms'.unique (matches_apply.mp hocms)
    rcases hk' with hb | hb <;> cases hb.symm.trans hcolon
  · obtain ⟨-, rfl⟩ := hphrase'.unique (matches_apply.mp hphrase)
    obtain ⟨-, rfl⟩ := hocms'.unique (matches_apply.mp hocms)
    rcases hk' with hb | hb <;> cases hb.symm.trans hcolon

/-- A group whose list comes to a refusal stops at a comma. -/
theorem fatal_group : (body (some policy) .group).Fatal input
    ((grammar (some policy)).Matches input) refuses := by
  have hitem : (chain [apply Rule.ocms, token ',', apply .ocms, apply .mailbox]).Fatal input
      ((grammar (some policy)).Matches input) refuses :=
    fatal_andThen Grammar.matches_unique (hk.fatal_free rfl)
      (fatal_andThen Grammar.matches_unique (hk.fatal_free rfl)
        (fatal_andThen Grammar.matches_unique (hk.fatal_free rfl) (hk.fatal_rule _)))
  refine fatal_attempt (fatal_andThen Grammar.matches_unique (hk.fatal_free rfl)
    (fatal_andThen Grammar.matches_unique (hk.fatal_free rfl)
      (fatal_andThen Grammar.matches_unique (hk.fatal_free rfl)
        (fatal_andThen Grammar.matches_unique (hk.fatal_free rfl)
          (fatal_andThen Grammar.matches_unique (hk.fatal_rule _)
            (fatal_andThen_of Grammar.matches_unique (fun p i q hr hm hq => ?_)
              (hk.fatal_free rfl)))))))
  have hr := refuses_of_many Grammar.matches_unique hitem hm hr
  obtain ⟨j, hocms, hr⟩ := hr.behind hk.asks rfl
  obtain ⟨k, hcomma, -⟩ := hr.behind hk.asks rfl
  obtain ⟨j', hocms', hend⟩ := matches_andThen.mp hq
  obtain ⟨-, rfl⟩ := hocms.unique Grammar.matches_unique hocms'
  cases (matches_exactly.mp hcomma).1.symm.trans (matches_exactly.mp hend).1

/-- **A refusal inside a body is fatal for it.** -/
theorem fatal_body (r : Rule) :
    (body (some policy) r).Fatal input ((grammar (some policy)).Matches input) refuses := by
  cases r with
  | route => exact hk.fatal_route
  | angleAddr => exact hk.fatal_angleAddr
  | mailbox => exact hk.fatal_mailbox
  | address => exact hk.fatal_address
  | group => exact hk.fatal_group
  | domain => exact fatal_check Grammar.matches_unique (hk.fatal_free rfl)
  | addrSpec | valid | root | onlyAddrSpec =>
    exact fatal_seq Grammar.matches_unique (by simp [hk.fatal_rule, hk.fatal_at, hk.fatal_atEnd])
  | _ => exact hk.fatal_free rfl

end Fatally

end Bodies

/-- **A legacy rule that comes to a refusal does not match.** -/
theorem not_takes_of_refuses {r : Rule} (h : (grammar (some policy)).Refuses input r p) :
    ¬Takes policy input r p q := by
  refine (h.rule_induction (P := fun r p => Stopped policy input p r ∧
    ∀ q, ¬Takes policy input r p q) fun r p hr => ?_).2 q
  have hk : Fatally policy input fun r p => (grammar (some policy)).Refuses input r p ∧
      Stopped policy input p r ∧ ∀ q, ¬Takes policy input r p q :=
    ⟨fun h => h.2.1, fun h => h.2.2 _⟩
  exact ⟨hk.stopped_of_body hr, fun q hm => hk.fatal_body r p q hr (Grammar.matches_body.mp hm)⟩

end AddressGrammar.Legacy
