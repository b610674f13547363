import AddressGrammar.Proofs.Legacy.SpacedAddresses
import AddressGrammar.Validation.Shorthands

/-!
# Comments between the tokens of legacy addresses

A check of a bare legacy address with comments in it comes to a verdict without the bound on nesting
if that leaves room for the comments inside one another. The verdict depends on one thing, where the
comments stand: a comment between a token and a dot is accepted only behind the first token of its
side. Between the members of a group the grammar asks for comments in front of each comma, but it does
not do so in front of each dot.

## Main results

* `checkWhole_ne_tooDeep` — a derivation that stays below the bound settles a check
* `spaced_addresses` — which legacy addresses with comments in them are accepted
* `not_accepts_comments` — not all of them
-/

namespace AddressGrammar.Validation

open Text Peg Legacy

/-- **A derivation of the verdict that stays below the bound settles a check.** -/
theorem checkWhole_ne_tooDeep {R : Type} [DecidableEq R] {g : Grammar R} (k : g.Ranking)
    {maxDepth n q : Nat} {name input : String} {rule : R} {b : Bool}
    (hr : g.ruleNamed? name = some rule) (hm : g.MatchesWithin input n rule 0 b q)
    (hn : n ≤ maxDepth) (limit : Nat) : checkWhole g maxDepth name input ≠ .error (.tooDeep limit) := by
  obtain ⟨o, t, h, hd, hverdict⟩ := exists_verdict input maxDepth hr
  have hx : t.exhausted = false :=
    hd.stays_below rfl (plain_of_derives k hd).1 .initial (State.valid_initial _) n b q hm
      (Nat.le_trans (Nat.le_of_eq (Nat.zero_add n)) hn)
  rw [hverdict]
  intro hdeep
  cases hx.symm.trans (verdict_eq_tooDeep_iff.mp hdeep).1

section Spaced

variable {words hosts : List Spaced} {n : Nat} {v : Validator}

/-- Words in front of the at sign, two parts of a domain at least behind it, and comments. -/
structure IsSpaced (n : Nat) (words hosts : List Spaced) : Prop where
  words_ne_nil : words ≠ []
  two_le : 2 ≤ hosts.length
  words : ∀ x ∈ words, x.Proper IsWord n
  hosts : ∀ x ∈ hosts, x.Proper IsHostPart n

/-- The verdict on such a text in the plain meaning of the grammar. -/
theorem IsSpaced.exists_within (h : IsSpaced n words hosts) :
    ∃ b q, (Legacy.grammar none).MatchesWithin (spacedText words hosts) (n + 9) .onlyAddrSpec 0 b q ∧
      (b = true ↔ DotsFlush words ∧ DotsFlush hosts) ∧
      (b = true → q = (spacedText words hosts).utf8ByteSize) := by
  obtain ⟨w, ws, rfl⟩ := List.exists_cons_of_ne_nil h.words_ne_nil
  have htwo := h.two_le
  cases hosts with
  | nil => cases htwo
  | cons x xs =>
    refine within_onlyAddrSpec h.words h.hosts ?_ rfl
    rintro rfl
    exact absurd htwo (Nat.not_succ_le_self 1)

/-- A check for bare legacy addresses, host names or not, with any bound on nesting. -/
theorem check_legacy_addrSpec (hkind : v.syntaxKind = .legacy) (hstart : v.startRule = .addrSpec)
    (hdomain : v.validateDomain = false) (text : String) :
    v.check text = checkWhole (Legacy.grammar none) v.maxDepth StartRule.addrSpec.ruleName text := by
  rw [Validator.check, Validator.checkRule, Validator.policy, hkind, hstart, hdomain]
  rfl

/-- **Comments nested below the bound settle a check.** -/
theorem IsSpaced.ne_tooDeep (h : IsSpaced n words hosts) {maxDepth : Nat} (hn : n + 9 ≤ maxDepth)
    (limit : Nat) :
    checkWhole (Legacy.grammar none) maxDepth StartRule.addrSpec.ruleName (spacedText words hosts) ≠
      .error (.tooDeep limit) := by
  obtain ⟨b, q, hm, -⟩ := h.exists_within
  exact checkWhole_ne_tooDeep (Legacy.ranking none) (ruleNamed?_legacy_addrSpec none) hm hn limit

/-- **A settled check accepts comments if dots are flush.** -/
theorem IsSpaced.checkWhole_iff (h : IsSpaced n words hosts) {maxDepth : Nat}
    (hdeep : ∀ limit, checkWhole (Legacy.grammar none) maxDepth StartRule.addrSpec.ruleName
      (spacedText words hosts) ≠ .error (.tooDeep limit)) :
    checkWhole (Legacy.grammar none) maxDepth StartRule.addrSpec.ruleName (spacedText words hosts) =
        .ok () ↔ DotsFlush words ∧ DotsFlush hosts := by
  obtain ⟨b, q, hm, hb, hq⟩ := h.exists_within
  refine (checkWhole_eq_ok_iff (Legacy.ranking none) hdeep).trans
    ((Grammar.matchesWhole_iff (ruleNamed?_legacy_addrSpec none)).trans (Iff.trans ⟨fun hwhole => ?_,
      fun htrue => ?_⟩ hb))
  · exact (hwhole.unique hm.matches).1
  · subst htrue
    exact hq rfl ▸ hm.matches

end Spaced

/-- Words of one letter, with comments behind the first two. -/
theorem isSpaced_letters (first second : List String) (hfirst : ∀ c ∈ first, IsComment 0 c)
    (hsecond : ∀ c ∈ second, IsComment 0 c) :
    IsSpaced 0 [⟨[], "a", first⟩, ⟨[], "b", second⟩, ⟨[], "d", []⟩] [⟨[], "e", []⟩, ⟨[], "f", []⟩] where
  words_ne_nil := nofun
  two_le := Nat.le_refl 2
  words := by
    have hrun : ∀ t ∈ ["a", "b", "d"], IsRun t := by decide
    simp only [List.forall_mem_cons] at hrun ⊢
    exact ⟨⟨nofun, .inl hrun.1, hfirst⟩, ⟨nofun, .inl hrun.2.1, hsecond⟩,
      ⟨nofun, .inl hrun.2.2.1, nofun⟩, nofun⟩
  hosts := by
    have hrun : ∀ t ∈ ["e", "f"], IsRun t := by decide
    simp only [List.forall_mem_cons] at hrun ⊢
    exact ⟨⟨nofun, .inl hrun.1, nofun⟩, ⟨nofun, .inl hrun.2.1, nofun⟩, nofun⟩

theorem isComment_letter : ∀ c ∈ ["(c)"], IsComment 0 c :=
  List.forall_mem_singleton.mpr ⟨[99], .plain (by decide) .nil, rfl⟩

/-- **Comments between the tokens of legacy addresses.** Take words with dots between them, an at sign,
and two or more parts of a domain with dots between them, and put comments in front of and behind each
token. Without a policy on domains, and unless the bound on nesting is hit, such a text is accepted as
a bare legacy address if and only if no comment stands between a token and a dot, except behind the
first token of each side. The bound on nesting is not hit if it exceeds the nesting of the comments in
one another by nine or more. -/
theorem spaced_addresses (words hosts : List Spaced) (n : Nat) (h : IsSpaced n words hosts) :
    (∀ v : Validator, v.syntaxKind = .legacy → v.startRule = .addrSpec → v.validateDomain = false →
      ((∀ limit, v.check (spacedText words hosts) ≠ .error (.tooDeep limit)) →
        (v.validate (spacedText words hosts) = true ↔ DotsFlush words ∧ DotsFlush hosts)) ∧
      (n + 9 ≤ v.maxDepth →
        ∀ limit, v.check (spacedText words hosts) ≠ .error (.tooDeep limit))) ∧
    (n < 248 → (isLegacyAddrSpec (spacedText words hosts) false = true ↔
      DotsFlush words ∧ DotsFlush hosts)) := by
  have hchecks : ∀ v : Validator, v.syntaxKind = .legacy → v.startRule = .addrSpec →
      v.validateDomain = false →
      ((∀ limit, v.check (spacedText words hosts) ≠ .error (.tooDeep limit)) →
        (v.validate (spacedText words hosts) = true ↔ DotsFlush words ∧ DotsFlush hosts)) ∧
      (n + 9 ≤ v.maxDepth →
        ∀ limit, v.check (spacedText words hosts) ≠ .error (.tooDeep limit)) := by
    intro v hkind hstart hdomain
    rw [Validator.validate, isOk_iff, check_legacy_addrSpec hkind hstart hdomain]
    exact ⟨h.checkWhole_iff, h.ne_tooDeep⟩
  refine ⟨hchecks, fun hn => ?_⟩
  obtain ⟨hverdict, hsettled⟩ := hchecks (Validator.legacy.addrSpecOnly true) rfl rfl rfl
  have hdepth : (Validator.legacy.addrSpecOnly true).maxDepth = 256 := rfl
  exact hverdict (hsettled (by omega))

/-- A comment behind the first word. -/
theorem spaced_addresses_letters :
    IsSpaced 0 [⟨[], "a", ["(c)"]⟩, ⟨[], "b", []⟩, ⟨[], "d", []⟩] [⟨[], "e", []⟩, ⟨[], "f", []⟩] ∧
      isLegacyAddrSpec "a(c).b.d@e.f" false = true := by
  have h := isSpaced_letters ["(c)"] [] isComment_letter nofun
  exact ⟨h, ((spaced_addresses _ _ 0 h).2 (by decide)).mpr (by decide)⟩

/-- **Not all comments between tokens are accepted**, although nothing is nested too deeply: there is
one behind the second word of `a.b(c).d@e.f`, in front of a dot. -/
theorem not_accepts_comments :
    ¬∀ (words hosts : List Spaced) (n : Nat), IsSpaced n words hosts →
      (∀ limit, (Validator.legacy.addrSpecOnly true).check (spacedText words hosts) ≠
        .error (.tooDeep limit)) →
      isLegacyAddrSpec (spacedText words hosts) false = true := by
  intro hall
  have h := isSpaced_letters [] ["(c)"] nofun isComment_letter
  have hdeep : 0 + 9 ≤ (Validator.legacy.addrSpecOnly true).maxDepth := by decide
  have hrejected : isLegacyAddrSpec "a.b(c).d@e.f" false = false := by decide +kernel
  cases hrejected.symm.trans (hall _ _ 0 h (h.ne_tooDeep hdeep))

end AddressGrammar.Validation
