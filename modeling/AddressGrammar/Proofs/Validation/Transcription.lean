import AddressGrammar.Proofs.Notation.Shapes
import AddressGrammar.Proofs.Validation.Verdict

/-!
# The address grammars transcribe their productions

Every rule has two definitions: the parsing expression that is run and the production that is shown.
The two are written down apart from each other, a byte class here and its spelling there, so nothing
makes them agree. They do. Whatever a rule takes, in whatever run, its production derives, with all
choices free and nothing committed. The converse does not hold: greedy repetition and ordered choice
reject words that the productions derive.

## Main definitions

* `Peg.Grammar.Transcribes` — runs take words only that productions derive
* `Validation.Validator.Derives` — the production of the rule of a name derives a whole input

## Main results

* `transcribes_of_follows` — bodies in the shape of productions are enough
* `derivable_of_taken` — the address grammars transcribe their productions, and what a validator
  accepts is in the language of its rule
-/

namespace AddressGrammar

open Text Peg Notation

/-- The productions are the ones that the grammar shows, and in a run from any place of any input,
whatever its steps and its bound on nesting are, the words that rules take are derived from them. -/
structure Peg.Grammar.Transcribes {R : Type} [DecidableEq R] (g : Grammar R)
    (production : R → Production R) : Prop where
  shown : ∀ r, g.production r = (production r).render g.name
  derived : ∀ input d p steps, p ≤ input.utf8ByteSize →
    ∃ h, (Run.startAt g input d p).History steps h ∧
      ∀ r s o t, .answered r s o t ∈ h → o.matched = true →
        (production r).Yields production (bytesBetween input s.pos o.stop)

namespace Validation

/-- The production of the rule of that name derives the whole input, in the grammar that applies. -/
def Validator.Derives (v : Validator) (name input : String) : Prop :=
  match v.syntaxKind with
  | .modern => ∃ r, (Modern.grammar v.policy).ruleNamed? name = some r ∧
      r.production.Yields Modern.Rule.production (bytes input)
  | .legacy => ∃ r, (Legacy.grammar v.policy).ruleNamed? name = some r ∧
      r.production.Yields Legacy.Rule.production (bytes input)

section Grammars

variable {R : Type} {g : Grammar R} {production : R → Production R}

theorem yields_of_rule {r : R} {w : List UInt8} (h : (Production.rule r).Yields production w) :
    (production r).Yields production w := by
  cases h with
  | rule h => exact h

variable [DecidableEq R]

/-- **A grammar in the shape of the productions that it shows transcribes them.** -/
theorem transcribes_of_follows (hshown : ∀ r, g.production r = (production r).render g.name)
    (hg : ∀ r, (g.body r).follows (production r) = true) : g.Transcribes production := by
  refine ⟨hshown, fun input d p steps hp => ?_⟩
  obtain ⟨h, hh, hm⟩ := Run.exists_satisfying (Grammar.preserves_yields hg input) hp d steps
  exact ⟨h, hh, fun r s o t hmem hb => yields_of_rule ((hm _ hmem).1.taken hb)⟩

/-- What a check accepts is derived from the production of its rule. -/
theorem yields_of_checkWhole (hg : ∀ r, (g.body r).follows (production r) = true) {d : Nat}
    {name input : String} (hok : checkWhole g d name input = .ok ()) :
    ∃ r, g.ruleNamed? name = some r ∧ (production r).Yields production (bytes input) := by
  obtain ⟨r, hr, htaken⟩ := exists_taken (Grammar.preserves_yields hg input) hok
  rw [Derivable, bytesBetween_all] at htaken
  exact ⟨r, hr, yields_of_rule htaken⟩

end Grammars

theorem derives_of_checkRule (v : Validator) {name input : String}
    (hok : v.checkRule name input = .ok ()) : v.Derives name input := by
  unfold Validator.checkRule at hok
  unfold Validator.Derives
  cases hkind : v.syntaxKind with
  | modern =>
    rw [hkind] at hok
    exact yields_of_checkWhole (Modern.follows_body v.policy) hok
  | legacy =>
    rw [hkind] at hok
    exact yields_of_checkWhole (Legacy.follows_body v.policy) hok

/-- **What the address grammars take is derivable from their productions.** In both grammars, under
any policy on domains, the words that rules take in any run are derived from the productions of these
rules, and the inputs that a validator accepts are words of the rule that it starts with, or of the
rule that it was asked for. -/
theorem derivable_of_taken :
    (∀ policy, (Modern.grammar policy).Transcribes Modern.Rule.production) ∧
      (∀ policy, (Legacy.grammar policy).Transcribes Legacy.Rule.production) ∧
        ∀ (v : Validator) (input : String),
          (∀ name, v.validateRule name input = true → v.Derives name input) ∧
            (v.validate input = true → v.Derives v.startRule.ruleName input) :=
  ⟨fun policy => transcribes_of_follows (fun _ => rfl) (Modern.follows_body policy),
    fun policy => transcribes_of_follows (fun _ => rfl) (Legacy.follows_body policy),
    fun v _ => ⟨fun _ hok => derives_of_checkRule v (isOk_iff.mp hok),
      fun hok => derives_of_checkRule v (isOk_iff.mp hok)⟩⟩

/-- A short address, and a domain behind it. Not every word is derivable. -/
theorem derivable_of_taken_short_address :
    Validator.modern.validate "a@b" = true ∧ Validator.modern.Derives "root" "a@b" ∧
    (∃ h, (Run.startAt (Legacy.grammar none) "x@a.b" 3 2).History [.result .domain] h ∧
      ∀ r s o t, .answered r s o t ∈ h → o.matched = true →
        r.production.Yields Legacy.Rule.production (bytesBetween "x@a.b" s.pos o.stop)) ∧
    ¬Modern.Rule.digit.production.Yields Modern.Rule.production (bytes "a") := by
  obtain ⟨-, hlegacy, hchecks⟩ := derivable_of_taken
  have hok : Validator.modern.validate "a@b" = true := by decide +kernel
  refine ⟨hok, (hchecks _ _).2 hok, (hlegacy none).derived _ _ _ _ (by decide), fun h => ?_⟩
  cases h with
  | terminal h => exact absurd h (by decide +kernel)

end Validation

end AddressGrammar
