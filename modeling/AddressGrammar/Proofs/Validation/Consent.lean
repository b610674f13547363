import AddressGrammar.Proofs.Peg.Consent
import AddressGrammar.Proofs.Validation.AsciiOnly
import AddressGrammar.Proofs.Validation.PlainCheck

/-!
# A policy on domains that accepts every text

In both address grammars the forms of a domain that a policy is asked about read bytes below 128,
and at least one. So there is always a text to ask about, and a policy that accepts every text leaves
no trace but the reports that it was asked: it costs no depth, no entry and no count, and records no
failure.

The grammars ask in different ways. The modern one checks what a rule takes, the legacy one checks a
sequence and has to put the position back where the sequence fails, with a policy or without.

## Main results

* `Modern.frees_body`, `Legacy.frees_body` — the grammars differ in such checks only
* `accepting_policy_invisible` — a run shows the same with such a policy and without one
-/

namespace AddressGrammar

open Peg

theorem Modern.frees_body (policy : Policy) (r : Rule) :
    ((grammar (some policy)).body r).Frees policy (ranking (some policy)).null
      ((grammar none).body r) := by
  show (body (some policy) r).Frees policy mayBeEmpty (body none r)
  cases r with
  | domain => exact .orElse (.rule rfl) (.orElse .apply (.rule rfl))
  | _ => exact .refl _

theorem Legacy.frees_body (policy : Policy) (r : Rule) :
    ((grammar (some policy)).body r).Frees policy (ranking (some policy)).null
      ((grammar none).body r) := by
  show (body (some policy) r).Frees policy mayBeEmpty (body none r)
  cases r with
  | domain => exact .whole (.refl _) rfl rfl
  | _ => exact .refl _

namespace Validation

/-- **A policy that accepts every text is invisible.** In both grammars, on every input, below any
bound on nesting and after any steps and changes of position, a run with such a policy on domains
looks like the run without one: the position, the table with its counts, the farthest failure and
the mark of the bound are the same, and so is what any further step answers and reports. -/
theorem accepting_policy_invisible (policy : Policy) (haccepts : ∀ text, policy.accepts text = true)
    (input : String) (maxDepth : Nat) :
    (∀ moves : List (Move Modern.Rule), (∀ m ∈ moves, m.Inside input.utf8ByteSize) →
      ((Run.start (Modern.grammar (some policy)) input maxDepth).moves moves).LooksLike policy
        ((Run.start (Modern.grammar none) input maxDepth).moves moves)) ∧
    ∀ moves : List (Move Legacy.Rule), (∀ m ∈ moves, m.Inside input.utf8ByteSize) →
      ((Run.start (Legacy.grammar (some policy)) input maxDepth).moves moves).LooksLike policy
        ((Run.start (Legacy.grammar none) input maxDepth).moves moves) := by
  constructor
  · intro moves hin
    have hstart := Run.Freed.start (Modern.ranking (some policy)) haccepts
      (Modern.coveredAscii_body (some policy)) (Modern.frees_body policy) rfl input maxDepth
    exact (hstart.moves hin).looksLike
  · intro moves hin
    have hstart := Run.Freed.start (Legacy.ranking (some policy)) haccepts
      (Legacy.coveredAscii_body (some policy)) (Legacy.frees_body policy) rfl input maxDepth
    exact (hstart.moves hin).looksLike

/-- A legacy domain, asked for behind a look into the middle of a letter. -/
theorem accepting_policy_invisible_accent :
    let policy : Policy := ⟨"any", fun _ => true⟩
    let moves := [Move.restore 1, .make .root, .restore 3]
    let run := (Run.start (Legacy.grammar (some policy)) "é@a.b" 16).moves moves
    let plain := (Run.start (Legacy.grammar none) "é@a.b" 16).moves moves
    (∀ text, policy.accepts text = true) ∧ (∀ m ∈ moves, m.Inside "é@a.b".utf8ByteSize) ∧
      (run.step (.result .domain)).1.outcome? = some (.hit 3 6) ∧
      (run.step (.result .domain)).1.Agrees policy (plain.step (.result .domain)).1 := by
  intro policy moves run plain
  have haccepts : ∀ text, policy.accepts text = true := fun _ => rfl
  have hin : ∀ m ∈ moves, m.Inside "é@a.b".utf8ByteSize := by decide
  have hlook := (accepting_policy_invisible policy haccepts "é@a.b" 16).2 moves hin
  exact ⟨haccepts, hin, by decide, hlook.reports (.result .domain)⟩

end Validation

end AddressGrammar
