import AddressGrammar.Proofs.Peg.SingleEvaluation
import AddressGrammar.Proofs.Validation.PlainCheck

/-!
# No address grammar is left-recursive

Comments, gaps, phrases and lists can all be empty or absent, so a rule of the address grammars can
reach many others before a byte is read. None of them gets back to itself that way: left calls
descend along a ranking in both grammars. What that means for the work of a run is said here about
every run, whatever rules it applies one after the other, wherever it begins, however low the bound
on nesting is and whichever domains are refused.

## Main definitions

* `Peg.Grammar.EvaluatesOnce` — runs on an input never find a rule in progress, and evaluate every
  body once

## Main results

* `evaluates_once` — both address grammars do
-/

namespace AddressGrammar

open Peg

/-- Whatever a run of the grammar does from a position of an input: it has one history, in which no
application finds its own entry in progress. So no entry is flagged, at any moment or behind the
last step, no match is grown, and over all the steps no body is begun twice at a position. -/
def Peg.Grammar.EvaluatesOnce {R : Type} [DecidableEq R] (g : Grammar R) (input : String)
    (maxDepth p : Nat) : Prop :=
  let run := Run.startAt g input maxDepth p
  ∀ steps : List (Step R), ∃ h, run.History steps h ∧ (∀ h', run.History steps h' → h' = h) ∧
    (∀ m ∈ h, ¬m.Reenters) ∧
    (∀ m ∈ h, ∀ s ∈ m.states, ∀ r q, s.memo.isReentered r q = false) ∧
    (∀ r q, (run.steps steps).2.state.memo.isReentered r q = false) ∧
    (∀ m ∈ h, ¬m.Grows run.setting) ∧
    (begunBodies h).Nodup

theorem Peg.Grammar.Ranking.evaluatesOnce {R : Type} [DecidableEq R] {g : Grammar R}
    (k : g.Ranking) (input : String) (maxDepth : Nat) {p : Nat} (hp : p ≤ input.utf8ByteSize) :
    g.EvaluatesOnce input maxDepth p := by
  intro steps
  obtain ⟨h, hh, hm, honce⟩ := k.exists_once input maxDepth hp steps
  exact ⟨h, hh, fun h' hh' => hh.unique hh', hm,
    fun m hmem s hs => (honce.unmarked m hmem s hs).isReentered_eq_false,
    honce.last.isReentered_eq_false, honce.settles, honce.nodup⟩

namespace Validation

/-- **Neither address grammar is left-recursive**, and so every body is evaluated at most once per
position, over all the steps of a run. -/
theorem evaluates_once (policy : Option Policy) (input : String) (maxDepth : Nat) {p : Nat}
    (hp : p ≤ input.utf8ByteSize) :
    (Modern.grammar policy).EvaluatesOnce input maxDepth p ∧
      (Legacy.grammar policy).EvaluatesOnce input maxDepth p :=
  ⟨(Modern.ranking policy).evaluatesOnce input maxDepth hp,
    (Legacy.ranking policy).evaluatesOnce input maxDepth hp⟩

/-- Runs that begin inside a group whose list is empty. -/
theorem evaluates_once_empty_group :
    (Modern.grammar none).EvaluatesOnce "a: (b);" 16 2 ∧
      (Legacy.grammar none).EvaluatesOnce "a: (b);" 16 2 :=
  evaluates_once none "a: (b);" 16 (by decide)

end Validation

end AddressGrammar
