import AddressGrammar.Proofs.Peg.Headroom
import AddressGrammar.Proofs.Validation.Verdict

/-!
# Checks under a larger bound

Raising the bound on nesting settles inputs that were too deep before and changes nothing else: what
a run answered, and what a check said of an input, stays as it was.

## Main results

* `checkWhole_raised` — a check that is not too deep says the same under a larger bound
* `settled_of_le` — the same for the steps of any run and for the checks of every validator
-/

namespace AddressGrammar.Validation

open Peg

section Checks

variable {R : Type} {g : Grammar R} {d d' : Nat} {name input : String}

/-- The bound shows in what a check says only if it was hit. -/
theorem verdict_congr {rule : R} {matched : Bool} {t : State R} (hx : t.exhausted = false) :
    verdict g input d' rule matched t = verdict g input d rule matched t := by
  simp only [verdict, hx, Bool.false_eq_true, ↓reduceIte]

variable [DecidableEq R]

/-- **A check that is not too deep says the same under a larger bound.** -/
theorem checkWhole_raised (hle : d ≤ d')
    (hdeep : ∀ limit, checkWhole g d name input ≠ .error (.tooDeep limit)) :
    checkWhole g d' name input = checkWhole g d name input := by
  cases hr : g.ruleNamed? name with
  | none => rw [checkWhole_of_ruleNamed? hr, checkWhole_of_ruleNamed? hr]
  | some rule =>
    obtain ⟨o, t, h, hd, hverdict⟩ := exists_verdict input d hr
    obtain ⟨o', t', h', hd', hverdict'⟩ := exists_verdict input d' hr
    have hx : t.exhausted = false := by
      refine Bool.eq_false_iff.mpr fun hx => hdeep d ?_
      rw [hverdict]
      exact verdict_eq_tooDeep_iff.mpr ⟨hx, rfl⟩
    obtain ⟨rfl, rfl, -⟩ := (hd.withMaxDepth (d := d') hle hx).determined _ _ _ hd'
    rw [hverdict, hverdict', verdict_congr hx]

/-- A check that gives up names its own bound. -/
theorem limit_eq_of_checkWhole {limit : Nat}
    (h : checkWhole g d name input = .error (.tooDeep limit)) : limit = d := by
  cases hr : g.ruleNamed? name with
  | none =>
    rw [checkWhole_of_ruleNamed? hr] at h
    cases h
  | some rule =>
    obtain ⟨o, t, -, -, hverdict⟩ := exists_verdict input d hr
    rw [hverdict] at h
    exact (verdict_eq_tooDeep_iff.mp h).2.symm

/-- A check that is too deep is too deep under every smaller bound. -/
theorem checkWhole_lowered (hle : d ≤ d') {limit : Nat}
    (h : checkWhole g d' name input = .error (.tooDeep limit)) :
    checkWhole g d name input = .error (.tooDeep d) := by
  by_contra hne
  have hdeep : ∀ limit, checkWhole g d name input ≠ .error (.tooDeep limit) := by
    intro limit hd
    exact hne (limit_eq_of_checkWhole hd ▸ hd)
  exact hdeep limit ((checkWhole_raised hle hdeep).symm.trans h)

end Checks

/-- **A larger bound never changes a settled answer.** If a run has not hit its bound at the end,
then under every larger bound each step reports the same and leads to the same state: position,
entries with their hits, failure and the rest. A check that is not too deep says the same under every
larger bound, and one that is too deep is so under every smaller bound. -/
theorem settled_of_le :
    (∀ {R : Type} [DecidableEq R] (g : Grammar R) (input : String) (d d' : Nat)
      (steps : List (Step R)), d ≤ d' →
      let run := Run.start g input d
      let run' := Run.start g input d'
      (run.steps steps).2.isExhausted = false →
        ∀ first rest, steps = first ++ rest →
          (run'.steps first).1 = (run.steps first).1 ∧
          (run'.steps first).2.state = (run.steps first).2.state ∧
          (run'.steps first).2.isExhausted = false) ∧
    ∀ (v : Validator) (d' : Nat) (name input : String), v.maxDepth ≤ d' →
      let v' : Validator := { v with maxDepth := d' }
      ((∀ limit, v.checkRule name input ≠ .error (.tooDeep limit)) →
        v'.checkRule name input = v.checkRule name input) ∧
      ((∃ limit, v'.checkRule name input = .error (.tooDeep limit)) →
        v.checkRule name input = .error (.tooDeep v.maxDepth)) := by
  constructor
  · intro R _ g input d d' steps hle run run' hx first rest hsteps
    have hv : run.state.Valid run.setting := Run.valid_start g input d
    have hfirst : (run.steps first).2.isExhausted = false :=
      Run.not_exhausted_first hv (hsteps ▸ hx)
    have heq : run'.steps first = ((run.steps first).1, (run.steps first).2.withMaxDepth d') :=
      Run.steps_withMaxDepth hv hle hfirst
    rw [heq]
    exact ⟨rfl, rfl, hfirst⟩
  · intro v d' name input hle v'
    refine ⟨fun hdeep => ?_, fun ⟨limit, hdeep'⟩ => ?_⟩
    · unfold Validator.checkRule at hdeep ⊢
      cases hs : v.syntaxKind with
      | modern | legacy =>
        simp only [v', Validator.policy, hs] at hdeep ⊢
        exact checkWhole_raised hle hdeep
    · unfold Validator.checkRule at hdeep' ⊢
      cases hs : v.syntaxKind with
      | modern | legacy =>
        simp only [v', Validator.policy, hs] at hdeep' ⊢
        exact checkWhole_lowered hle hdeep'

/-- Twelve bodies inside one another are enough for a short address and eleven are not. -/
theorem settled_of_le_short_address :
    let run := Run.start (Modern.grammar none) "a@b" 12
    let run' := Run.start (Modern.grammar none) "a@b" 256
    let v : Validator := { Validator.modern with maxDepth := 12 }
    (run'.steps [.root]).2.state = (run.steps [.root]).2.state ∧
    { v with maxDepth := 256 }.checkRule "root" "a@b" = v.checkRule "root" "a@b" ∧
    { v with maxDepth := 3 }.checkRule "root" "a@b" = .error (.tooDeep 3) := by
  obtain ⟨hruns, hchecks⟩ := settled_of_le
  refine ⟨?_, ?_, ?_⟩
  · have hx : ((Run.start (Modern.grammar none) "a@b" 12).steps [.root, .root]).2.isExhausted = false := by
      decide +kernel
    exact (hruns (Modern.grammar none) "a@b" 12 256 [.root, .root] (by decide) hx [.root] [.root]
      rfl).2.1
  · refine (hchecks { Validator.modern with maxDepth := 12 } 256 "root" "a@b" (by decide)).1 fun l hl => ?_
    have hok : ({ Validator.modern with maxDepth := 12 }.checkRule "root" "a@b").isOk = true := by
      decide +kernel
    rw [hl] at hok
    cases hok
  · refine (hchecks { Validator.modern with maxDepth := 3 } 11 "root" "a@b" (by decide)).2 ⟨11, ?_⟩
    decide +kernel

end AddressGrammar.Validation
