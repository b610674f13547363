import AddressGrammar.Proofs.Peg.Preservation
import AddressGrammar.Validation.Validator

/-!
# What a check says

A check applies its rule once, at the beginning of a fresh run, and looks at where that leaves the
run. What it says is therefore a function of the match and of the final state: it accepts if the
rule took the whole input below the bound on nesting, and otherwise gives up or blames a rule at an
offset.

## Main definitions

* `blame` — the rule and the offset that explain a rejection
* `verdict` — what a check says of a match and a final state

## Main results

* `exists_verdict` — a check says what the application of its rule leads to
* `verdict_eq_ok_iff`, `verdict_eq_tooDeep_iff`, `verdict_eq_mismatch_iff` — the three answers
* `exists_taken_of_maintains`, `exists_taken` — a rule takes what a check accepts, as far as rules
  preserve such a thing
-/

namespace AddressGrammar.Validation

open Text Peg

variable {R : Type}

theorem isOk_iff {r : Except ParseError Unit} : r.isOk = true ↔ r = .ok () := by
  cases r with
  | ok u => exact ⟨fun _ => rfl, fun _ => rfl⟩
  | error e => exact ⟨nofun, nofun⟩

/-- The rule and the offset that explain why a rule did not take the whole input. -/
def blame (rule : R) (matched : Bool) (t : State R) : R × Nat :=
  match t.failure with
  | some (failed, offset) =>
    if !matched || decide (t.pos ≤ offset) then (failed, offset) else (rule, t.pos)
  | none => (rule, t.pos)

/-- What a check says of a rule that matched or not and left a state behind. -/
def verdict (g : Grammar R) (input : String) (maxDepth : Nat) (rule : R) (matched : Bool)
    (t : State R) : Except ParseError Unit :=
  if (matched && !t.exhausted) && (byteAt? input t.pos).isNone then .ok ()
  else if t.exhausted then .error (.tooDeep maxDepth)
  else
    let (failed, offset) := blame rule matched t
    .error (.mismatch (.locate input offset (g.name failed) (g.production failed)))

variable {g : Grammar R} {input : String} {maxDepth : Nat} {rule : R} {matched : Bool} {t : State R}

theorem verdict_eq_ok_iff : verdict g input maxDepth rule matched t = .ok () ↔
    matched = true ∧ t.exhausted = false ∧ input.utf8ByteSize ≤ t.pos := by
  have hend : (byteAt? input t.pos).isNone = true ↔ input.utf8ByteSize ≤ t.pos := by
    rw [Option.isNone_iff_eq_none, byteAt?_eq_none_iff]
  unfold verdict
  split
  · next h => simpa [hend, and_assoc] using h
  · next h =>
    refine ⟨fun hok => ?_, fun hall => absurd (by simpa [hend, and_assoc] using hall) h⟩
    split at hok <;> cases hok

theorem verdict_eq_tooDeep_iff {limit : Nat} :
    verdict g input maxDepth rule matched t = .error (.tooDeep limit) ↔
      t.exhausted = true ∧ maxDepth = limit := by
  unfold verdict
  cases t.exhausted with
  | true => simp
  | false =>
    split <;> simp

theorem verdict_eq_mismatch_iff {d : Diagnostic} :
    verdict g input maxDepth rule matched t = .error (.mismatch d) ↔
      t.exhausted = false ∧ (matched = true → t.pos < input.utf8ByteSize) ∧
        d = .locate input (blame rule matched t).2 (g.name (blame rule matched t).1)
          (g.production (blame rule matched t).1) := by
  have hend : (byteAt? input t.pos).isNone = true ↔ input.utf8ByteSize ≤ t.pos := by
    rw [Option.isNone_iff_eq_none, byteAt?_eq_none_iff]
  unfold verdict
  cases t.exhausted with
  | true => simp
  | false =>
    by_cases h : (matched && !false) && (byteAt? input t.pos).isNone
    · rw [if_pos h]
      simp only [Bool.and_eq_true, hend] at h
      simp [h.1.1, Nat.not_lt_of_le h.2]
    · rw [if_neg h]
      have hlt : matched = true → t.pos < input.utf8ByteSize := by
        intro hm
        refine Nat.lt_of_not_le fun hle => h ?_
        simp [hm, hend.mpr hle]
      simp only [Bool.false_eq_true, ↓reduceIte, Except.error.injEq, ParseError.mismatch.injEq,
        true_and]
      exact ⟨fun hd => ⟨hlt, hd.symm⟩, fun hd => hd.2.symm⟩

variable [DecidableEq R]

/-- **A check says what the application of its rule leads to.** -/
theorem exists_verdict (input : String) (maxDepth : Nat) {name : String}
    (hr : g.ruleNamed? name = some rule) :
    ∃ o t h, Derives ⟨g, input, maxDepth⟩ (.rule rule .initial o t) h ∧
      checkWhole g maxDepth name input = verdict g input maxDepth rule o.matched t := by
  obtain ⟨o, t, h, heq, hd⟩ := (Run.start g input maxDepth).exists_apply (Run.valid_start ..) rule
  refine ⟨o, t, h, hd, ?_⟩
  simp only [checkWhole, hr, Run.parse, heq, verdict, Run.isExhausted]
  cases t.exhausted with
  | true => simp
  | false =>
    simp only [Bool.not_false, Bool.and_true]
    rfl

/-- A check against a rule that the grammar does not have says so. -/
theorem checkWhole_of_ruleNamed? {name : String} (hr : g.ruleNamed? name = none) :
    checkWhole g maxDepth name input = .error (.unknownRule name) := by
  simp [checkWhole, hr]

/-- **What a check accepts is taken by its rule.** -/
theorem exists_taken_of_maintains {Q : R → Nat → Nat → Prop}
    (hc : (⟨g, input, maxDepth⟩ : Setting R).Maintains (Allows input Q)) {name : String}
    (hok : checkWhole g maxDepth name input = .ok ()) :
    ∃ r, g.ruleNamed? name = some r ∧ Q r 0 input.utf8ByteSize := by
  cases hr : g.ruleNamed? name with
  | none =>
    rw [checkWhole_of_ruleNamed? hr] at hok
    cases hok
  | some r =>
    obtain ⟨o, t, h, hd, hverdict⟩ := exists_verdict input maxDepth hr
    obtain ⟨hb, -, hend⟩ := verdict_eq_ok_iff.mp (hverdict.symm.trans hok)
    obtain ⟨-, -, ⟨hadv, htaken⟩, hpos⟩ := hd.maintains hc (.initial 0)
    have hstop : o.stop = input.utf8ByteSize :=
      Nat.le_antisymm (hadv.le_size (Nat.zero_le _)) (hpos ▸ hend)
    exact ⟨r, rfl, hstop ▸ htaken hb⟩

/-- So it is if matches of bodies decide what rules take. -/
theorem exists_taken {Q : R → Nat → Nat → Prop} (hg : g.Preserves input (Allows input Q)) {name : String}
    (hok : checkWhole g maxDepth name input = .ok ()) :
    ∃ r, g.ruleNamed? name = some r ∧ Q r 0 input.utf8ByteSize :=
  exists_taken_of_maintains (Grammar.Preserves.maintains hg) hok

end AddressGrammar.Validation
