import AddressGrammar.Legacy.Grammar
import AddressGrammar.Proofs.Peg.History
import AddressGrammar.Proofs.Peg.Translation

/-!
# What recognition does not depend on

A run keeps notes for those who look at it afterwards: the farthest failure with the rule that it is
charged to, how often each entry of the table was asked for, and what captures and policies reported.
None of this is ever read back by the evaluator. So two states that agree on everything else give the
same answers and go on agreeing, however much their notes differ. The states need not be ones that a
run can come to; in particular the notes may be nonsense.

## Main definitions

* `State.SameCourse` — two states agree on all but the notes

## Main results

* `recognition_ignores_notes` — expressions and rule applications, at every room for rule bodies, and
  the steps of a run
-/

namespace AddressGrammar.Peg

variable {R : Type} [DecidableEq R]

/-- Two states agree on the reading position, the depth, the mark of the bound and what is remembered
about rules. They may differ in the farthest failure, in the rules that are open, as long as there are
equally many, in the counts of requests and in the reports. -/
structure State.SameCourse (s s' : State R) : Prop where
  pos : s'.pos = s.pos
  depth : s'.depth = s.depth
  exhausted : s'.exhausted = s.exhausted
  progress : ∀ r p, s'.progress? r p = s.progress? r p

@[simp] theorem Outcome.shift_zero (o : Outcome) : o.shift 0 = o := by
  simp [shift]

@[simp] theorem Progress.shift_zero (progress : Progress) : progress.shift 0 = progress := by
  cases progress <;> simp [shift]

/-- States that differ in their notes only are the same at the same place. -/
theorem State.shifted_zero_iff {s s' : State R} : s.Shifted 0 False s' ↔ s.SameCourse s' := by
  constructor
  · intro h
    refine ⟨by rw [h.pos, Nat.zero_add], h.depth, h.exhausted, fun r p => ?_⟩
    unfold State.progress?
    obtain ⟨he, he'⟩ | ⟨e, e', he, he', hprogress, -⟩ := h.memo.lookup r p <;>
      rw [Nat.zero_add] at he'
    · rw [he, he']
    · rw [he, he', Option.map_some, Option.map_some, hprogress, Progress.shift_zero]
  · intro h
    refine ⟨by rw [h.pos, Nat.zero_add], h.depth, h.exhausted, ⟨fun r p => ?_, False.elim⟩,
      False.elim, False.elim, False.elim⟩
    have hp := h.progress r p
    unfold State.progress? at hp
    rw [Nat.zero_add]
    cases he : s.memo.get? r p <;> cases he' : s'.memo.get? r p <;> rw [he, he'] at hp
    · exact .none
    · cases hp
    · cases hp
    · exact .some ⟨(Option.some.inj hp).trans (Progress.shift_zero _).symm, False.elim⟩

/-- The same outcome in states that differ in their notes only. -/
def SameOutcome (x x' : Outcome × State R) : Prop := x'.1 = x.1 ∧ x.2.SameCourse x'.2

/-- The same answer in states that differ in their notes only. -/
def SameFlag (x x' : Bool × State R) : Prop := x'.1 = x.1 ∧ x.2.SameCourse x'.2

variable {s s' : State R}

omit [DecidableEq R] in
theorem Setting.shifted_self (cfg : Setting R) : cfg.Shifted "" cfg :=
  ⟨fun _ => rfl, (String.empty_append ..).symm, rfl⟩

/-- A rule application comes to the same, whatever the notes. -/
theorem Setting.applyWithin_sameCourse (cfg : Setting R) (h : s.SameCourse s') (n : Nat) (r : R) :
    Option.Rel SameOutcome (cfg.applyWithin n r s) (cfg.applyWithin n r s') := by
  have hrel := applyWithin_shifted cfg.shifted_self n r (State.shifted_zero_iff.mpr h)
  cases ha : cfg.applyWithin n r s <;> cases ha' : cfg.applyWithin n r s' <;>
    rw [ha, ha'] at hrel <;> cases hrel
  · exact .none
  · next hx => exact .some ⟨hx.1.trans (Outcome.shift_zero _), State.shifted_zero_iff.mp hx.2⟩

/-- An expression comes to the same, whatever the notes. -/
theorem Expr.eval_sameCourse (cfg : Setting R) (h : s.SameCourse s') (n : Nat) (e : Expr R) :
    Option.Rel SameFlag (e.eval cfg.input (cfg.callWithin n) s)
      (e.eval cfg.input (cfg.callWithin n) s') := by
  have hrel := e.eval_shifted (Setting.callWithin_shifted cfg.shifted_self n) cfg.input s s'
    (State.shifted_zero_iff.mpr h)
  rw [String.empty_append] at hrel
  cases ha : e.eval cfg.input (cfg.callWithin n) s <;>
    cases ha' : e.eval cfg.input (cfg.callWithin n) s' <;> rw [ha, ha'] at hrel <;> cases hrel
  · exact .none
  · next hx => exact .some ⟨hx.1, State.shifted_zero_iff.mp hx.2⟩

/-! ### Runs -/

/-- Two runs agree on the grammar, the input, the bound on nesting and all but the notes. -/
structure Run.SameCourse (run run' : Run R) : Prop where
  setting : run'.setting = run.setting
  state : run.state.SameCourse run'.state

/-- The same match and the same outcome. -/
def Report.SameAnswer (x x' : Report R) : Prop := x'.matched = x.matched ∧ x'.outcome? = x.outcome?

namespace Run

variable {run run' : Run R}

theorem forgetReports_sameCourse (h : run.SameCourse run') :
    run.forgetReports.SameCourse run'.forgetReports :=
  ⟨h.setting, h.state.pos, h.state.depth, h.state.exhausted, h.state.progress⟩

theorem apply_sameCourse (h : run.SameCourse run') (r : R) :
    (run'.apply r).1 = (run.apply r).1 ∧ (run.apply r).2.SameCourse (run'.apply r).2 := by
  have hrel := run.setting.applyWithin_sameCourse h.state run.setting.nestingRoom r
  unfold apply
  rw [h.setting]
  cases ha : run.setting.applyWithin run.setting.nestingRoom r run.state <;>
    cases ha' : run.setting.applyWithin run.setting.nestingRoom r run'.state <;>
    rw [ha, ha'] at hrel <;> cases hrel
  · exact ⟨congrArg Outcome.missed h.state.pos, h⟩
  · next hx => exact ⟨hx.1, ⟨rfl, hx.2⟩⟩

theorem eval_sameCourse (h : run.SameCourse run') (e : Expr R) :
    (run'.eval e).1 = (run.eval e).1 ∧ (run.eval e).2.SameCourse (run'.eval e).2 := by
  have hrel := e.eval_sameCourse run.setting h.state run.setting.nestingRoom
  rw [show e.eval run.setting.input (run.setting.callWithin run.setting.nestingRoom) run'.state =
      e.eval run'.setting.input (run'.setting.callWithin run'.setting.nestingRoom) run'.state by
    rw [h.setting]] at hrel
  cases ha : e.eval run.setting.input (run.setting.callWithin run.setting.nestingRoom) run.state <;>
    cases ha' : e.eval run'.setting.input (run'.setting.callWithin run'.setting.nestingRoom)
      run'.state <;> rw [ha, ha'] at hrel <;> cases hrel
  · rw [eval_of_none ha, eval_of_none ha']
    exact ⟨rfl, h⟩
  · next hx =>
    rw [eval_of_some ha, eval_of_some ha']
    exact ⟨hx.1, ⟨h.setting, hx.2⟩⟩

theorem parse_sameCourse (h : run.SameCourse run') (r : R) :
    (run'.parse r).1 = (run.parse r).1 ∧ (run.parse r).2.SameCourse (run'.parse r).2 := by
  obtain ⟨houtcome, hrest⟩ := apply_sameCourse h r
  rw [parse_eq, parse_eq, isExhausted, isExhausted, houtcome, hrest.state.exhausted]
  exact ⟨rfl, hrest⟩

theorem step_sameCourse (h : run.SameCourse run') (step : Step R) :
    Report.SameAnswer (run.step step).1 (run'.step step).1 ∧
      (run.step step).2.SameCourse (run'.step step).2 := by
  have hforget := forgetReports_sameCourse h
  rw [step_eq, step_eq]
  cases step with
  | root =>
    have hroot : run'.setting.grammar.root = run.setting.grammar.root := by rw [h.setting]
    dsimp only
    rw [hroot]
    obtain ⟨hmatched, hrest⟩ := parse_sameCourse hforget run.setting.grammar.root
    exact ⟨⟨hmatched, rfl⟩, hrest⟩
  | parse r =>
    obtain ⟨hmatched, hrest⟩ := parse_sameCourse hforget r
    exact ⟨⟨hmatched, rfl⟩, hrest⟩
  | result r =>
    obtain ⟨houtcome, hrest⟩ := apply_sameCourse hforget r
    exact ⟨⟨congrArg Outcome.matched houtcome, congrArg some houtcome⟩, hrest⟩
  | eval e =>
    obtain ⟨hmatched, hrest⟩ := eval_sameCourse hforget e
    exact ⟨⟨hmatched, rfl⟩, hrest⟩

/-- **Runs that differ in their notes report the same matches and outcomes**, step by step. -/
theorem steps_sameCourse (h : run.SameCourse run') (steps : List (Step R)) :
    List.Forall₂ Report.SameAnswer (run.steps steps).1 (run'.steps steps).1 ∧
      (run.steps steps).2.SameCourse (run'.steps steps).2 := by
  induction steps generalizing run run' with
  | nil => exact ⟨.nil, h⟩
  | cons step rest ih =>
    obtain ⟨hreport, hnext⟩ := step_sameCourse h step
    obtain ⟨hreports, hlast⟩ := ih hnext
    exact ⟨.cons hreport hreports, hlast⟩

end Run

/-- **Recognition ignores the notes.** Two runs agree on the grammar, the input, the bound on nesting,
the reading position, the depth, the mark of the bound and the progress of all entries, and differ as
they like in the farthest failure, the innermost rule, the counts of requests and the reports. Then
every rule application has the same outcome and every expression the same answer, and the runs agree
again afterwards. So they report the same matches and outcomes however many steps are made. Inside
rule bodies applications and expressions come to the same as well, whatever room for further bodies is
left there. If the first state is one that a run can be in, there is room enough for an outcome and an
answer from the second one too. -/
theorem recognition_ignores_notes {run run' : Run R} (h : run.SameCourse run') :
    (∀ r, (run'.apply r).1 = (run.apply r).1 ∧ (run.apply r).2.SameCourse (run'.apply r).2) ∧
    (∀ e, (run'.eval e).1 = (run.eval e).1 ∧ (run.eval e).2.SameCourse (run'.eval e).2) ∧
    (∀ steps, List.Forall₂ Report.SameAnswer (run.steps steps).1 (run'.steps steps).1 ∧
      (run.steps steps).2.SameCourse (run'.steps steps).2) ∧
    (∀ n r, Option.Rel SameOutcome (run.setting.applyWithin n r run.state)
      (run'.setting.applyWithin n r run'.state)) ∧
    (∀ n e, Option.Rel SameFlag
      (Expr.eval run.setting.input (run.setting.callWithin n) e run.state)
      (Expr.eval run'.setting.input (run'.setting.callWithin n) e run'.state)) ∧
    (run.state.Valid run.setting →
      (∀ r, (run'.setting.applyWithin run'.setting.nestingRoom r run'.state).isSome) ∧
      ∀ e, (Expr.eval run'.setting.input (run'.setting.callWithin run'.setting.nestingRoom) e
        run'.state).isSome) := by
  rw [h.setting]
  refine ⟨Run.apply_sameCourse h, Run.eval_sameCourse h, Run.steps_sameCourse h,
    run.setting.applyWithin_sameCourse h.state, Expr.eval_sameCourse run.setting h.state,
    fun hv => ⟨fun r => ?_, fun e => ?_⟩⟩
  · obtain ⟨o, t, ht⟩ := Setting.exists_applyWithin r hv (Nat.le_add_right _ _)
    rw [isSome_eq_of_rel (run.setting.applyWithin_sameCourse h.state run.setting.nestingRoom r), ht]
    rfl
  · obtain ⟨b, t, ht⟩ := Setting.exists_eval e hv
    rw [isSome_eq_of_rel (e.eval_sameCourse run.setting h.state run.setting.nestingRoom), ht]
    rfl

/-- A run inside the body of a legacy rule, at the beginning of an address whose first atom is
remembered. -/
def besideAtom (r : Legacy.Rule) (failure : FarthestFailure Legacy.Rule) (hits : Nat) :
    Run Legacy.Rule where
  setting := ⟨Legacy.grammar none, "a@b.c", 256⟩
  state := { State.initial with
    memo := MemoTable.empty.put .atom 0 ⟨.done (.hit 0 1), hits⟩
    failure
    active := OpenRules.none.push r 0 }

theorem recognition_ignores_notes_atom :
    (besideAtom .localPart none 1).SameCourse (besideAtom .group (some (.domain, 9)) 4) ∧
      ((besideAtom .group (some (.domain, 9)) 4).apply .addrSpec).1 =
        ((besideAtom .localPart none 1).apply .addrSpec).1 ∧
      ((besideAtom .localPart none 1).apply .addrSpec).1 = .hit 0 5 := by
  have h : (besideAtom .localPart none 1).SameCourse (besideAtom .group (some (.domain, 9)) 4) := by
    refine ⟨rfl, rfl, rfl, rfl, fun r p => ?_⟩
    simp only [State.progress?, besideAtom, MemoTable.get?_put]
    split <;> rfl
  exact ⟨h, ((recognition_ignores_notes h).1 .addrSpec).1, by decide +kernel⟩

end AddressGrammar.Peg
