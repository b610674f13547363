import AddressGrammar.Proofs.Peg.History

/-!
# A larger bound on nesting

An evaluation that ends without having hit the bound goes the same way under any larger bound: with
the same answers, through the same states and with the same history. The bound is asked about at one
place only, where a rule without an entry is applied. There a body is opened under the larger bound
as well; and the one thing that would change, a refusal, leaves the mark that the bound was hit,
which is never taken back.

A table under a larger bound is therefore the same table, down to the counts of its entries. That is
more than `Derives.with_room` tells, which compares states up to what rules depend on and allows the
second run to have other rules open.

## Main definitions

* `Setting.withMaxDepth`, `Run.withMaxDepth` — the same under another bound

## Main results

* `Derives.withMaxDepth` — evaluations under a larger bound
* `Run.steps_withMaxDepth` — runs under a larger bound
-/

namespace AddressGrammar.Peg

variable {R : Type} {cfg : Setting R}

/-- The setting with another bound on nesting. -/
def Setting.withMaxDepth (cfg : Setting R) (d : Nat) : Setting R := { cfg with maxDepth := d }

/-- The run with another bound on nesting. -/
def Run.withMaxDepth (run : Run R) (d : Nat) : Run R :=
  { run with setting := run.setting.withMaxDepth d }

@[simp] theorem Run.isExhausted_withMaxDepth (run : Run R) (d : Nat) :
    (run.withMaxDepth d).isExhausted = run.isExhausted := rfl

variable [DecidableEq R]

/-- **An evaluation that does not hit the bound is the same under a larger one.** -/
theorem Derives.withMaxDepth {d : Nat} (hle : cfg.maxDepth ≤ d) {j : Judgement R}
    {h : List (Moment R)} (hj : Derives cfg j h) (hx : j.after.exhausted = false) :
    Derives (cfg.withMaxDepth d) j h := by
  induction hj with
  | succeed => exact .succeed
  | fail => exact .fail
  | byte hb => exact .byte hb
  | run hb => exact .run hb
  | literal hb => exact .literal hb
  | apply _ hb ih => exact .apply (ih hx) hb
  | andThen _ he₂ ih₁ ih₂ => exact .andThen (ih₁ (he₂.since.not_exhausted hx)) (ih₂ hx)
  | andThen_miss _ ih => exact .andThen_miss (ih hx)
  | orElse _ ih => exact .orElse (ih hx)
  | orElse_next _ he₂ ih₁ ih₂ => exact .orElse_next (ih₁ (he₂.since.not_exhausted hx)) (ih₂ hx)
  | attempt _ ih => exact .attempt (ih hx)
  | attempt_miss _ ih => exact .attempt_miss (ih hx)
  | many _ ih => exact .many (ih hx)
  | @notAhead e s t h _ ih =>
    exact .notAhead (ih ((State.exhausted_miss (t.moveTo s.pos)).symm.trans hx))
  | notAhead_miss _ ih => exact .notAhead_miss (ih hx)
  | ahead _ ih => exact .ahead (ih hx)
  | capture _ ih => exact .capture (ih hx)
  | capture_miss _ ih => exact .capture_miss (ih hx)
  | check _ hp ih => exact .check (ih ((since_askPolicy hp).not_exhausted hx)) hp
  | check_refused _ hp ih => exact .check_refused (ih ((since_askPolicy hp).not_exhausted hx)) hp
  | check_miss _ ih => exact .check_miss (ih hx)
  | inspect => exact .inspect
  | loop_miss _ ih => exact .loop_miss (ih hx)
  | loop_still _ hpos ih => exact .loop_still (ih hx) hpos
  | loop_next _ hpos hl ih₁ ih₂ => exact .loop_next (ih₁ (hl.since.not_exhausted hx)) hpos (ih₂ hx)
  | body _ ih => exact .body (ih hx)
  | body_miss _ ih => exact .body_miss (ih hx)
  | grow _ hlt hg ih₁ ih₂ => exact .grow (ih₁ (hg.since.not_exhausted hx)) hlt (ih₂ hx)
  | grow_stop _ hle ih => exact .grow_stop (ih hx) hle
  | recalled he => exact .recalled he
  | reentered he => exact .reentered he
  | refused => cases hx
  | settled hn hd _ hg ih => exact .settled hn (Nat.lt_of_lt_of_le hd hle) (ih hx) hg
  | grown hn hd _ hs hg ih₁ ih₂ =>
    exact .grown hn (Nat.lt_of_lt_of_le hd hle) (ih₁ (hg.since.not_exhausted hx)) hs (ih₂ hx)

/-- A valid state is valid under a larger bound. -/
theorem State.Valid.withMaxDepth {s : State R} (hv : s.Valid cfg) {d : Nat} (hle : cfg.maxDepth ≤ d) :
    s.Valid (cfg.withMaxDepth d) where
  pos_le := hv.pos_le
  depth_le := Nat.le_trans hv.depth_le hle
  nodup := hv.nodup
  opened := hv.opened
  inProgress := hv.inProgress
  done := hv.done
  failure_le := hv.failure_le

/-! ### Runs -/

namespace Run

variable {run : Run R} {d : Nat}

theorem apply_withMaxDepth (hv : run.state.Valid run.setting) (hle : run.setting.maxDepth ≤ d) {r : R}
    (hx : (run.apply r).2.isExhausted = false) :
    (run.withMaxDepth d).apply r = ((run.apply r).1, (run.apply r).2.withMaxDepth d) := by
  obtain ⟨o, t, h, heq, hd⟩ := run.exists_apply hv r
  obtain ⟨o', t', h', heq', hd'⟩ := (run.withMaxDepth d).exists_apply (hv.withMaxDepth hle) r
  rw [heq] at hx ⊢
  obtain ⟨rfl, rfl, -⟩ := (hd.withMaxDepth hle hx).determined _ _ _ hd'
  exact heq'

theorem eval_withMaxDepth (hv : run.state.Valid run.setting) (hle : run.setting.maxDepth ≤ d)
    {e : Expr R} (hx : (run.eval e).2.isExhausted = false) :
    (run.withMaxDepth d).eval e = ((run.eval e).1, (run.eval e).2.withMaxDepth d) := by
  obtain ⟨b, t, h, heq, hd⟩ := run.exists_eval hv e
  obtain ⟨b', t', h', heq', hd'⟩ := (run.withMaxDepth d).exists_eval (hv.withMaxDepth hle) e
  rw [heq] at hx ⊢
  obtain ⟨rfl, rfl, -⟩ := (hd.withMaxDepth hle hx).determined _ _ _ hd'
  exact heq'

theorem parse_withMaxDepth (hv : run.state.Valid run.setting) (hle : run.setting.maxDepth ≤ d) {r : R}
    (hx : (run.parse r).2.isExhausted = false) :
    (run.withMaxDepth d).parse r = ((run.parse r).1, (run.parse r).2.withMaxDepth d) := by
  have happly := apply_withMaxDepth hv hle hx
  simp only [parse, happly, isExhausted_withMaxDepth]

/-- A step reports the same under a larger bound and leads to the same state. -/
theorem step_withMaxDepth (hv : run.state.Valid run.setting) (hle : run.setting.maxDepth ≤ d)
    {step : Step R} (hx : (run.step step).2.isExhausted = false) :
    (run.withMaxDepth d).step step = ((run.step step).1, (run.step step).2.withMaxDepth d) := by
  have hv' : run.forgetReports.state.Valid run.forgetReports.setting := hv.clearEvents
  have hforget : (run.withMaxDepth d).forgetReports = run.forgetReports.withMaxDepth d := rfl
  rw [step_eq] at hx
  rw [step_eq, step_eq, hforget]
  cases step with
  | root =>
    rw [show (run.withMaxDepth d).setting.grammar = run.setting.grammar from rfl]
    simp only [parse_withMaxDepth hv' hle hx]
    rfl
  | parse r =>
    simp only [parse_withMaxDepth hv' hle hx]
    rfl
  | result r =>
    simp only [apply_withMaxDepth hv' hle hx]
    rfl
  | eval e =>
    simp only [eval_withMaxDepth hv' hle hx]
    rfl

/-- **A run that does not hit the bound is the same under a larger one**, step by step. -/
theorem steps_withMaxDepth (hv : run.state.Valid run.setting) (hle : run.setting.maxDepth ≤ d)
    {steps : List (Step R)} (hx : (run.steps steps).2.isExhausted = false) :
    (run.withMaxDepth d).steps steps = ((run.steps steps).1, (run.steps steps).2.withMaxDepth d) := by
  induction steps generalizing run with
  | nil => rfl
  | cons step rest ih =>
    have hv' := valid_step hv step
    obtain ⟨h, hh⟩ := (run.step step).2.exists_history hv' rest
    have hstep := step_withMaxDepth hv hle (hh.since.not_exhausted hx)
    have hrest := ih hv' (by rwa [run.setting_step hv step]) hx
    simp only [steps, hstep, hrest]

/-- The part of a run that comes first has not hit a bound that all of it does not hit. -/
theorem not_exhausted_first {first rest : List (Step R)} (hv : run.state.Valid run.setting)
    (hx : (run.steps (first ++ rest)).2.isExhausted = false) :
    (run.steps first).2.isExhausted = false := by
  obtain ⟨h, hh⟩ := run.exists_history hv (first ++ rest)
  obtain ⟨_, _, -, -, hrest⟩ := hh.split
  refine hrest.since.not_exhausted ?_
  rw [← steps_append]
  exact hx

end Run

end AddressGrammar.Peg
