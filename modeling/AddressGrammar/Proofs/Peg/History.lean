import AddressGrammar.Proofs.Peg.Totality

/-!
# Histories of runs

A run is driven step by step. Each step has a derivation, and the histories of the steps one after
the other are the history of the run: every rule body that was begun and every application that was
answered, at the top or inside another one, in the order of their ends.

## Main definitions

* `Run.StepHistory`, `Run.History` — what happened during a step, and during a list of steps
* `Run.startAt` — a fresh run at some offset

## Main results

* `Run.exists_apply`, `Run.exists_eval` — applying a rule or evaluating an expression on a run is
  derivable, and the failure that stands in for an unfinished evaluation is never the answer
* `Run.exists_history`, `Run.History.unique` — a run has exactly one history
-/

namespace AddressGrammar.Peg

open Text

variable {R : Type} [DecidableEq R]

/-- An application ends its own history. -/
theorem Derives.answered_mem {cfg : Setting R} {r : R} {s t : State R}
    {o : Outcome} {h : List (Moment R)} (hd : Derives cfg (.rule r s o t) h) :
    .answered r s o t ∈ h := by
  cases hd with
  | recalled | reentered | refused => exact List.mem_singleton.mpr rfl
  | settled | grown => exact List.mem_append_right _ (List.mem_singleton.mpr rfl)

/-- Evaluating an expression has an answer if there is room for all rules. -/
theorem Setting.exists_eval {cfg : Setting R} (e : Expr R) {s : State R} (hv : s.Valid cfg) :
    ∃ b t, e.eval cfg.input (cfg.callWithin cfg.nestingRoom) s = some (b, t) := by
  refine Expr.exists_eval (cfg.derives_of_call cfg.nestingRoom) (fun r u hu _ => ?_) e hv rfl
  obtain ⟨o, t, ht⟩ := Setting.exists_applyWithin r hu (Nat.le_add_right _ _)
  exact ⟨o.matched, t, by rw [Setting.callWithin, ht]; rfl⟩

namespace Run

theorem valid_start (grammar : Grammar R) (input : String) (maxDepth : Nat) :
    (start grammar input maxDepth).state.Valid (start grammar input maxDepth).setting :=
  State.valid_initial _

/-- Applying a rule on a run is derivable. -/
theorem exists_apply (run : Run R) (hv : run.state.Valid run.setting) (r : R) :
    ∃ o t h, run.apply r = (o, { run with state := t }) ∧
      Derives run.setting (.rule r run.state o t) h := by
  obtain ⟨o, t, ht⟩ := Setting.exists_applyWithin r hv (Nat.le_add_right _ _)
  obtain ⟨h, hd⟩ := Setting.derives_of_applyWithin ht
  exact ⟨o, t, h, by rw [apply, ht], hd⟩

/-- Evaluating an expression that has an answer. -/
theorem eval_of_some {run : Run R} {e : Expr R} {b : Bool} {t : State R}
    (ht : e.eval run.setting.input (run.setting.callWithin run.setting.nestingRoom) run.state =
      some (b, t)) : run.eval e = (b, { run with state := t }) := by
  rw [eval]
  dsimp only
  split
  · next b u heq =>
    cases ht.symm.trans heq
    rfl
  · next heq => cases ht.symm.trans heq

/-- Evaluating an expression that has none. -/
theorem eval_of_none {run : Run R} {e : Expr R}
    (ht : e.eval run.setting.input (run.setting.callWithin run.setting.nestingRoom) run.state = none) :
    run.eval e = (false, run) := by
  rw [eval]
  dsimp only
  split
  · next heq => cases ht.symm.trans heq
  · rfl

/-- Evaluating an expression on a run is derivable. -/
theorem exists_eval (run : Run R) (hv : run.state.Valid run.setting) (e : Expr R) :
    ∃ b t h, run.eval e = (b, { run with state := t }) ∧
      Derives run.setting (.expr e run.state b t) h := by
  obtain ⟨b, t, ht⟩ := Setting.exists_eval e hv
  obtain ⟨h, hd⟩ := Expr.derives_of_eval (run.setting.derives_of_call run.setting.nestingRoom) ht
  exact ⟨b, t, h, eval_of_some ht, hd⟩

/-! ### Steps -/

/-- A run whose earlier reports are forgotten, as they are at the beginning of a step. -/
def forgetReports (run : Run R) : Run R := { run with state := { run.state with events := [] } }

/-- A parse, as a rule application whose match counts if the bound was not hit. -/
theorem parse_eq (run : Run R) (r : R) :
    run.parse r = ((run.apply r).1.matched && !(run.apply r).2.isExhausted, (run.apply r).2) := rfl

/-- A step, as what is applied or evaluated once the earlier reports are forgotten. -/
theorem step_eq (run : Run R) (step : Step R) :
    run.step step =
      match step with
      | .root => (⟨(run.forgetReports.parse run.setting.grammar.root).1, none,
          (run.forgetReports.parse run.setting.grammar.root).2.state.events.reverse⟩,
          (run.forgetReports.parse run.setting.grammar.root).2)
      | .parse r => (⟨(run.forgetReports.parse r).1, none,
          (run.forgetReports.parse r).2.state.events.reverse⟩, (run.forgetReports.parse r).2)
      | .result r => (⟨(run.forgetReports.apply r).1.matched, some (run.forgetReports.apply r).1,
          (run.forgetReports.apply r).2.state.events.reverse⟩, (run.forgetReports.apply r).2)
      | .eval e => (⟨(run.forgetReports.eval e).1, none,
          (run.forgetReports.eval e).2.state.events.reverse⟩, (run.forgetReports.eval e).2) := by
  cases step <;> rfl

/-- What happened during a step, beside what the step answered. -/
def StepHistory (run : Run R) (step : Step R) (h : List (Moment R)) : Prop :=
  let s := run.forgetReports.state
  let report := (run.step step).1
  let next := (run.step step).2
  match step with
  | .root => ∃ o, report.matched = (o.matched && !next.isExhausted) ∧
      Derives run.setting (.rule run.setting.grammar.root s o next.state) h
  | .parse r => ∃ o, report.matched = (o.matched && !next.isExhausted) ∧
      Derives run.setting (.rule r s o next.state) h
  | .result r => ∃ o, report.matched = o.matched ∧ report.outcome? = some o ∧
      Derives run.setting (.rule r s o next.state) h
  | .eval e => Derives run.setting (.expr e s report.matched next.state) h

/-- What happened during a list of steps. -/
inductive History : Run R → List (Step R) → List (Moment R) → Prop where
  | nil {run} : History run [] []
  | cons {run step rest h₁ h₂} (hs : run.StepHistory step h₁)
      (hr : History (run.step step).2 rest h₂) : History run (step :: rest) (h₁ ++ h₂)

/-- Every step has a history, and changes the state of the run only. -/
theorem exists_step (run : Run R) (hv : run.state.Valid run.setting) (step : Step R) :
    ∃ t h, (run.step step).2 = { run with state := t } ∧ run.StepHistory step h := by
  have hv' : run.forgetReports.state.Valid run.forgetReports.setting := hv.clearEvents
  cases step with
  | root =>
    obtain ⟨o, t, h, heq, hd⟩ := exists_apply _ hv' run.setting.grammar.root
    have hrun : run.step .root =
        (⟨o.matched && !t.exhausted, none, t.events.reverse⟩, { run with state := t }) := by
      rw [forgetReports] at heq
      simp only [step, parseRoot, parse, heq]
      rfl
    exact ⟨t, h, by rw [hrun], o, by rw [hrun]; rfl, by rw [hrun]; exact hd⟩
  | parse r =>
    obtain ⟨o, t, h, heq, hd⟩ := exists_apply _ hv' r
    have hrun : run.step (.parse r) =
        (⟨o.matched && !t.exhausted, none, t.events.reverse⟩, { run with state := t }) := by
      rw [forgetReports] at heq
      simp only [step, parse, heq]
      rfl
    exact ⟨t, h, by rw [hrun], o, by rw [hrun]; rfl, by rw [hrun]; exact hd⟩
  | result r =>
    obtain ⟨o, t, h, heq, hd⟩ := exists_apply _ hv' r
    have hrun : run.step (.result r) =
        (⟨o.matched, some o, t.events.reverse⟩, { run with state := t }) := by
      rw [forgetReports] at heq
      simp only [step, heq]
    exact ⟨t, h, by rw [hrun], o, by rw [hrun], by rw [hrun], by rw [hrun]; exact hd⟩
  | eval e =>
    obtain ⟨b, t, h, heq, hd⟩ := exists_eval _ hv' e
    have hrun : run.step (.eval e) =
        (⟨b, none, t.events.reverse⟩, { run with state := t }) := by
      rw [forgetReports] at heq
      simp only [step, heq]
    exact ⟨t, h, by rw [hrun], by rw [StepHistory, hrun]; exact hd⟩

/-- A step applies a rule or evaluates an expression. -/
theorem StepHistory.derives {run : Run R} {step : Step R} {h : List (Moment R)}
    (hs : run.StepHistory step h) :
    (∃ r o, Derives run.setting (.rule r run.forgetReports.state o (run.step step).2.state) h) ∨
      ∃ e b, Derives run.setting (.expr e run.forgetReports.state b (run.step step).2.state) h := by
  cases step with
  | root =>
    obtain ⟨o, -, hd⟩ := hs
    exact .inl ⟨_, o, hd⟩
  | parse r =>
    obtain ⟨o, -, hd⟩ := hs
    exact .inl ⟨r, o, hd⟩
  | result r =>
    obtain ⟨o, -, -, hd⟩ := hs
    exact .inl ⟨r, o, hd⟩
  | eval e => exact .inr ⟨e, _, hs⟩

theorem setting_step (run : Run R) (hv : run.state.Valid run.setting) (step : Step R) :
    (run.step step).2.setting = run.setting := by
  obtain ⟨t, -, heq, -⟩ := run.exists_step hv step
  rw [heq]

/-- A step ends in a valid state, with the rules open that were open before. -/
theorem StepHistory.reaches {run : Run R} {step : Step R} {h : List (Moment R)}
    (hs : run.StepHistory step h) (hv : run.state.Valid run.setting) :
    run.forgetReports.state.Reaches run.setting (run.step step).2.state := by
  have hv' : run.forgetReports.state.Valid run.setting := hv.clearEvents
  obtain ⟨r, o, hd⟩ | ⟨e, b, hd⟩ := hs.derives
  · exact (hd.sound hv').1
  · exact hd.sound hv'

theorem StepHistory.since {run : Run R} {step : Step R} {h : List (Moment R)}
    (hs : run.StepHistory step h) : (run.step step).2.state.Since run.state := by
  obtain ⟨r, o, hd⟩ | ⟨e, b, hd⟩ := hs.derives <;> exact ⟨hd.since.exhausted, hd.since.covers⟩

/-! ### Lists of steps -/

@[simp] theorem steps_nil (run : Run R) : run.steps [] = ([], run) := rfl

theorem steps_cons (run : Run R) (step : Step R) (rest : List (Step R)) :
    (run.steps (step :: rest)).2 = ((run.step step).2.steps rest).2 := rfl

theorem steps_append (run : Run R) (first rest : List (Step R)) :
    (run.steps (first ++ rest)).2 = ((run.steps first).2.steps rest).2 := by
  induction first generalizing run with
  | nil => rfl
  | cons step first ih => exact ih (run.step step).2

theorem valid_step {run : Run R} (hv : run.state.Valid run.setting) (step : Step R) :
    (run.step step).2.state.Valid (run.step step).2.setting := by
  obtain ⟨-, h, -, hs⟩ := run.exists_step hv step
  rw [run.setting_step hv step]
  exact (hs.reaches hv).valid

/-- What holds of a run throughout: its setting, that its state is valid, and the open rules. -/
theorem steps_kept {run : Run R} (hv : run.state.Valid run.setting) (steps : List (Step R)) :
    (run.steps steps).2.setting = run.setting ∧
      (run.steps steps).2.state.Valid run.setting ∧
        (run.steps steps).2.state.active = run.state.active := by
  induction steps generalizing run with
  | nil => exact ⟨rfl, hv, rfl⟩
  | cons step rest ih =>
    obtain ⟨-, h, -, hs⟩ := run.exists_step hv step
    obtain ⟨hset, hvalid, hactive⟩ := ih (valid_step hv step)
    rw [run.setting_step hv step] at hset hvalid
    exact ⟨hset, hvalid, hactive.trans (hs.reaches hv).active⟩

/-- Every list of steps has a history. -/
theorem exists_history (run : Run R) (hv : run.state.Valid run.setting) (steps : List (Step R)) :
    ∃ h, run.History steps h := by
  induction steps generalizing run with
  | nil => exact ⟨[], .nil⟩
  | cons step rest ih =>
    obtain ⟨-, h₁, -, hs⟩ := run.exists_step hv step
    obtain ⟨h₂, hr⟩ := ih _ (valid_step hv step)
    exact ⟨h₁ ++ h₂, .cons hs hr⟩

theorem StepHistory.unique {run : Run R} {step : Step R} {h h' : List (Moment R)}
    (hs : run.StepHistory step h) (hs' : run.StepHistory step h') : h' = h := by
  cases step with
  | root =>
    obtain ⟨o, -, hd⟩ := hs
    obtain ⟨o', -, hd'⟩ := hs'
    exact (hd.determined _ _ _ hd').2.2
  | parse r =>
    obtain ⟨o, -, hd⟩ := hs
    obtain ⟨o', -, hd'⟩ := hs'
    exact (hd.determined _ _ _ hd').2.2
  | result r =>
    obtain ⟨o, -, -, hd⟩ := hs
    obtain ⟨o', -, -, hd'⟩ := hs'
    exact (hd.determined _ _ _ hd').2.2
  | eval e =>
    rw [StepHistory] at hs hs'
    exact (hs.determined _ _ _ hs').2.2

/-- A list of steps has one history. -/
theorem History.unique {run : Run R} {steps : List (Step R)} {h h' : List (Moment R)}
    (hh : run.History steps h) (hh' : run.History steps h') : h' = h := by
  induction hh generalizing h' with
  | nil =>
    cases hh'
    rfl
  | cons hs _ ih =>
    cases hh' with
    | cons hs' hr' => rw [hs.unique hs', ih hr']

theorem History.since {run : Run R} {steps : List (Step R)} {h : List (Moment R)}
    (hh : run.History steps h) : (run.steps steps).2.state.Since run.state := by
  induction hh with
  | nil => exact .refl _
  | cons hs _ ih => exact ih.trans hs.since

/-- The history of a run falls into those of its parts. -/
theorem History.split {run : Run R} {first rest : List (Step R)} {h : List (Moment R)}
    (hh : run.History (first ++ rest) h) :
    ∃ h₁ h₂, h = h₁ ++ h₂ ∧ run.History first h₁ ∧ (run.steps first).2.History rest h₂ := by
  induction first generalizing run h with
  | nil => exact ⟨[], h, rfl, .nil, hh⟩
  | cons step first ih =>
    cases hh with
    | @cons _ _ _ h₁ h₂ hs hr =>
      obtain ⟨h₃, h₄, rfl, hfirst, hrest⟩ := ih hr
      exact ⟨h₁ ++ h₃, h₄, (List.append_assoc ..).symm, .cons hs hfirst, hrest⟩

/-! ### Fresh runs -/

/-- A fresh run with the reading position at an offset. -/
def startAt (grammar : Grammar R) (input : String) (maxDepth pos : Nat) : Run R :=
  ⟨⟨grammar, input, maxDepth⟩, State.initial.moveTo pos⟩

variable {g : Grammar R} {input : String} {p d : Nat}

theorem valid_startAt (hp : p ≤ input.utf8ByteSize) :
    (startAt g input d p).state.Valid (startAt g input d p).setting :=
  (State.valid_initial _).moveTo hp fun h => absurd h List.not_mem_nil

/-- Reading a byte outside every rule moves a fresh run on and leaves it fresh. -/
theorem step_anyByte (hp : p < input.utf8ByteSize) :
    ((startAt g input d p).step (.eval .anyByte)).2 = startAt g input d (p + 1) := by
  simp [startAt, step, eval, Expr.eval, Expr.anyByte, State.takeByte, State.moveTo,
    classAt_all hp, State.initial]

/-- A run comes to any offset of its input without applying a rule. -/
theorem steps_anyByte (hp : p ≤ input.utf8ByteSize) :
    ((start g input d).steps (.replicate p (.eval .anyByte))).2 = startAt g input d p := by
  have hsteps : ∀ n i, i + n ≤ input.utf8ByteSize →
      ((startAt g input d i).steps (.replicate n (.eval .anyByte))).2 = startAt g input d (i + n) := by
    intro n
    induction n with
    | zero => exact fun _ _ => rfl
    | succ n ih =>
      intro i hi
      rw [List.replicate_succ, steps_cons, step_anyByte (by omega), ih (i + 1) (by omega),
        Nat.add_right_comm, Nat.add_assoc]
  have h := hsteps p 0 (by omega)
  rwa [Nat.zero_add] at h

end Run

end AddressGrammar.Peg
