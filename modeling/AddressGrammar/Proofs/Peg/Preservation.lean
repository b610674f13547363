import AddressGrammar.Proofs.Peg.Faithfulness

/-!
# What rules preserve in every run

The plain meaning of a grammar says what a rule does as long as the bound on nesting is not hit and
no rule asks for itself. A run that is disturbed in one of these ways answers differently: it fails
where it should not, and everything that follows may take another course.

Some properties do not care. What matters about a failure is only that the position does not move,
and such a failure may be put in the place of any answer. A relation that allows it, and that holds
of a body as soon as it holds of the rules inside, holds of all answers that any run gives.

A relation may also hold of a body because of how its evaluation went: two parts of it may have to
agree, although each of them by itself could have come to something else. So what is asked of a
relation is that it holds of the evaluations of bodies, not of all their matches.

## Main definitions

* `Grammar.Preserves`, `Setting.Maintains` — such a relation, told by matches and by evaluations
* `Advances`, `Allows` — to move forward, and to take only stretches of some kind
* `State.Stores`, `Moment.Satisfies`, `Judgement.Satisfies` — it holds of the table, at a moment and
  of an evaluation

## Main results

* `Derives.maintains`, `Derives.satisfies` — an evaluation preserves it
* `Run.StepHistory.maintains`, `Run.History.satisfies`, `Run.exists_satisfying` — so does a run, whatever its steps are and
  whether or not it is exhausted
* `Run.History.leads` — where a run that only applies rules can come to
-/

namespace AddressGrammar.Peg

open Text

variable {R : Type}

/-- A relation between what a rule is applied to and what it does. It holds of what a body does if
it holds of what the rules inside do, and it allows every rule to fail. -/
structure Grammar.Preserves (g : Grammar R) (input : String) (P : R → Nat → Bool → Nat → Prop) :
    Prop where
  body : ∀ {r p b i}, (g.body r).Matches input P p b i → P r p b (if b then i else p)
  missed : ∀ r p, P r p false p

/-- A match moves forward and does not leave the input, a failure does not move. -/
structure Advances (input : String) (p : Nat) (b : Bool) (q : Nat) : Prop where
  le : p ≤ q
  le_size : p ≤ input.utf8ByteSize → q ≤ input.utf8ByteSize
  eq_of_missed : b = false → q = p

/-- A rule takes a stretch that `Q` allows it, or fails. -/
structure Allows (input : String) (Q : R → Nat → Nat → Prop) (r : R) (p : Nat) (b : Bool)
    (q : Nat) : Prop where
  advances : Advances input p b q
  taken : b = true → Q r p q

section

variable {input : String} {Q : R → Nat → Nat → Prop} {p q : Nat}

theorem Allows.missed (r : R) (p : Nat) : Allows input Q r p false p :=
  ⟨⟨Nat.le_refl p, id, fun _ => rfl⟩, nofun⟩

/-- A match advances if rules do. -/
theorem Expr.Matches.advances {e : Expr R} (h : e.Matches input (Allows input Q) p true q) :
    Advances input p true q where
  le := h.le fun _ _ _ _ hr => hr.advances.le
  le_size := h.le_size fun _ _ _ _ hr => hr.advances.le_size
  eq_of_missed := nofun

end

/-- Stretches are preserved if bodies take them. That rules advance need not be proved again. -/
theorem Grammar.preserves_allows {g : Grammar R} {input : String} {Q : R → Nat → Nat → Prop}
    (h : ∀ r p q, (g.body r).Matches input (Allows input Q) p true q → Q r p q) :
    g.Preserves input (Allows input Q) where
  body := by
    intro r p b i hi
    cases b with
    | true => exact ⟨hi.advances, fun _ => h r p i hi⟩
    | false => exact .missed r p
  missed := .missed

variable [DecidableEq R] {cfg : Setting R} {P : R → Nat → Bool → Nat → Prop}

/-- The relation holds of every remembered outcome. -/
def State.Stores (P : R → Nat → Bool → Nat → Prop) (s : State R) : Prop :=
  ∀ r p o, s.progress? r p = some (.done o) → P r p o.matched o.stop

/-- The relation holds of the table with which a body is begun, and of an answer, which also moves the
position to its end. -/
def Moment.Satisfies (P : R → Nat → Bool → Nat → Prop) : Moment R → Prop
  | .opened _ s => s.Stores P
  | .answered r s o t => P r s.pos o.matched o.stop ∧ t.pos = o.stop

/-- The relation holds of what an evaluation comes to. Growth may come to the match that it began
with. -/
def Judgement.Satisfies (input : String) (P : R → Nat → Bool → Nat → Prop) : Judgement R → Prop
  | .expr e s b t => e.Matches input P s.pos b t.pos
  | .loop e s t => (Expr.many e).Matches input P s.pos true t.pos
  | .body r s o t => P r s.pos o.matched o.stop ∧ t.pos = o.stop
  | .growth r start best _ o t =>
    P r start best.matched best.stop → P r start o.matched o.stop ∧ t.pos = o.stop
  | .rule r s o t => P r s.pos o.matched o.stop ∧ t.pos = o.stop

namespace State.Stores

variable {s t : State R}

theorem of_progress? (hs : s.Stores P) (h : ∀ r p, t.progress? r p = s.progress? r p) :
    t.Stores P := fun r p o hk => hs r p o ((h r p).symm.trans hk)

theorem of_memo (hs : s.Stores P) (h : t.memo = s.memo) : t.Stores P :=
  hs.of_progress? fun r p => progress?_of_memo_eq h r p

theorem initial (pos : Nat) : ((State.initial : State R).moveTo pos).Stores P := by
  simp [Stores, State.initial, progress?]

theorem begin (hs : s.Stores P) (r : R) : (s.begin r).Stores P := by
  intro q p o hk
  rw [progress?_begin] at hk
  split at hk
  · cases hk
  · exact hs q p o hk

theorem reenter (hs : s.Stores P) {r : R} {again : Bool}
    (h : s.progress? r s.pos = some (.inProgress again)) : (s.reenter r).Stores P := by
  intro q p o hk
  rw [progress?_reenter h] at hk
  split at hk
  · cases hk
  · exact hs q p o hk

theorem settle (hs : s.Stores P) {r : R} {p : Nat} {o : Outcome} (ho : P r p o.matched o.stop) :
    (s.settle r p o).Stores P := by
  intro q i o' hk
  rw [progress?_settle] at hk
  split at hk
  · next heq =>
    obtain ⟨rfl, rfl⟩ := heq
    cases hk
    exact ho
  · exact hs q i o' hk

end State.Stores

/-- A relation between what a rule is applied to and what it does. It holds of what an evaluation of a
body does if it holds at every moment of that evaluation, and it allows every rule to fail. -/
structure Setting.Maintains (cfg : Setting R) (P : R → Nat → Bool → Nat → Prop) : Prop where
  body : ∀ {r : R} {s t : State R} {h : List (Moment R)},
    Derives cfg (.expr (cfg.grammar.body r) (s.enter r) true t) h →
    (∀ m ∈ h, m.Satisfies P) → (cfg.grammar.body r).Matches cfg.input P s.pos true t.pos →
    P r s.pos true t.pos
  missed : ∀ r p, P r p false p

/-- A relation that depends on matches alone does not depend on how they came about. -/
theorem Grammar.Preserves.maintains (hg : cfg.grammar.Preserves cfg.input P) : cfg.Maintains P where
  body := fun _ _ hm => hg.body hm
  missed := hg.missed

/-- Stretches are maintained if the evaluations of bodies take them. -/
theorem Setting.maintains_allows {Q : R → Nat → Nat → Prop}
    (h : ∀ (r : R) (s t : State R) h, Derives cfg (.expr (cfg.grammar.body r) (s.enter r) true t) h →
      (∀ m ∈ h, m.Satisfies (Allows cfg.input Q)) →
      (cfg.grammar.body r).Matches cfg.input (Allows cfg.input Q) s.pos true t.pos →
      Q r s.pos t.pos) : cfg.Maintains (Allows cfg.input Q) where
  body := fun hd hh hm => ⟨hm.advances, fun _ => h _ _ _ _ hd hh hm⟩
  missed := .missed

/-- **Evaluations maintain the relation.** -/
theorem Derives.maintains (hc : cfg.Maintains P) {j : Judgement R} {h : List (Moment R)}
    (hj : Derives cfg j h) (hs : j.before.Stores P) :
    j.after.Stores P ∧ (∀ m ∈ h, m.Satisfies P) ∧ j.Satisfies cfg.input P := by
  induction hj with
  | succeed => exact ⟨hs, by simp, .succeed⟩
  | fail => exact ⟨hs, by simp, .fail⟩
  | inspect => exact ⟨hs.of_memo rfl, by simp, .inspect⟩
  | byte hb =>
    exact ⟨hs.of_memo (State.reads_takeByte hb).memo, by simp, State.takeByte_matches hb⟩
  | run hb => exact ⟨hs.of_memo (State.reads_takeRun hb).memo, by simp, State.takeRun_matches hb⟩
  | literal hb =>
    exact ⟨hs.of_memo (State.reads_takeLiteral hb).memo, by simp, State.takeLiteral_matches hb⟩
  | apply _ hb ih =>
    obtain ⟨ht, hh, hm, hpos⟩ := ih hs
    subst hb
    exact ⟨ht, hh, .apply (hpos ▸ hm)⟩
  | andThen _ _ ih₁ ih₂ =>
    obtain ⟨ht, hh₁, hm₁⟩ := ih₁ hs
    obtain ⟨hu, hh₂, hm₂⟩ := ih₂ ht
    exact ⟨hu, List.forall_mem_append.mpr ⟨hh₁, hh₂⟩, .andThen hm₁ hm₂⟩
  | orElse_next _ _ ih₁ ih₂ =>
    obtain ⟨ht, hh₁, hm₁⟩ := ih₁ hs
    obtain ⟨hu, hh₂, hm₂⟩ := ih₂ ht
    exact ⟨hu, List.forall_mem_append.mpr ⟨hh₁, hh₂⟩, .orElse_next hm₁ hm₂⟩
  | loop_next _ hpos _ ih₁ ih₂ =>
    obtain ⟨ht, hh₁, hm₁⟩ := ih₁ hs
    obtain ⟨hu, hh₂, hm₂⟩ := ih₂ ht
    exact ⟨hu, List.forall_mem_append.mpr ⟨hh₁, hh₂⟩, .many_next hm₁ hpos hm₂⟩
  | andThen_miss _ ih => exact (ih hs).imp_right (.imp_right .andThen_miss)
  | orElse _ ih => exact (ih hs).imp_right (.imp_right .orElse)
  | attempt _ ih => exact (ih hs).imp_right (.imp_right .attempt)
  | many _ ih => exact ih hs
  | attempt_miss _ ih => exact (ih hs).imp_right (.imp_right .attempt_miss)
  | notAhead_miss _ ih => exact (ih hs).imp_right (.imp_right .notAhead_miss)
  | ahead _ ih => exact (ih hs).imp_right (.imp_right .ahead)
  | capture _ ih => exact (ih hs).imp_right (.imp_right .capture)
  | capture_miss _ ih => exact (ih hs).imp_right (.imp_right .capture_miss)
  | check_miss _ ih => exact (ih hs).imp_right (.imp_right .check_miss)
  | loop_miss _ ih => exact (ih hs).imp_right (.imp_right .many_miss)
  | notAhead _ ih =>
    obtain ⟨ht, hh, hm⟩ := ih hs
    refine ⟨ht.of_memo (State.memo_miss _), hh, ?_⟩
    rw [Judgement.Satisfies, State.pos_miss]
    exact .notAhead hm
  | check _ ha ih =>
    obtain ⟨ht, hh, hm⟩ := ih hs
    obtain ⟨hanswer, hpos⟩ := askPolicy_answer ha
    refine ⟨ht.of_memo (memo_askPolicy ha), hh, ?_⟩
    rw [Judgement.Satisfies, hpos]
    exact .check hm hanswer
  | check_refused _ ha ih =>
    obtain ⟨ht, hh, hm⟩ := ih hs
    have hu := ht.of_memo (memo_askPolicy ha)
    exact ⟨hu.of_memo rfl, hh, .check_refused hm (askPolicy_answer ha).1⟩
  | @loop_still e s t _ _ hpos ih =>
    obtain ⟨ht, hh, hm⟩ := ih hs
    have hm : e.Matches cfg.input P s.pos true t.pos := hm
    refine ⟨ht, hh, ?_⟩
    rw [Judgement.Satisfies, hpos]
    exact .many_still (hpos ▸ hm)
  | body he ih =>
    obtain ⟨ht, hh, hm⟩ := ih hs
    exact ⟨ht, List.forall_mem_cons.mpr ⟨hs, hh⟩, hc.body he hh hm, rfl⟩
  | body_miss _ ih =>
    obtain ⟨ht, hh, -⟩ := ih hs
    exact ⟨ht, List.forall_mem_cons.mpr ⟨hs, hh⟩, hc.missed _ _, rfl⟩
  | grow _ _ _ ih₁ ih₂ =>
    obtain ⟨ht, hh₁, hm, -⟩ := ih₁ hs
    obtain ⟨hu, hh₂, hgrown⟩ := ih₂ (ht.settle hm)
    exact ⟨hu, List.forall_mem_append.mpr ⟨hh₁, hh₂⟩, fun _ => hgrown hm⟩
  | grow_stop _ _ ih =>
    obtain ⟨ht, hh, -⟩ := ih hs
    exact ⟨ht, hh, fun hbest => ⟨hbest, rfl⟩⟩
  | recalled he =>
    have hm := hs _ _ _ (State.progress?_of_get? he)
    exact ⟨hs.of_progress? fun q p => State.progress?_reuse _ _ _ q p,
      List.forall_mem_singleton.mpr ⟨hm, rfl⟩, hm, rfl⟩
  | @reentered r s _ _ he =>
    have hm := hc.missed r s.pos
    exact ⟨hs.reenter (State.progress?_of_get? he), List.forall_mem_singleton.mpr ⟨hm, rfl⟩, hm, rfl⟩
  | @refused r s =>
    have hm := hc.missed r s.pos
    exact ⟨hs, List.forall_mem_singleton.mpr ⟨hm, rfl⟩, hm, rfl⟩
  | settled _ _ _ _ ih =>
    obtain ⟨ht, hh, hm⟩ := ih (hs.begin _)
    exact ⟨ht.settle hm.1, List.forall_mem_append.mpr ⟨hh, List.forall_mem_singleton.mpr hm⟩, hm⟩
  | grown _ _ _ _ _ ih₁ ih₂ =>
    obtain ⟨ht, hh₁, hm, -⟩ := ih₁ (hs.begin _)
    obtain ⟨hu, hh₂, hgrown⟩ := ih₂ (ht.settle hm)
    have hh := List.forall_mem_append.mpr ⟨hh₁, hh₂⟩
    exact ⟨hu, List.forall_mem_append.mpr ⟨hh, List.forall_mem_singleton.mpr (hgrown hm)⟩, hgrown hm⟩

/-- **Evaluations preserve the relation.** -/
theorem Derives.satisfies (hg : cfg.grammar.Preserves cfg.input P) {j : Judgement R}
    {h : List (Moment R)} (hj : Derives cfg j h) (hs : j.before.Stores P) :
    j.after.Stores P ∧ (∀ m ∈ h, m.Satisfies P) ∧ j.Satisfies cfg.input P :=
  hj.maintains hg.maintains hs

/-- A step maintains the relation, exhausted or not and whatever expression it evaluates. -/
theorem Run.StepHistory.maintains {run : Run R} {step : Step R} {h : List (Moment R)}
    (hs : run.StepHistory step h) (hc : run.setting.Maintains P) (hstores : run.state.Stores P) :
    (run.step step).2.state.Stores P ∧ ∀ m ∈ h, m.Satisfies P := by
  have hbefore : run.forgetReports.state.Stores P := hstores.of_memo rfl
  obtain ⟨r, o, hd⟩ | ⟨e, b, hd⟩ := hs.derives
  · obtain ⟨ht, hm, -⟩ := hd.maintains hc hbefore
    exact ⟨ht, hm⟩
  · obtain ⟨ht, hm, -⟩ := hd.maintains hc hbefore
    exact ⟨ht, hm⟩

/-- **Runs preserve the relation**, exhausted or not and whatever expressions they evaluate beside
the rules. -/
theorem Run.History.satisfies {run : Run R} {steps : List (Step R)} {h : List (Moment R)}
    (hh : run.History steps h) (hg : run.setting.grammar.Preserves run.setting.input P)
    (hv : run.state.Valid run.setting) (hs : run.state.Stores P) : ∀ m ∈ h, m.Satisfies P := by
  induction hh with
  | nil => simp
  | @cons run step rest h₁ h₂ hstep _ ih =>
    obtain ⟨hnext, hfirst⟩ := hstep.maintains hg.maintains hs
    have hset := run.setting_step hv step
    exact List.forall_mem_append.mpr ⟨hfirst, ih (hset ▸ hg) (Run.valid_step hv step) hnext⟩

/-- **A fresh run preserves the relation**, wherever in its input it begins. -/
theorem Run.exists_satisfying {g : Grammar R} {input : String} (hg : g.Preserves input P) {p : Nat}
    (hp : p ≤ input.utf8ByteSize) (d : Nat) (steps : List (Step R)) :
    ∃ h, (Run.startAt g input d p).History steps h ∧ ∀ m ∈ h, m.Satisfies P := by
  have hv := Run.valid_startAt (g := g) (d := d) hp
  obtain ⟨h, hh⟩ := Run.exists_history _ hv steps
  exact ⟨h, hh, hh.satisfies hg hv (.initial p)⟩

/-! ### Runs that only apply rules -/

/-- The step applies a rule. -/
def Step.Applies : Step R → Prop
  | .eval _ => False
  | _ => True

theorem Run.StepHistory.exists_answered {run : Run R} {step : Step R} {h : List (Moment R)}
    (hs : run.StepHistory step h) (happ : step.Applies) :
    ∃ r o, .answered r run.forgetReports.state o (run.step step).2.state ∈ h := by
  cases step with
  | root =>
    obtain ⟨o, -, hd⟩ := hs
    exact ⟨_, o, hd.answered_mem⟩
  | parse r =>
    obtain ⟨o, -, hd⟩ := hs
    exact ⟨r, o, hd.answered_mem⟩
  | result r =>
    obtain ⟨o, -, -, hd⟩ := hs
    exact ⟨r, o, hd.answered_mem⟩
  | eval e => exact happ.elim

/-- Where every application leads from places of some kind to places of that kind, so does a run. -/
theorem Run.History.leads {run : Run R} {steps : List (Step R)} {h : List (Moment R)}
    (hh : run.History steps h) (happ : ∀ step ∈ steps, step.Applies) {B : Nat → Prop}
    (hB : ∀ r s o t, .answered r s o t ∈ h → B s.pos → B t.pos) (hp : B run.pos) :
    B (run.steps steps).2.pos := by
  induction hh with
  | nil => exact hp
  | cons hs _ ih =>
    obtain ⟨hfirst, hrest⟩ := List.forall_mem_cons.mp happ
    obtain ⟨r, o, hmem⟩ := hs.exists_answered hfirst
    refine ih hrest (fun r s o t hm => hB r s o t (List.mem_append_right _ hm)) ?_
    exact hB r _ o _ (List.mem_append_left _ hmem) hp

end AddressGrammar.Peg
