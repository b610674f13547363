import AddressGrammar.Proofs.Peg.History
import AddressGrammar.Proofs.Peg.PlainMatching

/-!
# What is remembered is what the grammar means

As long as the bound on nesting is not hit and no rule asks for itself at the position where it is
being evaluated, the table holds nothing but plain matches, and every answer is one. The invariant
is about finished entries only. An entry in progress says nothing about matching; what matters is
that it is never asked for, which is why none of them is ever marked and no match is ever grown.

Both provisos are about a whole history. Neither can be dropped: a refused rule fails whatever it
means, and so does a rule that is found in progress.

## Main definitions

* `State.FindsInProgress`, `Moment.Reenters` — a rule asks for itself
* `State.Records` — a property of every remembered outcome, in a table that no rule asked twice
* `State.Faithful`, `Moment.Plain` — the table and the answers are plain matches

## Main results

* `Derives.faithful` — evaluations keep tables faithful and answer plainly
* `Run.History.faithful` — so do runs
-/

namespace AddressGrammar.Peg

open Text

variable {R : Type}

/-! ### The primitives match plainly -/

namespace State

theorem takeByte_matches {call : R → Nat → Bool → Nat → Prop} {s t : State R} {input : String}
    {c : ByteClass} {b : Bool} (h : s.takeByte input c = (b, t)) :
    (Expr.byte c).Matches input call s.pos b t.pos := by
  unfold takeByte at h
  split at h <;> cases h
  · next hc => exact .byte hc
  · next hc =>
    rw [pos_miss]
    exact .byte_miss (Bool.eq_false_iff.mpr hc)

theorem takeRun_matches {call : R → Nat → Bool → Nat → Prop} {s t : State R} {input : String}
    {c : ByteClass} {b : Bool} (h : s.takeRun input c = (b, t)) :
    (Expr.run c).Matches input call s.pos b t.pos := by
  unfold takeRun at h
  split at h <;> cases h
  · next hc => exact .run hc
  · next hc =>
    rw [pos_miss]
    exact .run_miss (Bool.eq_false_iff.mpr hc)

theorem takeLiteral_matches {call : R → Nat → Bool → Nat → Prop} {s t : State R} {input : String}
    {bytes : List UInt8} {b : Bool} (h : s.takeLiteral input bytes = (b, t)) :
    (Expr.literal bytes).Matches input call s.pos b t.pos := by
  unfold takeLiteral at h
  split at h <;> cases h
  · next hs => exact .literal hs
  · next hs =>
    rw [pos_miss]
    exact .literal_miss (Bool.eq_false_iff.mpr hs)

end State

/-- A policy answers for the text of the span alone. -/
theorem askPolicy_answer {input : String} {policy : Policy} {start stop : Nat} {s t : State R}
    {b : Bool} (h : askPolicy input policy ⟨start, stop⟩ s = (b, t)) :
    (slice? input start stop).any policy.accepts = b ∧ t.pos = s.pos := by
  unfold askPolicy at h
  split at h
  · next text htext =>
    dsimp only at htext h
    rw [htext]
    split at h <;> cases h
    · next ha => exact ⟨ha, rfl⟩
    · next ha => exact ⟨Bool.eq_false_iff.mpr ha, State.pos_miss _⟩
  · next htext =>
    dsimp only at htext
    cases h
    rw [htext]
    exact ⟨rfl, s.pos_miss⟩

/-! ### Tables and answers -/

variable [DecidableEq R] {cfg : Setting R}

/-- The rule is in progress at the reading position. -/
def State.FindsInProgress (s : State R) (r : R) : Prop :=
  ∃ again, s.progress? r s.pos = some (.inProgress again)

/-- An application that found its own entry in progress. -/
def Moment.Reenters : Moment R → Prop
  | .opened _ _ => False
  | .answered r s _ _ => s.FindsInProgress r

/-- An answer that is a plain match, or a plain failure. -/
def Moment.Plain (cfg : Setting R) : Moment R → Prop
  | .opened _ _ => True
  | .answered r s o _ => cfg.grammar.Matches cfg.input r s.pos o.matched o.stop

/-- Every remembered outcome has a property, and no rule was found in progress. -/
structure State.Records (P : R → Nat → Outcome → Prop) (s : State R) : Prop where
  done : ∀ {r p o}, s.progress? r p = some (.done o) → P r p o
  unmarked : ∀ {r p}, s.progress? r p ≠ some (.inProgress true)

/-- The table holds plain matches. -/
abbrev State.Faithful (cfg : Setting R) (s : State R) : Prop :=
  s.Records fun r p o => cfg.grammar.Matches cfg.input r p o.matched o.stop

namespace State.Records

variable {P : R → Nat → Outcome → Prop} {s t : State R}

theorem initial : (State.initial : State R).Records P where
  done := by simp [State.initial, progress?]
  unmarked := by simp [State.initial, progress?]

theorem of_progress? (hs : s.Records P) (h : ∀ r p, t.progress? r p = s.progress? r p) :
    t.Records P where
  done := fun {r p _} hk => hs.done ((h r p).symm.trans hk)
  unmarked := fun {r p} hk => hs.unmarked ((h r p).symm.trans hk)

theorem of_memo (hs : s.Records P) (h : t.memo = s.memo) : t.Records P :=
  hs.of_progress? fun r p => progress?_of_memo_eq h r p

theorem begin (hs : s.Records P) (r : R) : (s.begin r).Records P where
  done := fun {q p o} hk => by
    rw [progress?_begin] at hk
    split at hk
    · cases hk
    · exact hs.done hk
  unmarked := fun {q p} hk => by
    rw [progress?_begin] at hk
    split at hk
    · cases hk
    · exact hs.unmarked hk

theorem settle (hs : s.Records P) {r : R} {p : Nat} {o : Outcome} (ho : P r p o) :
    (s.settle r p o).Records P where
  done := fun {q i o'} hk => by
    rw [progress?_settle] at hk
    split at hk
    · next heq =>
      cases hk
      rw [← heq.1, ← heq.2]
      exact ho
    · exact hs.done hk
  unmarked := fun {q i} hk => by
    rw [progress?_settle] at hk
    split at hk
    · cases hk
    · exact hs.unmarked hk

end State.Records

/-! ### Evaluations and runs -/

/-- An evaluation that does not hit the bound and in whose history no rule asks for itself keeps
the table faithful, answers every application plainly and is plain itself. Nothing is said about
growth, which takes a rule that asked for itself. -/
def Judgement.Faithful (cfg : Setting R) (h : List (Moment R)) : Judgement R → Prop
  | .expr e s b t => t.exhausted = false → (∀ m ∈ h, ¬m.Reenters) → s.Faithful cfg →
      t.Faithful cfg ∧ (∀ m ∈ h, m.Plain cfg) ∧
        e.Matches cfg.input (cfg.grammar.Matches cfg.input) s.pos b t.pos
  | .loop e s t => t.exhausted = false → (∀ m ∈ h, ¬m.Reenters) → s.Faithful cfg →
      t.Faithful cfg ∧ (∀ m ∈ h, m.Plain cfg) ∧
        (Expr.many e).Matches cfg.input (cfg.grammar.Matches cfg.input) s.pos true t.pos
  | .body r s o t => t.exhausted = false → (∀ m ∈ h, ¬m.Reenters) → s.Faithful cfg →
      t.Faithful cfg ∧ (∀ m ∈ h, m.Plain cfg) ∧ t.pos = o.stop ∧
        cfg.grammar.Matches cfg.input r s.pos o.matched o.stop
  | .growth _ _ _ _ _ _ => True
  | .rule r s o t => t.exhausted = false → (∀ m ∈ h, ¬m.Reenters) → s.Faithful cfg →
      t.Faithful cfg ∧ (∀ m ∈ h, m.Plain cfg) ∧ t.pos = o.stop ∧
        cfg.grammar.Matches cfg.input r s.pos o.matched o.stop

/-- **Evaluations are faithful.** -/
theorem Derives.faithful {j : Judgement R} {h : List (Moment R)} (hj : Derives cfg j h) :
    j.Faithful cfg h := by
  induction hj with
  | succeed => exact fun _ _ hf => ⟨hf, by simp, .succeed⟩
  | fail => exact fun _ _ hf => ⟨hf, by simp, .fail⟩
  | inspect => exact fun _ _ hf => ⟨hf.of_memo rfl, by simp, .inspect⟩
  | byte hb =>
    exact fun _ _ hf => ⟨hf.of_memo (State.reads_takeByte hb).memo, by simp,
      State.takeByte_matches hb⟩
  | run hb =>
    exact fun _ _ hf => ⟨hf.of_memo (State.reads_takeRun hb).memo, by simp,
      State.takeRun_matches hb⟩
  | literal hb =>
    exact fun _ _ hf => ⟨hf.of_memo (State.reads_takeLiteral hb).memo, by simp,
      State.takeLiteral_matches hb⟩
  | apply _ hb ih =>
    intro hx hh hf
    obtain ⟨ht, hp, hpos, hm⟩ := ih hx hh hf
    subst hb
    exact ⟨ht, hp, .apply (hpos ▸ hm)⟩
  | andThen _ he₂ ih₁ ih₂ =>
    intro hx hh hf
    rw [List.forall_mem_append] at hh
    obtain ⟨ht, hp₁, hm₁⟩ := ih₁ (he₂.since.not_exhausted hx) hh.1 hf
    obtain ⟨hu, hp₂, hm₂⟩ := ih₂ hx hh.2 ht
    exact ⟨hu, List.forall_mem_append.mpr ⟨hp₁, hp₂⟩, .andThen hm₁ hm₂⟩
  | andThen_miss _ ih =>
    intro hx hh hf
    obtain ⟨ht, hp, hm⟩ := ih hx hh hf
    exact ⟨ht, hp, .andThen_miss hm⟩
  | orElse _ ih =>
    intro hx hh hf
    obtain ⟨ht, hp, hm⟩ := ih hx hh hf
    exact ⟨ht, hp, .orElse hm⟩
  | orElse_next _ he₂ ih₁ ih₂ =>
    intro hx hh hf
    rw [List.forall_mem_append] at hh
    obtain ⟨ht, hp₁, hm₁⟩ := ih₁ (he₂.since.not_exhausted hx) hh.1 hf
    obtain ⟨hu, hp₂, hm₂⟩ := ih₂ hx hh.2 ht
    exact ⟨hu, List.forall_mem_append.mpr ⟨hp₁, hp₂⟩, .orElse_next hm₁ hm₂⟩
  | attempt _ ih =>
    intro hx hh hf
    obtain ⟨ht, hp, hm⟩ := ih hx hh hf
    exact ⟨ht, hp, .attempt hm⟩
  | attempt_miss _ ih =>
    intro hx hh hf
    obtain ⟨ht, hp, hm⟩ := ih hx hh hf
    exact ⟨ht.of_memo rfl, hp, .attempt_miss hm⟩
  | many _ ih => exact ih
  | notAhead _ ih =>
    intro hx hh hf
    rw [State.exhausted_miss] at hx
    obtain ⟨ht, hp, hm⟩ := ih hx hh hf
    refine ⟨ht.of_memo (State.memo_miss _), hp, ?_⟩
    rw [State.pos_miss]
    exact .notAhead hm
  | notAhead_miss _ ih =>
    intro hx hh hf
    obtain ⟨ht, hp, hm⟩ := ih hx hh hf
    exact ⟨ht.of_memo rfl, hp, .notAhead_miss hm⟩
  | ahead _ ih =>
    intro hx hh hf
    obtain ⟨ht, hp, hm⟩ := ih hx hh hf
    exact ⟨ht.of_memo rfl, hp, .ahead hm⟩
  | capture _ ih =>
    intro hx hh hf
    obtain ⟨ht, hp, hm⟩ := ih hx hh hf
    exact ⟨ht.of_memo rfl, hp, .capture hm⟩
  | capture_miss _ ih =>
    intro hx hh hf
    obtain ⟨ht, hp, hm⟩ := ih hx hh hf
    exact ⟨ht.of_memo rfl, hp, .capture_miss hm⟩
  | check _ ha ih =>
    intro hx hh hf
    obtain ⟨ht, hp, hm⟩ := ih ((since_askPolicy ha).not_exhausted hx) hh hf
    obtain ⟨hanswer, hpos⟩ := askPolicy_answer ha
    exact ⟨ht.of_memo (memo_askPolicy ha), hp, hpos ▸ .check hm hanswer⟩
  | check_refused _ ha ih =>
    intro hx hh hf
    obtain ⟨ht, hp, hm⟩ := ih ((since_askPolicy ha).not_exhausted hx) hh hf
    have hu := ht.of_memo (memo_askPolicy ha)
    exact ⟨hu.of_memo rfl, hp, .check_refused hm (askPolicy_answer ha).1⟩
  | check_miss _ ih =>
    intro hx hh hf
    obtain ⟨ht, hp, hm⟩ := ih hx hh hf
    exact ⟨ht.of_memo rfl, hp, .check_miss hm⟩
  | loop_miss _ ih =>
    intro hx hh hf
    obtain ⟨ht, hp, hm⟩ := ih hx hh hf
    exact ⟨ht.of_memo rfl, hp, .many_miss hm⟩
  | loop_still _ hpos ih =>
    intro hx hh hf
    obtain ⟨ht, hp, hm⟩ := ih hx hh hf
    rw [hpos] at hm ⊢
    exact ⟨ht, hp, .many_still hm⟩
  | loop_next _ hpos hl ih₁ ih₂ =>
    intro hx hh hf
    rw [List.forall_mem_append] at hh
    obtain ⟨ht, hp₁, hm₁⟩ := ih₁ (hl.since.not_exhausted hx) hh.1 hf
    obtain ⟨hu, hp₂, hm₂⟩ := ih₂ hx hh.2 ht
    exact ⟨hu, List.forall_mem_append.mpr ⟨hp₁, hp₂⟩, .many_next hm₁ hpos hm₂⟩
  | body _ ih =>
    intro hx hh hf
    rw [List.forall_mem_cons] at hh
    obtain ⟨ht, hp, hm⟩ := ih hx hh.2 (hf.of_memo rfl)
    exact ⟨ht.of_memo rfl, List.forall_mem_cons.mpr ⟨trivial, hp⟩, rfl, .of_body hm⟩
  | body_miss _ ih =>
    intro hx hh hf
    rw [List.forall_mem_cons] at hh
    obtain ⟨ht, hp, hm⟩ := ih hx hh.2 (hf.of_memo rfl)
    exact ⟨ht.of_memo rfl, List.forall_mem_cons.mpr ⟨trivial, hp⟩, rfl, .of_body hm⟩
  | grow | grow_stop => trivial
  | recalled he =>
    intro _ _ hf
    have hm := hf.done (State.progress?_of_get? he)
    exact ⟨hf.of_progress? fun q p => State.progress?_reuse _ _ _ q p,
      List.forall_mem_singleton.mpr hm, rfl, hm⟩
  | reentered he =>
    intro _ hh _
    exact absurd ⟨_, State.progress?_of_get? he⟩ (hh _ (List.mem_singleton.mpr rfl))
  | refused => exact fun hx => Bool.noConfusion hx
  | settled _ _ _ _ ih =>
    intro hx hh hf
    rw [List.forall_mem_append] at hh
    obtain ⟨ht, hp, hpos, hm⟩ := ih hx hh.1 (hf.begin _)
    exact ⟨ht.settle hm, List.forall_mem_append.mpr ⟨hp, List.forall_mem_singleton.mpr hm⟩, hpos, hm⟩
  | grown _ _ _ hs hg ih₁ _ =>
    intro hx hh hf
    rw [List.forall_mem_append, List.forall_mem_append] at hh
    obtain ⟨ht, -⟩ := ih₁ (hg.since.not_exhausted hx) hh.1.1 (hf.begin _)
    rw [Bool.and_eq_true, State.isReentered_iff] at hs
    exact absurd hs.2 ht.unmarked

/-- A run that is not exhausted and in which no rule asks for itself ends with a faithful table, and
answered every application plainly. -/
theorem Run.History.faithful {run : Run R} {steps : List (Step R)} {h : List (Moment R)}
    (hh : run.History steps h) (hv : run.state.Valid run.setting)
    (hx : (run.steps steps).2.isExhausted = false) (hm : ∀ m ∈ h, ¬m.Reenters)
    (hf : run.state.Faithful run.setting) :
    (run.steps steps).2.state.Faithful run.setting ∧ ∀ m ∈ h, m.Plain run.setting := by
  induction hh with
  | nil => exact ⟨hf, by simp⟩
  | @cons run step rest h₁ h₂ hs hr ih =>
    rw [List.forall_mem_append] at hm ⊢
    rw [Run.steps_cons] at hx ⊢
    have hf' : run.forgetReports.state.Faithful run.setting := hf.of_memo rfl
    have hnext : (run.step step).2.state.Faithful run.setting ∧ ∀ m ∈ h₁, m.Plain run.setting := by
      obtain ⟨r, o, hd⟩ | ⟨e, b, hd⟩ := hs.derives
      · obtain ⟨ht, hp, -⟩ := hd.faithful (hr.since.not_exhausted hx) hm.1 hf'
        exact ⟨ht, hp⟩
      · obtain ⟨ht, hp, -⟩ := hd.faithful (hr.since.not_exhausted hx) hm.1 hf'
        exact ⟨ht, hp⟩
    have hset := run.setting_step hv step
    obtain ⟨hfinal, hrest⟩ := ih (Run.valid_step hv step) hx hm.2 (hset ▸ hnext.1)
    rw [hset] at hfinal hrest
    exact ⟨hfinal, hnext.2, hrest⟩

/-! ### Runs from the beginning -/

/-- During the steps of a run the bound on nesting was not hit, and no rule asked for itself at the
position where it was being evaluated. -/
structure Run.Undisturbed (run : Run R) (steps : List (Step R)) (h : List (Moment R)) : Prop where
  history : run.History steps h
  not_exhausted : (run.steps steps).2.isExhausted = false
  not_reenters : ∀ m ∈ h, ¬m.Reenters

namespace Run.Undisturbed

variable {g : Grammar R} {input : String} {maxDepth : Nat} {steps : List (Step R)}
  {h : List (Moment R)}

theorem faithful (hu : (Run.start g input maxDepth).Undisturbed steps h) :
    ((Run.start g input maxDepth).steps steps).2.state.Faithful ⟨g, input, maxDepth⟩ :=
  (hu.history.faithful (Run.valid_start ..) hu.not_exhausted hu.not_reenters .initial).1

theorem plain (hu : (Run.start g input maxDepth).Undisturbed steps h) :
    ∀ m ∈ h, m.Plain ⟨g, input, maxDepth⟩ :=
  (hu.history.faithful (Run.valid_start ..) hu.not_exhausted hu.not_reenters .initial).2

/-- An outcome that a step reports is a plain match or a plain failure. -/
theorem plain_result (hu : (Run.start g input maxDepth).Undisturbed steps h)
    {before after : List (Step R)} {r : R} (hsteps : steps = before ++ .result r :: after) :
    ∃ o, (((Run.start g input maxDepth).steps before).2.step (.result r)).1.outcome? = some o ∧
      g.Matches input r ((Run.start g input maxDepth).steps before).2.pos o.matched o.stop := by
  subst hsteps
  obtain ⟨h₁, h₂, rfl, -, hrest⟩ := hu.history.split
  cases hrest with
  | @cons _ _ _ h₃ h₄ hs _ =>
    obtain ⟨o, -, hreport, hd⟩ := hs
    have hmem := List.mem_append_right h₁ (List.mem_append_left h₄ hd.answered_mem)
    exact ⟨o, hreport, hu.plain _ hmem⟩

end Run.Undisturbed

end AddressGrammar.Peg
