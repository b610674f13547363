import AddressGrammar.Proofs.Peg.Nesting
import AddressGrammar.Proofs.Peg.Preservation

/-!
# Runs that are moved about

Between its steps a run can be put back to a place that it has been at, or to any other place in its
input. Nothing else of it changes by that: the table, the farthest failure and the mark of the bound
stay, so what a step finds afterwards was learned somewhere else.

No rule is open between the steps of a run. Then `State.Valid` has nothing left to say about entries
in progress: there are none. What a run leaves behind is a table of outcomes, each of which begins
where it was asked for and ends within the input.

A restored position has to lie in the input. A run that is put behind its end would remember
failures there.

## Main definitions

* `Move`, `Move.Inside` — a step, or a change of position, and one that stays in the input
* `Run.move`, `Run.moves` — making moves
* `Run.Trace` — what happened during a list of moves

## Main results

* `Run.moves_kept` — the setting stays, the state stays valid and no rule is left open
* `Run.Trace.maintains` — moves maintain what evaluations do
* `table_settled` — what a run has to show between two moves
-/

namespace AddressGrammar.Peg

variable {R : Type}

/-- What is done with a run from outside. -/
inductive Move (R : Type) where
  /-- A step is made. -/
  | make (step : Step R)
  /-- The reading position is put somewhere. -/
  | restore (pos : Nat)

/-- The move stays in an input of that length. -/
def Move.Inside (length : Nat) : Move R → Prop
  | .make _ => True
  | .restore pos => pos ≤ length

instance (length : Nat) : DecidablePred (Move.Inside (R := R) length)
  | .make _ => .isTrue trivial
  | .restore pos => inferInstanceAs (Decidable (pos ≤ length))

variable [DecidableEq R]

namespace Run

/-- Makes one move. -/
def move (run : Run R) : Move R → Run R
  | .make step => (run.step step).2
  | .restore pos => { run with state := run.state.moveTo pos }

/-- Makes one move after the other. -/
def moves (run : Run R) : List (Move R) → Run R
  | [] => run
  | m :: rest => (run.move m).moves rest

/-- What happened during a list of moves. Restoring a position leaves no moment of its own. -/
inductive Trace : Run R → List (Move R) → List (Moment R) → Prop where
  | nil {run} : Trace run [] []
  | make {run step rest h₁ h₂} (hs : run.StepHistory step h₁)
      (hr : Trace (run.step step).2 rest h₂) : Trace run (.make step :: rest) (h₁ ++ h₂)
  | restore {run pos rest h} (hr : Trace (run.move (.restore pos)) rest h) :
      Trace run (.restore pos :: rest) h

/-! ### What moves keep -/

/-- No rule is open in the run, and its state is valid: it stands between two moves. -/
structure Rests (run : Run R) : Prop where
  valid : run.state.Valid run.setting
  frames : run.state.active.frames = []

theorem rests_start (g : Grammar R) (input : String) (maxDepth : Nat) :
    (start g input maxDepth).Rests :=
  ⟨valid_start g input maxDepth, rfl⟩

namespace Rests

variable {run : Run R}

/-- What a run remembers between two moves is done. -/
theorem exists_done (hr : run.Rests) {r : R} {p : Nat} {e : Entry}
    (he : run.state.memo.get? r p = some e) : ∃ o, e.progress = .done o := by
  have hp : run.state.progress? r p = some e.progress := by rw [State.progress?, he]; rfl
  cases hprogress : e.progress with
  | done o => exact ⟨o, rfl⟩
  | inProgress again =>
    rw [hprogress] at hp
    have hopen := hr.valid.inProgress hp
    rw [hr.frames] at hopen
    cases hopen

theorem move (hr : run.Rests) {m : Move R} (hm : m.Inside run.setting.length) :
    (run.move m).Rests := by
  cases m with
  | make step =>
    obtain ⟨-, h, -, hs⟩ := run.exists_step hr.valid step
    refine ⟨valid_step hr.valid step, ?_⟩
    rw [Run.move, (hs.reaches hr.valid).active]
    exact hr.frames
  | restore pos =>
    refine ⟨hr.valid.moveTo hm fun h => ?_, hr.frames⟩
    rw [hr.frames] at h
    cases h

theorem setting_move (hr : run.Rests) (m : Move R) : (run.move m).setting = run.setting := by
  cases m with
  | make step => exact run.setting_step hr.valid step
  | restore pos => rfl

theorem depth_eq (hr : run.Rests) : run.state.depth = 0 := by
  rw [State.depth, run.state.active.depth_eq, hr.frames]
  rfl

end Rests

/-- A move loses nothing that the run has learned. -/
theorem since_move {run : Run R} (hr : run.Rests) (m : Move R) :
    (run.move m).state.Since run.state := by
  cases m with
  | make step =>
    obtain ⟨-, h, -, hs⟩ := run.exists_step hr.valid step
    exact hs.since
  | restore pos => exact ⟨id, fun _ => id⟩

/-- **What moves keep**: the setting, and that the run stands between two moves. -/
theorem moves_kept {run : Run R} (hr : run.Rests) {moves : List (Move R)}
    (hin : ∀ m ∈ moves, m.Inside run.setting.length) :
    (run.moves moves).setting = run.setting ∧ (run.moves moves).Rests := by
  induction moves generalizing run with
  | nil => exact ⟨rfl, hr⟩
  | cons m rest ih =>
    obtain ⟨hm, hrest⟩ := List.forall_mem_cons.mp hin
    have hset := hr.setting_move m
    obtain ⟨hset', hr'⟩ := ih (hr.move hm) (hset ▸ hrest)
    exact ⟨hset'.trans hset, hr'⟩

/-! ### What happened during moves -/

/-- Every list of moves has a trace. -/
theorem Rests.exists_trace {run : Run R} (hr : run.Rests) {moves : List (Move R)}
    (hin : ∀ m ∈ moves, m.Inside run.setting.length) : ∃ h, run.Trace moves h := by
  induction moves generalizing run with
  | nil => exact ⟨[], .nil⟩
  | cons m rest ih =>
    obtain ⟨hm, hrest⟩ := List.forall_mem_cons.mp hin
    obtain ⟨h₂, ht⟩ := ih (hr.move hm) (hr.setting_move m ▸ hrest)
    cases m with
    | make step =>
      obtain ⟨-, h₁, -, hs⟩ := run.exists_step hr.valid step
      exact ⟨h₁ ++ h₂, .make hs ht⟩
    | restore pos => exact ⟨h₂, .restore ht⟩

/-- A list of moves has one trace. -/
theorem Trace.unique {run : Run R} {moves : List (Move R)} {h h' : List (Moment R)}
    (ht : run.Trace moves h) (ht' : run.Trace moves h') : h' = h := by
  induction ht generalizing h' with
  | nil =>
    cases ht'
    rfl
  | make hs _ ih =>
    cases ht' with
    | make hs' hr' => rw [hs.unique hs', ih hr']
  | restore _ ih =>
    cases ht' with
    | restore hr' => exact ih hr'

/-- Every application of a step leaves the position where its outcome ends. -/
theorem StepHistory.pos_eq {run : Run R} {step : Step R} {h : List (Moment R)}
    (hs : run.StepHistory step h) : ∀ r s o t, .answered r s o t ∈ h → t.pos = o.stop := by
  -- The relation that holds of everything is preserved, and comes with the position.
  have hany : run.setting.Maintains fun _ _ _ _ => True := ⟨fun _ _ _ => trivial, fun _ _ => trivial⟩
  exact fun r s o t hmem => ((hs.maintains hany fun _ _ _ _ => trivial).2 _ hmem).2

theorem Trace.pos_eq {run : Run R} {moves : List (Move R)} {h : List (Moment R)}
    (ht : run.Trace moves h) : ∀ r s o t, .answered r s o t ∈ h → t.pos = o.stop := by
  induction ht with
  | nil => simp
  | make hs _ ih =>
    intro r s o t hmem
    rcases List.mem_append.mp hmem with hmem | hmem
    · exact hs.pos_eq r s o t hmem
    · exact ih r s o t hmem
  | restore _ ih => exact ih

/-- **Moves maintain what evaluations do**, exhausted or not. -/
theorem Trace.maintains {run : Run R} {moves : List (Move R)} {h : List (Moment R)}
    {P : R → Nat → Bool → Nat → Prop} (ht : run.Trace moves h) (hr : run.Rests)
    (hin : ∀ m ∈ moves, m.Inside run.setting.length) (hc : run.setting.Maintains P)
    (hs : run.state.Stores P) : (run.moves moves).state.Stores P ∧ ∀ m ∈ h, m.Satisfies P := by
  induction ht with
  | nil => exact ⟨hs, by simp⟩
  | @make run step rest h₁ h₂ hstep _ ih =>
    obtain ⟨hm, hrest⟩ := List.forall_mem_cons.mp hin
    have hset : (run.step step).2.setting = run.setting := hr.setting_move (.make step)
    obtain ⟨hnext, hfirst⟩ := hstep.maintains hc hs
    obtain ⟨hlast, hlater⟩ := ih (hr.move (m := .make step) hm) (hset ▸ hrest) (hset ▸ hc) hnext
    exact ⟨hlast, List.forall_mem_append.mpr ⟨hfirst, hlater⟩⟩
  | restore _ ih =>
    obtain ⟨hm, hrest⟩ := List.forall_mem_cons.mp hin
    exact ih (hr.move hm) hrest hc (hs.of_memo rfl)

end Run

/-- **What a run has to show between two moves.** The position lies in the input. Every entry of the
table is done and filed under a position of the input; its outcome begins there, ends within the
input and not before, and is empty if it is a failure, which was recorded at that place or farther.
The farthest failure lies in the input and never comes back with a further move. Every application
on the way left the position where its outcome ends, and so does the next one. -/
theorem table_settled (g : Grammar R) (input : String) (maxDepth : Nat) (moves : List (Move R))
    (hin : ∀ m ∈ moves, m.Inside input.utf8ByteSize) :
    let run := Run.start g input maxDepth
    let last := run.moves moves
    let length := input.utf8ByteSize
    last.pos ≤ length ∧
    (∀ r p e, last.state.memo.get? r p = some e → p ≤ length ∧
      ∃ o, e.progress = .done o ∧ o.span = ⟨p, o.stop⟩ ∧ p ≤ o.stop ∧ o.stop ≤ length ∧
        (o.matched = false → o.stop = p ∧ ∃ q i, last.failure = some (q, i) ∧ p ≤ i)) ∧
    (∀ q i, last.failure = some (q, i) → i ≤ length) ∧
    (∀ m : Move R, m.Inside length → ∀ q i, last.failure = some (q, i) →
      ∃ q' i', (last.move m).failure = some (q', i') ∧ i ≤ i') ∧
    (∃ h, run.Trace moves h ∧ (∀ h', run.Trace moves h' → h' = h) ∧
      ∀ r s o t, .answered r s o t ∈ h → t.pos = o.stop) ∧
    ∀ r, (last.apply r).2.pos = (last.apply r).1.stop := by
  intro run last length
  have hrun : run.Rests := Run.rests_start g input maxDepth
  obtain ⟨h, ht⟩ := hrun.exists_trace hin
  obtain ⟨hset, hlast⟩ := Run.moves_kept hrun hin
  have hv : last.state.Valid run.setting := hset ▸ hlast.valid
  refine ⟨hv.pos_le, fun r p e he => ?_, fun q i hf => hv.failure_le hf, fun m _ q i hf => ?_,
    ⟨h, ht, fun h' ht' => ht.unique ht', ht.pos_eq⟩, fun r => ?_⟩
  · obtain ⟨o, ho⟩ := hlast.exists_done he
    have hk : last.state.progress? r p = some (.done o) := by rw [State.progress?, he, ← ho]; rfl
    have hfit := hv.done hk
    have hspan : o.span = ⟨p, o.stop⟩ := by rw [← hfit.start_eq]; rfl
    exact ⟨Nat.le_trans hfit.le_stop hfit.stop_le, o, ho, hspan, hfit.le_stop, hfit.stop_le,
      hfit.of_missed⟩
  · exact (Run.since_move hlast m).covers i ⟨q, i, hf, Nat.le_refl i⟩
  · obtain ⟨o, t, h', heq, hd⟩ := last.exists_apply hlast.valid r
    rw [heq]
    exact (hd.sound hlast.valid).2.2

/-- A run that grows a match, goes back into the middle of it and fails there. The match is
remembered still, and so is the failure, which lies behind the end of the match. -/
theorem table_settled_pluses :
    let moves := [Move.make (.result ()), .restore 1, .make .root]
    let last := (Run.start pluses "1+(" 5).moves moves
    (∀ m ∈ moves, m.Inside "1+(".utf8ByteSize) ∧
      last.state.memo.get? () 0 = some ⟨.done (.hit 0 2), 4⟩ ∧
      last.state.memo.get? () 1 = some ⟨.done (.missed 1), 2⟩ ∧
      last.failure = some ((), 2) ∧ last.pos ≤ "1+(".utf8ByteSize :=
  have hin : ∀ m ∈ [Move.make (.result ()), .restore 1, .make .root],
      m.Inside "1+(".utf8ByteSize := by decide
  ⟨hin, by decide, by decide, by decide,
    (table_settled pluses "1+(" 5 _ hin).1⟩

end AddressGrammar.Peg
