import AddressGrammar.Proofs.Peg.History
import AddressGrammar.Proofs.Peg.Translation

/-!
# Text before the reading position

A run that begins somewhere inside a text cannot tell what stands before that place, not even that
something does: whatever it is asked to do, it answers as it would on the rest of the text alone, with
all positions moved. That covers everything the run can be asked for afterwards: the matches and
outcomes of the steps, the texts that policies and captures were given, the reading position, the
table with its counts, and the farthest failure.

Both runs have room for every rule body that they can open, but not the same room, since the longer
text has more positions. An evaluation that comes to an end does so in the same way with more room.

## Main definitions

* `Report.Shifted`, `Run.Shifted` — reports and runs that are moved

## Main results

* `Run.steps_shifted` — the same steps on both runs
* `Run.memoEntries_shifted` — the entries of their tables
* `position_independent` — a run that begins behind a text
-/

namespace AddressGrammar.Peg

open Text

variable {R : Type} [DecidableEq R]

/-- The second report tells the same as the first one, `k` bytes farther on. -/
structure Report.Shifted (k : Nat) (x x' : Report R) : Prop where
  matched : x'.matched = x.matched
  outcome? : x'.outcome? = x.outcome?.map (Outcome.shift k)
  events : List.Forall₂ (Event.Shifted k) x.events x'.events

/-- The second run has the text `u` before the input of the first one, and has come as far behind
it. -/
structure Run.Shifted (u : String) (run run' : Run R) : Prop where
  setting : run'.setting = { run.setting with input := u ++ run.setting.input }
  state : run.state.Shifted u.utf8ByteSize True run'.state
  valid : run.state.Valid run.setting
  valid' : run'.state.Valid run'.setting

namespace Run.Shifted

variable {u : String} {run run' : Run R}

theorem settings (h : Run.Shifted u run run') : run.setting.Shifted u run'.setting := by
  rw [h.setting]
  exact ⟨fun _ => rfl, rfl, rfl⟩

theorem forgetReports (h : Run.Shifted u run run') :
    Run.Shifted u run.forgetReports run'.forgetReports :=
  ⟨h.setting, h.state.forgetEvents, h.valid.clearEvents, h.valid'.clearEvents⟩

/-- A rule application has the same outcome behind the text. -/
theorem apply (h : Run.Shifted u run run') (r : R) :
    (run'.apply r).1 = (run.apply r).1.shift u.utf8ByteSize ∧
      Run.Shifted u (run.apply r).2 (run'.apply r).2 := by
  obtain ⟨o, t, ht⟩ := Setting.exists_applyWithin r h.valid (Nat.le_add_right _ _)
  have hrel := Setting.applyWithin_shifted h.settings run.setting.nestingRoom r h.state
  obtain ⟨hnone, -⟩ | ⟨_, _, t', hsome, ht', hstate⟩ := cases_answered hrel
  · cases ht.symm.trans hnone
  cases ht.symm.trans hsome
  obtain ⟨_, hd⟩ := Setting.derives_of_applyWithin ht
  obtain ⟨_, hd'⟩ := Setting.derives_of_applyWithin ht'
  -- the second run has more room than that, and comes to the same
  obtain ⟨_, _, _, happly', hd''⟩ := run'.exists_apply h.valid' r
  obtain ⟨rfl, rfl, -⟩ := hd'.determined _ _ _ hd''
  rw [happly', Run.apply, ht]
  exact ⟨rfl, h.setting, hstate, (hd.sound h.valid).1.valid, (hd'.sound h.valid').1.valid⟩

/-- An expression has the same answer behind the text. -/
theorem eval (h : Run.Shifted u run run') (e : Expr R) :
    (run'.eval e).1 = (run.eval e).1 ∧ Run.Shifted u (run.eval e).2 (run'.eval e).2 := by
  obtain ⟨b, t, ht⟩ := Setting.exists_eval e h.valid
  have hrel := e.eval_shifted (Setting.callWithin_shifted h.settings run.setting.nestingRoom)
    run.setting.input _ _ h.state
  obtain ⟨hnone, -⟩ | ⟨_, _, t', hsome, ht', hstate⟩ := cases_flagged hrel
  · cases ht.symm.trans hnone
  cases ht.symm.trans hsome
  rw [← h.settings.input] at ht'
  obtain ⟨_, hd⟩ := Expr.derives_of_eval (run.setting.derives_of_call _) ht
  obtain ⟨_, hd'⟩ := Expr.derives_of_eval (run'.setting.derives_of_call _) ht'
  obtain ⟨_, _, _, heval', hd''⟩ := run'.exists_eval h.valid' e
  obtain ⟨rfl, rfl, -⟩ := hd'.determined _ _ _ hd''
  rw [eval_of_some ht, heval']
  exact ⟨rfl, h.setting, hstate, (hd.sound h.valid).valid, (hd'.sound h.valid').valid⟩

theorem parse (h : Run.Shifted u run run') (r : R) :
    (run'.parse r).1 = (run.parse r).1 ∧ Run.Shifted u (run.parse r).2 (run'.parse r).2 := by
  obtain ⟨houtcome, hrest⟩ := h.apply r
  have hexhausted := hrest.state.exhausted
  rw [parse_eq, parse_eq, isExhausted, isExhausted, houtcome, hexhausted]
  exact ⟨rfl, hrest⟩

end Run.Shifted

namespace Run

variable {u : String} {run run' : Run R}

/-- A step reports the same behind the text. -/
theorem step_shifted (h : Run.Shifted u run run') (step : Step R) :
    Report.Shifted u.utf8ByteSize (run.step step).1 (run'.step step).1 ∧
      Run.Shifted u (run.step step).2 (run'.step step).2 := by
  have hevents : ∀ {x x' : Run R}, Run.Shifted u x x' →
      List.Forall₂ (Event.Shifted u.utf8ByteSize) x.state.events.reverse x'.state.events.reverse :=
    fun hx => List.rel_reverse (hx.state.events trivial)
  have hforget := h.forgetReports
  rw [step_eq, step_eq]
  cases step with
  | root =>
    have hroot : run'.setting.grammar.root = run.setting.grammar.root := by rw [h.setting]
    dsimp only
    rw [hroot]
    obtain ⟨hmatched, hrest⟩ := hforget.parse run.setting.grammar.root
    exact ⟨⟨hmatched, rfl, hevents hrest⟩, hrest⟩
  | parse r =>
    obtain ⟨hmatched, hrest⟩ := hforget.parse r
    exact ⟨⟨hmatched, rfl, hevents hrest⟩, hrest⟩
  | result r =>
    obtain ⟨houtcome, hrest⟩ := hforget.apply r
    dsimp only
    rw [houtcome]
    exact ⟨⟨rfl, rfl, hevents hrest⟩, hrest⟩
  | eval e =>
    obtain ⟨hmatched, hrest⟩ := hforget.eval e
    exact ⟨⟨hmatched, rfl, hevents hrest⟩, hrest⟩

/-- **The same steps report the same behind the text.** -/
theorem steps_shifted (h : Run.Shifted u run run') (steps : List (Step R)) :
    List.Forall₂ (Report.Shifted u.utf8ByteSize) (run.steps steps).1 (run'.steps steps).1 ∧
      Run.Shifted u (run.steps steps).2 (run'.steps steps).2 := by
  induction steps generalizing run run' with
  | nil => exact ⟨.nil, h⟩
  | cons step rest ih =>
    obtain ⟨hreport, hnext⟩ := step_shifted h step
    obtain ⟨hreports, hlast⟩ := ih hnext
    exact ⟨.cons hreport hreports, hlast⟩

/-- The table of the second run has the entries of the first one, in the same order. -/
theorem memoEntries_shifted (h : Run.Shifted u run run') :
    run'.memoEntries =
      run.memoEntries.map fun x => (x.1, u.utf8ByteSize + x.2.1, x.2.2.shift u.utf8ByteSize) := by
  have hlength : run'.setting.length + 1 = u.utf8ByteSize + (run.setting.length + 1) := by
    rw [Setting.length, h.settings.input, String.utf8ByteSize_append, Setting.length, Nat.add_assoc]
  have hrules : run'.setting.grammar.rules = run.setting.grammar.rules := by rw [h.setting]
  unfold memoEntries
  rw [hlength, hrules, List.map_flatMap]
  congr 1
  funext r
  have hbefore : (List.range u.utf8ByteSize).filterMap (fun pos =>
      (run'.state.memo.get? r pos).map fun e => (r, pos, e)) = [] := by
    refine List.filterMap_eq_nil_iff.mpr fun pos hpos => ?_
    rw [h.state.memo.before trivial r pos (List.mem_range.mp hpos), Option.map_none]
  rw [List.range_add, List.filterMap_append, hbefore, List.nil_append, List.filterMap_map,
    List.map_filterMap]
  congr 1
  funext pos
  rw [Function.comp_apply, h.state.memo.get?_eq, Option.map_map, Option.map_map]
  rfl

/-- A fresh run behind the text is the fresh run on the rest, moved. -/
theorem shifted_startAt (g : Grammar R) (u v : String) (d : Nat) :
    Run.Shifted u (start g v d) (startAt g (u ++ v) d u.utf8ByteSize) where
  setting := rfl
  state :=
    { pos := rfl
      depth := rfl
      exhausted := rfl
      memo := .empty
      current := fun _ => rfl
      failure := fun _ => rfl
      events := fun _ => .nil }
  valid := valid_start g v d
  valid' := valid_startAt (String.utf8ByteSize_append ▸ Nat.le_add_right _ _)

end Run

/-- **Position independence.** A run on `u ++ v` is moved behind `u`, byte by byte and outside every
rule. From there, any list of steps reports what it reports on a fresh run on `v`, with all positions
moved by the length of `u`, the texts given to captures and policies included. The two runs end with
the reading position, the table, the farthest failure and the mark of the bound accordingly: nothing
depends on the text before. -/
theorem position_independent (g : Grammar R) (u v : String) (d : Nat) (steps : List (Step R)) :
    let k := u.utf8ByteSize
    let moved := ((Run.start g (u ++ v) d).steps (.replicate k (.eval .anyByte))).2
    let here := (Run.start g v d).steps steps
    let there := moved.steps steps
    moved = Run.startAt g (u ++ v) d k ∧
      List.Forall₂ (Report.Shifted k) here.1 there.1 ∧
      there.2.pos = k + here.2.pos ∧
      (∀ r p, there.2.state.memo.get? r (k + p) = (here.2.state.memo.get? r p).map (Entry.shift k)) ∧
      (∀ r p, p < k → there.2.state.memo.get? r p = none) ∧
      there.2.memoEntries = here.2.memoEntries.map (fun x => (x.1, k + x.2.1, x.2.2.shift k)) ∧
      there.2.failure = here.2.failure.shift k ∧
      there.2.isExhausted = here.2.isExhausted ∧
      there.2.state.depth = here.2.state.depth := by
  have hmoved : ((Run.start g (u ++ v) d).steps (.replicate u.utf8ByteSize (.eval .anyByte))).2 =
      Run.startAt g (u ++ v) d u.utf8ByteSize :=
    Run.steps_anyByte (String.utf8ByteSize_append ▸ Nat.le_add_right _ _)
  obtain ⟨hreports, h⟩ := Run.steps_shifted (Run.shifted_startAt g u v d) steps
  dsimp only
  rw [hmoved]
  exact ⟨rfl, hreports, h.state.pos, h.state.memo.get?_eq, h.state.memo.before trivial,
    Run.memoEntries_shifted h, h.state.failure trivial, h.state.exhausted, h.state.depth⟩

end AddressGrammar.Peg
