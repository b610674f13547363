import AddressGrammar.Proofs.Peg.LeftCalls
import AddressGrammar.Proofs.Peg.Moves

/-!
# What a rule answers

A run is moved about in its input, its rules are applied at the end of moves and inside one another,
and the table stands in for some of the work. As long as the bound on nesting is not hit, none of
that shows in an answer. Without left recursion every application comes to what its rule means at
the place where it was made, so a rule can be described once, by the plain meaning of its body, and
the description holds wherever and whenever the rule is applied.

What has to be carried from move to move is more than that the table holds plain matches. No rule of
a ranked grammar is found in progress because the rules that are open rank higher, and that argument
needs the table to respect the ranking as well.

## Main definitions

* `Grammar.Answers` — the outcomes of a rule at a position, in runs that did not hit their bound
* `Run.Plain` — what such a run keeps between two moves

## Main results

* `Run.Trace.plain` — every application on the way is plain
* `Grammar.Answers.matches` — an answer is what the rule means
* `Grammar.Ranking.exists_answers` — every rule has an answer at every position of the input
* `Grammar.Answers.hit_iff` — the end of a match is the one that the rule means
-/

namespace AddressGrammar.Peg

variable {R : Type} [DecidableEq R]

/-- The rule came to the outcome at the position, at the end of a move or inside another rule, in a
run that was moved about in its input and did not hit its bound on nesting. -/
def Grammar.Answers (g : Grammar R) (input : String) (r : R) (p : Nat) (o : Outcome) : Prop :=
  ∃ maxDepth moves h s t, (∀ m ∈ moves, m.Inside input.utf8ByteSize) ∧
    (Run.start g input maxDepth).Trace moves h ∧
    ((Run.start g input maxDepth).moves moves).isExhausted = false ∧
    .answered r s o t ∈ h ∧ s.pos = p

namespace Run

variable {cfg : Setting R} {k : cfg.grammar.Ranking} {run : Run R} {step : Step R} {r : R}
  {moves : List (Move R)} {h : List (Moment R)}

/-- The run has this setting, stands between two moves, and remembers plain answers that respect the
ranking. -/
structure Plain (cfg : Setting R) (k : cfg.grammar.Ranking) (run : Run R) : Prop where
  setting : run.setting = cfg
  rests : run.Rests
  respects : run.state.Records k.Respects
  faithful : run.state.Faithful cfg

theorem plain_start (cfg : Setting R) (k : cfg.grammar.Ranking) :
    (start cfg.grammar cfg.input cfg.maxDepth).Plain cfg k :=
  ⟨rfl, rests_start .., .initial, .initial⟩

/-- What was learned before moves is not lost by them. -/
theorem Rests.since_moves (hr : run.Rests) (hin : ∀ m ∈ moves, m.Inside run.setting.length) :
    (run.moves moves).state.Since run.state := by
  induction moves generalizing run with
  | nil => exact .refl _
  | cons m rest ih =>
    obtain ⟨hm, hrest⟩ := List.forall_mem_cons.mp hin
    exact (ih (hr.move hm) (hr.setting_move m ▸ hrest)).trans (since_move hr m)

namespace Plain

/-- A change of position changes nothing that is remembered. -/
theorem restore (hp : run.Plain cfg k) {pos : Nat} (hin : pos ≤ cfg.length) :
    (run.move (.restore pos)).Plain cfg k where
  setting := hp.setting
  rests := hp.rests.move (m := .restore pos) (by rw [hp.setting]; exact hin)
  respects := hp.respects.of_memo rfl
  faithful := hp.faithful.of_memo rfl

/-- **A step that does not hit the bound** is plain and valid at every moment. -/
theorem make (hp : run.Plain cfg k) (hs : run.StepHistory step h)
    (hx : (run.step step).2.isExhausted = false) :
    (run.step step).2.Plain cfg k ∧ ∀ m ∈ h, m.Plain cfg ∧ ∀ u ∈ m.states, u.Valid cfg := by
  obtain ⟨rfl, hrests, hrespects, hfaithful⟩ := hp
  have hv : run.forgetReports.state.Valid run.setting := hrests.valid.clearEvents
  have hrespects' : run.forgetReports.state.Records k.Respects := hrespects.of_memo rfl
  have hfaithful' : run.forgetReports.state.Faithful run.setting := hfaithful.of_memo rfl
  have habove : ∀ calls, k.Above run.forgetReports.state calls := by
    intro calls r hmem
    rw [show run.forgetReports.state.active.frames = [] from hrests.frames] at hmem
    cases hmem
  have hafter : (run.step step).2.state.Records k.Respects ∧
      (run.step step).2.state.Faithful run.setting ∧ ∀ m ∈ h, m.Plain run.setting := by
    obtain ⟨r, o, hd⟩ | ⟨e, b, hd⟩ := hs.derives
    · obtain ⟨ht, hm, -⟩ := hd.descends k hv hrespects' (habove _)
      obtain ⟨hf, hplain, -⟩ := hd.faithful hx hm hfaithful'
      exact ⟨ht, hf, hplain⟩
    · obtain ⟨ht, hm, -⟩ := hd.descends k hv hrespects' (habove _)
      obtain ⟨hf, hplain, -⟩ := hd.faithful hx hm hfaithful'
      exact ⟨ht, hf, hplain⟩
  exact ⟨⟨run.setting_step hrests.valid step, hrests.move (m := .make step) trivial, hafter.1,
    hafter.2.1⟩, fun m hm => ⟨hafter.2.2 m hm, (hs.nests hrests.valid).valid m hm⟩⟩

end Plain

/-- One move more. -/
theorem moves_concat (run : Run R) (moves : List (Move R)) (m : Move R) :
    run.moves (moves ++ [m]) = (run.moves moves).move m := by
  induction moves generalizing run with
  | nil => rfl
  | cons first rest ih => exact ih (run.move first)

theorem Trace.concat {h' : List (Moment R)} (ht : run.Trace moves h)
    (hs : (run.moves moves).StepHistory step h') : run.Trace (moves ++ [.make step]) (h ++ h') := by
  induction ht with
  | nil =>
    have htrace := Trace.make hs .nil
    rwa [List.append_nil] at htrace
  | make hs' _ ih =>
    rw [List.append_assoc]
    exact .make hs' (ih hs)
  | restore _ ih => exact .restore (ih hs)

/-- **Moves that do not hit the bound** are plain and valid at every moment. -/
theorem Trace.plain (ht : run.Trace moves h) (hp : run.Plain cfg k)
    (hin : ∀ m ∈ moves, m.Inside cfg.length) (hx : (run.moves moves).isExhausted = false) :
    (run.moves moves).Plain cfg k ∧ ∀ m ∈ h, m.Plain cfg ∧ ∀ u ∈ m.states, u.Valid cfg := by
  induction ht with
  | nil => exact ⟨hp, by simp⟩
  | @make run step rest h₁ h₂ hs _ ih =>
    obtain ⟨hm, hrest⟩ := List.forall_mem_cons.mp hin
    have hset : (run.step step).2.setting = cfg :=
      (hp.rests.setting_move (.make step)).trans hp.setting
    have hinside : ∀ m ∈ rest, m.Inside (run.move (.make step)).setting.length := by
      rw [show (run.move (.make step)).setting = cfg from hset]
      exact hrest
    have hlater := (hp.rests.move (m := .make step) trivial).since_moves hinside
    obtain ⟨hp', h₁'⟩ := hp.make hs (hlater.not_exhausted hx)
    obtain ⟨hlast, h₂'⟩ := ih hp' hrest hx
    exact ⟨hlast, List.forall_mem_append.mpr ⟨h₁', h₂'⟩⟩
  | restore _ ih =>
    obtain ⟨hm, hrest⟩ := List.forall_mem_cons.mp hin
    exact ih (hp.restore hm) hrest hx

end Run

variable {g : Grammar R} {input : String} {r : R} {p q : Nat} {o : Outcome}

namespace Grammar

/-- **An answer is what the rule means**, at a position of the input. -/
theorem Answers.matches (k : g.Ranking) (h : g.Answers input r p o) :
    g.Matches input r p o.matched o.stop ∧ p ≤ input.utf8ByteSize := by
  obtain ⟨maxDepth, moves, h, s, t, hin, ht, hx, hmem, rfl⟩ := h
  obtain ⟨hplain, hvalid⟩ := (ht.plain (Run.plain_start ⟨g, input, maxDepth⟩ k) hin hx).2 _ hmem
  exact ⟨hplain, (hvalid s (by simp [Moment.states])).pos_le⟩

/-- The outcome that a run reports at the end of its moves is an answer. -/
theorem answers_of_report (maxDepth : Nat) (moves : List (Move R))
    (hin : ∀ m ∈ moves, m.Inside input.utf8ByteSize)
    (hreport : (((Run.start g input maxDepth).moves moves).step (.result r)).1.outcome? = some o)
    (hx : (((Run.start g input maxDepth).moves moves).step (.result r)).2.isExhausted = false) :
    g.Answers input r ((Run.start g input maxDepth).moves moves).pos o := by
  have hrun := Run.rests_start g input maxDepth
  obtain ⟨h, ht⟩ := hrun.exists_trace hin
  obtain ⟨-, hlast⟩ := Run.moves_kept hrun hin
  obtain ⟨-, h', -, hs⟩ := Run.exists_step _ hlast.valid (.result r)
  have ⟨o', _, heq, hd⟩ := hs
  obtain rfl : o = o' := Option.some.inj (hreport.symm.trans heq)
  refine ⟨maxDepth, moves ++ [.make (.result r)], h ++ h', _, _, ?_, ht.concat hs, ?_,
    List.mem_append_right _ hd.answered_mem, rfl⟩
  · exact List.forall_mem_append.mpr ⟨hin, by simp [Move.Inside]⟩
  · rw [Run.moves_concat]
    exact hx

/-- **Every rule has an answer at every position**, in a run with room for all rules. -/
theorem exists_answers (g : Grammar R) (hp : p ≤ input.utf8ByteSize) (r : R) :
    ∃ o, g.Answers input r p o := by
  let maxDepth := g.rules.length * (input.utf8ByteSize + 1)
  let run := (Run.start g input maxDepth).moves [.restore p]
  have hin : ∀ m ∈ [Move.restore p], Move.Inside (R := R) input.utf8ByteSize m := by simpa [Move.Inside]
  obtain ⟨-, hrests⟩ := Run.moves_kept (Run.rests_start g input maxDepth) hin
  obtain ⟨-, h, -, hs⟩ := run.exists_step hrests.valid (.result r)
  obtain ⟨o, -, hreport, hd⟩ := hs
  have hv : run.forgetReports.state.Valid run.setting := hrests.valid.clearEvents
  exact ⟨o, answers_of_report _ _ hin hreport ((hd.nests hv).spared (Nat.le_refl _) rfl)⟩

/-- Where the rule matched, and how far, is given by its meaning. -/
theorem Answers.hit_iff (k : g.Ranking) (h : g.Answers input r p o) :
    o.matched = true ∧ o.stop = q ↔ g.Matches input r p true q := by
  obtain ⟨hm, -⟩ := h.matches k
  constructor
  · rintro ⟨hb, rfl⟩
    rwa [hb] at hm
  · intro hq
    obtain ⟨hb, hstop⟩ := hq.unique hm
    exact ⟨hb, hstop⟩

end Grammar

end AddressGrammar.Peg
