import AddressGrammar.Proofs.Peg.History

/-!
# How deeply rule bodies nest

The bound on nesting is checked when a rule is applied, before its body is opened. That the open
rules never exceed it is therefore plain. That they never exceed the number of rules times the
number of positions is not: it needs that no rule is open twice at a position, and during growth a
body is opened although its rule has an entry already. So nothing can be said from the table alone.
What carries the argument is `State.Valid`, which holds at every moment of a history, and
`State.Growing`, which keeps the rule that is grown apart from those that are open.

## Main definitions

* `Moment.states` — the states that a run is in at a moment
* `State.Nests` — what an evaluation does to the bound, and to the moments on its way
* `Judgement.Ready` — an evaluation begins as a run begins it

## Main results

* `Derives.nests` — every moment of an evaluation is valid, and the bound is not hit for want of
  room that is there
* `nesting_bounded` — the same for runs, with what it means for parsing
-/

namespace AddressGrammar.Peg

variable {R : Type}

/-- The states of a run at a moment: the one in which a body is begun, and those around an
answer. -/
def Moment.states : Moment R → List (State R)
  | .opened _ s => [s]
  | .answered _ s _ t => [s, t]

theorem exhausted_askPolicy {input : String} {policy : Policy} {span : Span} {s t : State R}
    {b : Bool} (h : askPolicy input policy span s = (b, t)) : t.exhausted = s.exhausted := by
  obtain ⟨-, e, rfl⟩ | ⟨-, u, rfl, rfl | ⟨e, rfl⟩⟩ := askPolicy_eq h
  · rfl
  · exact State.exhausted_miss _
  · exact State.exhausted_miss _

theorem State.Reads.exhausted {length : Nat} {s t : State R} {b : Bool} (h : s.Reads length b t) :
    t.exhausted = s.exhausted := by
  obtain ⟨-, p, -, -, rfl⟩ | ⟨-, rfl⟩ := h
  · rfl
  · exact s.exhausted_miss

variable [DecidableEq R] {cfg : Setting R}

/-- Every moment between `s` and `t` is a valid one, with the rules still open that are open in `s`
and with nothing learned that is lost in `t`. A body is begun with its rule on top. The bound is not
hit if there is as much room as can be needed. -/
structure State.Nests (cfg : Setting R) (h : List (Moment R)) (s t : State R) : Prop where
  valid : ∀ m ∈ h, ∀ u ∈ m.states, u.Valid cfg
  inside : ∀ m ∈ h, ∀ u ∈ m.states, s.active.frames <:+ u.active.frames
  since : ∀ m ∈ h, ∀ u ∈ m.states, t.Since u
  top : ∀ r u, .opened r u ∈ h → u.active.frames.head? = some (r, u.pos)
  spared : cfg.nestingRoom ≤ cfg.maxDepth → s.exhausted = false → t.exhausted = false

namespace State.Nests

variable {s t u : State R} {h h₁ h₂ : List (Moment R)}

theorem nil (hspared : cfg.nestingRoom ≤ cfg.maxDepth → s.exhausted = false → t.exhausted = false) :
    State.Nests cfg [] s t where
  valid := by simp
  inside := by simp
  since := by simp
  top := by simp
  spared := hspared

/-- An evaluation and then another one. -/
theorem append (hs : State.Nests cfg h₁ s t) (ht : State.Nests cfg h₂ t u)
    (ha : t.active = s.active) (hu : u.Since t) : State.Nests cfg (h₁ ++ h₂) s u where
  valid := List.forall_mem_append.mpr ⟨hs.valid, ht.valid⟩
  inside := List.forall_mem_append.mpr ⟨hs.inside, ha ▸ ht.inside⟩
  since := List.forall_mem_append.mpr ⟨fun m hm v hv => hu.trans (hs.since m hm v hv), ht.since⟩
  top := fun r v hmem => (List.mem_append.mp hmem).elim (hs.top r v) (ht.top r v)
  spared := fun hroom hx => ht.spared hroom (hs.spared hroom hx)

/-- Changes around an evaluation that leave the bound alone. -/
theorem around {s' t' : State R} (hst : State.Nests cfg h s t)
    (ha : s'.active.frames <:+ s.active.frames) (hs : s'.exhausted = s.exhausted)
    (ht : t'.exhausted = t.exhausted) (hsince : t'.Since t) : State.Nests cfg h s' t' where
  valid := hst.valid
  inside := fun m hm u hu => ha.trans (hst.inside m hm u hu)
  since := fun m hm u hu => hsince.trans (hst.since m hm u hu)
  top := hst.top
  spared := fun hroom hx => ht.trans (hst.spared hroom (hs.symm.trans hx))

/-- Changes behind an evaluation that only add to what was learned. -/
theorem after {t' : State R} (hst : State.Nests cfg h s t) (ht : t'.exhausted = t.exhausted)
    (hsince : t'.Since t) : State.Nests cfg h s t' :=
  hst.around List.suffix_rfl rfl ht hsince

/-- A body between the moment in which it is begun and the closing of its rule. -/
theorem opened {r : R} (hst : State.Nests cfg h (s.enter r) t) (hv : (s.enter r).Valid cfg)
    (hsince : t.Since s) : State.Nests cfg (.opened r (s.enter r) :: h) s t where
  valid := List.forall_mem_cons.mpr ⟨by simpa [Moment.states] using hv, hst.valid⟩
  inside := List.forall_mem_cons.mpr
    ⟨List.forall_mem_singleton.mpr (List.suffix_cons _ _),
      fun m hm u hu => (List.suffix_cons _ _).trans (hst.inside m hm u hu)⟩
  since := List.forall_mem_cons.mpr
    ⟨by simpa [Moment.states] using ⟨hsince.exhausted, hsince.covers⟩, hst.since⟩
  top := fun q u hmem => by
    rcases List.mem_cons.mp hmem with heq | hmem
    · cases heq
      rfl
    · exact hst.top q u hmem
  spared := hst.spared

/-- An application ends with its answer. -/
theorem answered {r : R} {o : Outcome} (hst : State.Nests cfg h s t) (hs : s.Valid cfg)
    (ht : s.Reaches cfg t) (hsince : t.Since s) :
    State.Nests cfg (h ++ [.answered r s o t]) s t where
  valid := List.forall_mem_append.mpr ⟨hst.valid, by simpa [Moment.states] using ⟨hs, ht.valid⟩⟩
  inside := List.forall_mem_append.mpr
    ⟨hst.inside, by simp [Moment.states, ht.active]⟩
  since := List.forall_mem_append.mpr
    ⟨hst.since, by simpa [Moment.states] using ⟨hsince, State.Since.refl t⟩⟩
  top := fun q u hmem => by
    rcases List.mem_append.mp hmem with hmem | hmem
    · exact hst.top q u hmem
    · cases List.mem_singleton.mp hmem
  spared := hst.spared

end State.Nests

/-- An evaluation begins in a valid state, a body with its rule open, and a growth with a match to
improve on. -/
def Judgement.Ready (cfg : Setting R) : Judgement R → Prop
  | .expr _ s _ _ => s.Valid cfg
  | .loop _ s _ => s.Valid cfg
  | .body r s _ _ => (s.enter r).Valid cfg
  | .growth r start best s _ _ => s.Growing cfg r start best
  | .rule _ s _ _ => s.Valid cfg

/-- A rule that is refused at the bound leaves no room for it. -/
theorem State.Valid.maxDepth_lt_of_refused {s : State R} (hv : s.Valid cfg) {r : R}
    (hn : s.memo.get? r s.pos = none) (hd : cfg.maxDepth ≤ s.depth) :
    cfg.maxDepth < cfg.nestingRoom := by
  have hfree := hv.not_mem_of_progress? (State.progress?_eq_none.mpr hn)
  have hroom := hv.length_frames_lt hv.pos_le hfree
  rw [State.depth, s.active.depth_eq] at hd
  omega

/-- **Every moment of an evaluation is valid**, and the bound is not hit if there is as much room as
can be needed. -/
theorem Derives.nests {j : Judgement R} {h : List (Moment R)} (hj : Derives cfg j h)
    (hready : j.Ready cfg) : State.Nests cfg h j.before j.after := by
  have hadds : ∀ {t t' : State R}, t'.exhausted = t.exhausted → t'.failure = t.failure →
      t'.Since t := fun hx hf => ⟨fun h => hx.trans h, fun _ hc => hf ▸ hc⟩
  induction hj with
  | succeed | fail | inspect => exact .nil fun _ => id
  | byte hb => exact .nil fun _ hx => (State.reads_takeByte hb).exhausted.trans hx
  | run hb => exact .nil fun _ hx => (State.reads_takeRun hb).exhausted.trans hx
  | literal hb => exact .nil fun _ hx => (State.reads_takeLiteral hb).exhausted.trans hx
  | apply _ _ ih | andThen_miss _ ih | orElse _ ih | attempt _ ih | many _ ih | loop_still _ _ ih =>
    exact ih hready
  | andThen he₁ he₂ ih₁ ih₂ | orElse_next he₁ he₂ ih₁ ih₂ | loop_next he₁ _ he₂ ih₁ ih₂ =>
    have ht := he₁.sound hready
    exact (ih₁ hready).append (ih₂ ht.valid) ht.active he₂.since
  | attempt_miss _ ih | notAhead_miss _ ih | ahead _ ih | capture _ ih | capture_miss _ ih
  | check_miss _ ih | loop_miss _ ih => exact (ih hready).after rfl (hadds rfl rfl)
  | notAhead _ ih =>
    exact (ih hready).after (State.exhausted_miss _) (State.Since.miss (hadds rfl rfl))
  | check _ hp ih => exact (ih hready).after (exhausted_askPolicy hp) (since_askPolicy hp)
  | check_refused _ hp ih =>
    have hst := (ih hready).after (exhausted_askPolicy hp) (since_askPolicy hp)
    exact hst.after rfl (hadds rfl rfl)
  | body he ih =>
    have hst := State.Nests.opened (ih hready) hready ⟨he.since.exhausted, he.since.covers⟩
    exact hst.after rfl (hadds rfl rfl)
  | body_miss he ih =>
    have hst := State.Nests.opened (ih hready) hready ⟨he.since.exhausted, he.since.covers⟩
    exact hst.after rfl ⟨id, fun _ hc => hc.record _ _⟩
  | @grow r start best s next t o u h₁ h₂ hb hlt hg ih₁ ih₂ =>
    have hc := hb.sound hready.enter
    have hst : State.Nests cfg h₁ s (t.settle r start next) :=
      (ih₁ hready.enter).around List.suffix_rfl rfl rfl (hadds rfl rfl)
    exact hst.append (ih₂ (hready.next hc hlt.1)) hc.active hg.since
  | grow_stop _ _ ih => exact (ih hready.enter).around List.suffix_rfl rfl rfl (hadds rfl rfl)
  | @recalled r s o k he =>
    have hd : Derives cfg (.rule r s o (s.reuse r o)) _ := .recalled he
    have hst : State.Nests cfg [] s (s.reuse r o) := .nil fun _ => id
    exact hst.answered hready (hd.sound hready).1 hd.since
  | @reentered r s again k he =>
    have hd : Derives cfg (.rule r s (.missed s.pos) (s.reenter r)) _ := .reentered he
    have hst : State.Nests cfg [] s (s.reenter r) := .nil fun _ => id
    exact hst.answered hready (hd.sound hready).1 hd.since
  | @refused r s hn hdepth =>
    have hd : Derives cfg (.rule r s (.missed s.pos) (s.refuse r)) _ := .refused hn hdepth
    have hst : State.Nests cfg [] s (s.refuse r) := .nil fun hroom _ =>
      absurd (hready.maxDepth_lt_of_refused hn hdepth) (Nat.not_lt_of_le hroom)
    exact hst.answered hready (hd.sound hready).1 hd.since
  | @settled r s o t h hn hd hb hg ih =>
    have hder : Derives cfg (.rule r s o (t.settle r s.pos o)) _ := .settled hn hd hb hg
    have hv := hready.enter_begin (State.progress?_eq_none.mpr hn) hd
    have hst : State.Nests cfg h s (t.settle r s.pos o) :=
      (ih hv).around List.suffix_rfl rfl rfl (hadds rfl rfl)
    exact hst.answered hready (hder.sound hready).1 hder.since
  | @grown r s seed t o u h₁ h₂ hn hd hb hs hg ih₁ ih₂ =>
    have hder : Derives cfg (.rule r s o u) _ := .grown hn hd hb hs hg
    have hv := hready.enter_begin (State.progress?_eq_none.mpr hn) hd
    have hc := hb.sound hv
    have hgrow := hc.growing_seed hready hn hd (Bool.and_eq_true_iff.mp hs).1
    have hst : State.Nests cfg h₁ s (t.settle r s.pos seed) :=
      (ih₁ hv).around List.suffix_rfl rfl rfl (hadds rfl rfl)
    exact (hst.append (ih₂ hgrow) hc.active hg.since).answered hready (hder.sound hready).1
      hder.since

/-! ### Runs -/

namespace Run

variable {run : Run R} {steps : List (Step R)} {h : List (Moment R)}

theorem StepHistory.nests {step : Step R} (hs : run.StepHistory step h)
    (hv : run.state.Valid run.setting) :
    State.Nests run.setting h run.state (run.step step).2.state := by
  have hv' : run.forgetReports.state.Valid run.setting := hv.clearEvents
  obtain ⟨r, o, hd⟩ | ⟨e, b, hd⟩ := hs.derives
  · exact (hd.nests hv').around List.suffix_rfl rfl rfl (.refl _)
  · exact (hd.nests hv').around List.suffix_rfl rfl rfl (.refl _)

/-- **Every moment of a run is valid.** -/
theorem History.nests (hh : run.History steps h) (hv : run.state.Valid run.setting) :
    State.Nests run.setting h run.state (run.steps steps).2.state := by
  induction hh with
  | nil => exact .nil fun _ => id
  | @cons run step rest h₁ h₂ hs hr ih =>
    have hrest := ih (valid_step hv step)
    rw [run.setting_step hv step] at hrest
    exact (hs.nests hv).append hrest (hs.reaches hv).active hr.since

/-- A parse succeeds only on a run that did not hit the bound, before or during the parse. -/
theorem not_exhausted_of_parse (hv : run.state.Valid run.setting) {r : R}
    (h : (run.parse r).1 = true) :
    (run.parse r).2.isExhausted = false ∧ run.isExhausted = false := by
  obtain ⟨o, t, h', heq, hd⟩ := run.exists_apply hv r
  rw [parse, heq, Bool.and_eq_true, Bool.not_eq_true'] at h
  refine ⟨?_, hd.since.not_exhausted h.2⟩
  rw [parse, heq]
  exact h.2

end Run

/-- **The nesting of rule bodies is bounded.** At every moment of a run the rules whose bodies are
being evaluated are distinct as pairs with the positions where they began, the one begun last on
top, so there are at most as many as the bound allows and at most as many as there are rules times
positions. A bound that large is never hit. After every list of steps no rule is open. A run that
hit its bound stays exhausted, and an exhausted run does not parse. -/
theorem nesting_bounded (g : Grammar R) (input : String) (maxDepth : Nat) (steps : List (Step R)) :
    let run := Run.start g input maxDepth
    let last := (run.steps steps).2
    let room := g.rules.length * (input.utf8ByteSize + 1)
    (∃ h, run.History steps h ∧ (∀ h', run.History steps h' → h' = h) ∧
      (∀ r s, .opened r s ∈ h → s.active.frames.head? = some (r, s.pos)) ∧
      ∀ m ∈ h, ∀ s ∈ m.states, s.active.frames.Nodup ∧ s.depth = s.active.frames.length ∧
        s.depth ≤ maxDepth ∧ s.depth ≤ room ∧ (s.exhausted = true → last.isExhausted = true)) ∧
    (room ≤ maxDepth → last.isExhausted = false) ∧
    last.state.depth = 0 ∧
    (∀ first rest, steps = first ++ rest → (run.steps first).2.isExhausted = true →
      last.isExhausted = true) ∧
    ∀ r, (last.parse r).1 = true →
      (last.parse r).2.isExhausted = false ∧ last.isExhausted = false := by
  intro run last room
  have hv : run.state.Valid run.setting := Run.valid_start g input maxDepth
  obtain ⟨h, hh⟩ := run.exists_history hv steps
  have hnests := hh.nests hv
  obtain ⟨hset, hlast, hactive⟩ := Run.steps_kept hv steps
  refine ⟨⟨h, hh, fun h' hh' => hh.unique hh', hnests.top, fun m hm s hs => ?_⟩, ?_, ?_, ?_, ?_⟩
  · have hs' := hnests.valid m hm s hs
    exact ⟨hs'.nodup, s.active.depth_eq, hs'.depth_le, hs'.depth_le_nestingRoom,
      (hnests.since m hm s hs).exhausted⟩
  · exact fun hroom => hnests.spared hroom rfl
  · rw [State.depth, hactive]
    rfl
  · rintro first rest rfl hx
    obtain ⟨-, h₂, -, -, hrest⟩ := hh.split
    have hsteps : last = ((run.steps first).2.steps rest).2 := run.steps_append first rest
    rw [hsteps]
    exact hrest.since.exhausted hx
  · have hv' : last.state.Valid last.setting := by rwa [hset]
    exact fun r hparse => last.not_exhausted_of_parse hv' hparse

/-- A digit and pluses behind it, or the same in brackets. -/
def pluses : Grammar Unit where
  rules := [()]
  root := ()
  name := fun _ => "pluses"
  label := fun _ => "pluses"
  production := fun _ => ""
  body := fun _ => .alt [.seq [.apply (), .token '+'], .seq [.token '(', .apply (), .token ')'],
    .token '1']
  mem_rules := fun _ => List.mem_singleton_self ()

/-- The bound that is never hit on an input, and one that is hit there. The rule grows inside its
brackets and around them. -/
theorem nesting_bounded_pluses :
    1 * ("((1+)+)+".utf8ByteSize + 1) ≤ 9 ∧
      ((Run.start pluses "((1+)+)+" 9).steps [.root]).2.isExhausted = false ∧
      ((Run.start pluses "((1+)+)+" 2).steps [.root]).2.isExhausted = true :=
  ⟨by decide, (nesting_bounded pluses "((1+)+)+" 9 [.root]).2.1 (by decide), by decide +kernel⟩

end AddressGrammar.Peg
