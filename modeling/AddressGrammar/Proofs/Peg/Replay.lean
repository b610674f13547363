import AddressGrammar.Proofs.Peg.Lockstep
import AddressGrammar.Proofs.Peg.Validity

/-!
# Evaluating once more

An evaluation that is made a second time, in a state that remembers all answers it got the first
time, goes the same way again. What it was told by rules in progress would not be remembered, so the
rules it applies must not be open. Everything else that it was told is remembered the moment it is
told.

## Main definitions

* `State.Recalls` — a state remembers the outcomes that another one does
* `State.Idle` — no rule of a set is open
* `Judgement.Replays` — an evaluation repeats itself where its answers are remembered

## Main results

* `Derives.replays` — evaluations repeat themselves
-/

namespace AddressGrammar.Peg

open Text

variable {R : Type}

namespace State

variable {s s' t : State R} {b : Bool}

/-- What a primitive reads depends on the reading position alone. -/
theorem moveIf_of_pos (hs : s'.pos = s.pos) {test : Bool} {stop : Nat}
    (h : s.moveIf test stop = (b, t)) : ∃ t', s'.moveIf test stop = (b, t') ∧ t'.pos = t.pos := by
  cases test <;> cases h
  · exact ⟨_, rfl, by rw [pos_miss, pos_miss, hs]⟩
  · exact ⟨_, rfl, rfl⟩

theorem takeByte_of_pos (hs : s'.pos = s.pos) {input : String} {c : ByteClass}
    (h : s.takeByte input c = (b, t)) : ∃ t', s'.takeByte input c = (b, t') ∧ t'.pos = t.pos := by
  rw [takeByte_eq, hs]
  exact moveIf_of_pos hs h

theorem takeRun_of_pos (hs : s'.pos = s.pos) {input : String} {c : ByteClass}
    (h : s.takeRun input c = (b, t)) : ∃ t', s'.takeRun input c = (b, t') ∧ t'.pos = t.pos := by
  rw [takeRun_eq, hs]
  exact moveIf_of_pos hs h

theorem takeLiteral_of_pos (hs : s'.pos = s.pos) {input : String} {bytes : List UInt8}
    (h : s.takeLiteral input bytes = (b, t)) :
    ∃ t', s'.takeLiteral input bytes = (b, t') ∧ t'.pos = t.pos := by
  rw [takeLiteral_eq, hs]
  exact moveIf_of_pos hs h

theorem askPolicy_of_pos (hs : s'.pos = s.pos) {input : String} {policy : Policy} {span : Span}
    (h : askPolicy input policy span s = (b, t)) :
    ∃ t', askPolicy input policy span s' = (b, t') ∧ t'.pos = t.pos := by
  unfold askPolicy at h ⊢
  split at h
  · dsimp only at h ⊢
    split at h <;> cases h
    · next ha => exact ⟨_, if_pos ha, hs⟩
    · next ha => exact ⟨_, if_neg ha, by rw [pos_miss, pos_miss]; exact hs⟩
  · cases h
    exact ⟨_, rfl, by rw [pos_miss, pos_miss, hs]⟩

end State

variable [DecidableEq R] {K : R → Prop} {cfg : Setting R}

namespace State

/-- The outcomes that `s` remembers of a set of rules are remembered in `t`. -/
def Recalls (K : R → Prop) (t s : State R) : Prop :=
  ∀ r p o, K r → s.progress? r p = some (.done o) → t.progress? r p = some (.done o)

/-- No rule of the set is open. -/
def Idle (K : R → Prop) (s : State R) : Prop := ∀ r p, (r, p) ∈ s.active.frames → ¬K r

end State

/-- An evaluation over a set of rules, none of which is open, goes the same way again wherever the
answers that it got are remembered. An answer is remembered when it is given. -/
def Judgement.Replays (K : R → Prop) (cfg : Setting R) : Judgement R → Prop
  | .expr e s b t => e.Within K → s.Valid cfg → s.Idle K → t.exhausted = false →
      ∀ s', s'.pos = s.pos → s'.Recalls K t →
        ∃ t' h', Derives cfg (.expr e s' b t') h' ∧ t'.pos = t.pos
  | .loop e s t => e.Within K → s.Valid cfg → s.Idle K → t.exhausted = false →
      ∀ s', s'.pos = s.pos → s'.Recalls K t →
        ∃ t' h', Derives cfg (.loop e s' t') h' ∧ t'.pos = t.pos
  | .body _ _ _ _ => True
  | .growth r start best s o t =>
      s.progress? r start = some (.done best) → t.progress? r start = some (.done o)
  | .rule r s o t => K r → s.Valid cfg → s.Idle K → t.exhausted = false →
      t.progress? r s.pos = some (.done o)

/-- **Evaluations repeat themselves.** -/
theorem Derives.replays {j : Judgement R} {h : List (Moment R)} (hj : Derives cfg j h) :
    j.Replays K cfg := by
  have later : ∀ {e : Expr R} {s s' t : State R} {b : Bool} {h : List (Moment R)},
      Derives cfg (.expr e s b t) h → s'.Recalls K t → s'.Recalls K s :=
    fun hd hs r p o hr hk => hs r p o hr (hd.knows r p o hk)
  have kept : ∀ {e : Expr R} {s t u : State R} {b : Bool} {h : List (Moment R)},
      Derives cfg (.expr e s b t) h → s.Recalls K u → t.Recalls K u :=
    fun hd hs r p o hr hk => hd.knows r p o (hs r p o hr hk)
  induction hj with
  | succeed => exact fun _ _ _ _ s' hs _ => ⟨s', _, .succeed, hs⟩
  | fail => exact fun _ _ _ _ s' hs _ => ⟨s', _, .fail, hs⟩
  | inspect => exact fun _ _ _ _ s' hs _ => ⟨_, _, .inspect, hs⟩
  | byte hb =>
    intro _ _ _ _ s' hs _
    obtain ⟨t', ht', hpos⟩ := State.takeByte_of_pos hs hb
    exact ⟨t', _, .byte ht', hpos⟩
  | run hb =>
    intro _ _ _ _ s' hs _
    obtain ⟨t', ht', hpos⟩ := State.takeRun_of_pos hs hb
    exact ⟨t', _, .run ht', hpos⟩
  | literal hb =>
    intro _ _ _ _ s' hs _
    obtain ⟨t', ht', hpos⟩ := State.takeLiteral_of_pos hs hb
    exact ⟨t', _, .literal ht', hpos⟩
  | @apply r s o b t h hr hb ih =>
    intro hk hv hi hx s' hs hrec
    have hkr := Expr.within_apply.mp hk
    have hdone := hrec r s.pos o hkr (ih hkr hv hi hx)
    rw [← hs] at hdone
    obtain ⟨k, he⟩ := State.exists_get?_of_progress? hdone
    exact ⟨_, _, .apply (.recalled he) hb, (hr.sound hv).2.2.symm⟩
  | andThen he₁ he₂ ih₁ ih₂ =>
    intro hk hv hi hx s' hs hrec
    obtain ⟨hk₁, hk₂⟩ := Expr.within_andThen.mp hk
    have ht := he₁.sound hv
    obtain ⟨t', h₁', hd₁, hpos⟩ :=
      ih₁ hk₁ hv hi (he₂.since.not_exhausted hx) s' hs (later he₂ hrec)
    obtain ⟨u', h₂', hd₂, hpos'⟩ :=
      ih₂ hk₂ ht.valid (by rwa [State.Idle, ht.active]) hx t' hpos (kept hd₁ hrec)
    exact ⟨u', _, .andThen hd₁ hd₂, hpos'⟩
  | andThen_miss _ ih =>
    intro hk hv hi hx s' hs hrec
    obtain ⟨t', h', hd, hpos⟩ := ih (Expr.within_andThen.mp hk).1 hv hi hx s' hs hrec
    exact ⟨t', h', .andThen_miss hd, hpos⟩
  | orElse _ ih =>
    intro hk hv hi hx s' hs hrec
    obtain ⟨t', h', hd, hpos⟩ := ih (Expr.within_orElse.mp hk).1 hv hi hx s' hs hrec
    exact ⟨t', h', .orElse hd, hpos⟩
  | orElse_next he₁ he₂ ih₁ ih₂ =>
    intro hk hv hi hx s' hs hrec
    obtain ⟨hk₁, hk₂⟩ := Expr.within_orElse.mp hk
    have ht := he₁.sound hv
    obtain ⟨t', h₁', hd₁, hpos⟩ :=
      ih₁ hk₁ hv hi (he₂.since.not_exhausted hx) s' hs (later he₂ hrec)
    obtain ⟨u', h₂', hd₂, hpos'⟩ :=
      ih₂ hk₂ ht.valid (by rwa [State.Idle, ht.active]) hx t' hpos (kept hd₁ hrec)
    exact ⟨u', _, .orElse_next hd₁ hd₂, hpos'⟩
  | attempt _ ih =>
    intro hk hv hi hx s' hs hrec
    obtain ⟨t', h', hd, hpos⟩ := ih hk hv hi hx s' hs hrec
    exact ⟨t', h', .attempt hd, hpos⟩
  | attempt_miss _ ih =>
    intro hk hv hi hx s' hs hrec
    obtain ⟨t', h', hd, -⟩ := ih hk hv hi hx s' hs hrec
    exact ⟨_, h', .attempt_miss hd, hs⟩
  | many _ ih =>
    intro hk hv hi hx s' hs hrec
    obtain ⟨t', h', hd, hpos⟩ := ih hk hv hi hx s' hs hrec
    exact ⟨t', h', .many hd, hpos⟩
  | @notAhead e s t h _ ih =>
    intro hk hv hi hx s' hs hrec
    rw [State.exhausted_miss] at hx
    obtain ⟨t', h', hd, -⟩ := ih hk hv hi hx s' hs fun r p o hr hk =>
      hrec r p o hr (by rwa [State.progress?_miss])
    exact ⟨_, h', .notAhead hd, by rw [State.pos_miss, State.pos_miss]; exact hs⟩
  | notAhead_miss _ ih =>
    intro hk hv hi hx s' hs hrec
    obtain ⟨t', h', hd, -⟩ := ih hk hv hi hx s' hs hrec
    exact ⟨_, h', .notAhead_miss hd, hs⟩
  | ahead _ ih =>
    intro hk hv hi hx s' hs hrec
    obtain ⟨t', h', hd, -⟩ := ih hk hv hi hx s' hs hrec
    exact ⟨_, h', .ahead hd, hs⟩
  | capture _ ih =>
    intro hk hv hi hx s' hs hrec
    obtain ⟨t', h', hd, hpos⟩ := ih hk hv hi hx s' hs hrec
    exact ⟨_, h', .capture hd, hpos⟩
  | capture_miss _ ih =>
    intro hk hv hi hx s' hs hrec
    obtain ⟨t', h', hd, -⟩ := ih hk hv hi hx s' hs hrec
    exact ⟨_, h', .capture_miss hd, hs⟩
  | check _ hp ih =>
    intro hk hv hi hx s' hs hrec
    obtain ⟨t', h', hd, hpos⟩ := ih hk hv hi ((since_askPolicy hp).not_exhausted hx) s' hs
      fun r p o hr hk => hrec r p o hr (by rwa [State.progress?_of_memo_eq (memo_askPolicy hp)])
    obtain ⟨u', hp', hpos'⟩ := State.askPolicy_of_pos hpos hp
    rw [← hs, ← hpos] at hp'
    exact ⟨u', h', .check hd hp', hpos'⟩
  | check_refused _ hp ih =>
    intro hk hv hi hx s' hs hrec
    obtain ⟨t', h', hd, hpos⟩ := ih hk hv hi ((since_askPolicy hp).not_exhausted hx) s' hs
      fun r p o hr hk => hrec r p o hr (by
        rwa [State.progress?_moveTo, State.progress?_of_memo_eq (memo_askPolicy hp)])
    obtain ⟨u', hp', -⟩ := State.askPolicy_of_pos hpos hp
    rw [← hs, ← hpos] at hp'
    exact ⟨_, h', .check_refused hd hp', hs⟩
  | check_miss _ ih =>
    intro hk hv hi hx s' hs hrec
    obtain ⟨t', h', hd, -⟩ := ih hk hv hi hx s' hs hrec
    exact ⟨_, h', .check_miss hd, hs⟩
  | loop_miss _ ih =>
    intro hk hv hi hx s' hs hrec
    obtain ⟨t', h', hd, -⟩ := ih hk hv hi hx s' hs hrec
    exact ⟨_, h', .loop_miss hd, hs⟩
  | loop_still _ hstill ih =>
    intro hk hv hi hx s' hs hrec
    obtain ⟨t', h', hd, hpos⟩ := ih hk hv hi hx s' hs hrec
    exact ⟨t', h', .loop_still hd (by rw [hpos, hstill, hs]), hpos⟩
  | loop_next he hmove hl ih₁ ih₂ =>
    intro hk hv hi hx s' hs hrec
    have ht := he.sound hv
    obtain ⟨t', h₁', hd₁, hpos⟩ := ih₁ hk hv hi (hl.since.not_exhausted hx) s' hs
      fun r p o hr hk => hrec r p o hr (hl.knows r p o hk)
    obtain ⟨u', h₂', hd₂, hpos'⟩ :=
      ih₂ hk ht.valid (by rwa [State.Idle, ht.active]) hx t' hpos (kept hd₁ hrec)
    exact ⟨u', _, .loop_next hd₁ (by rwa [hpos, hs]) hd₂, hpos'⟩
  | body | body_miss => trivial
  | grow _ _ _ _ ih => exact fun _ => ih (by simp [State.progress?_settle])
  | grow_stop hb _ _ => exact fun hk => hb.knows _ _ _ hk
  | recalled he =>
    intro _ _ _ _
    rw [State.progress?_reuse]
    exact State.progress?_of_get? he
  | reentered he =>
    intro hk hv hi _
    exact absurd hk (hi _ _ (hv.inProgress (State.progress?_of_get? he)))
  | refused => exact fun _ _ _ hx => Bool.noConfusion hx
  | settled => exact fun _ _ _ _ => by simp [State.progress?_settle]
  | grown _ _ _ _ _ _ ih => exact fun _ _ _ _ => ih (by simp [State.progress?_settle])

end AddressGrammar.Peg
