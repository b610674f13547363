import AddressGrammar.Proofs.Peg.Validity
import Mathlib.Data.List.ProdSigma
import Mathlib.Data.List.Perm.Subperm

/-!
# Every evaluation comes to an end

The evaluator gives up if a repetition, a growth or a nesting of bodies takes more steps than the
input and the grammar leave room for. It never does. A repetition that goes on has moved forward,
and so has a growth. A body is opened only for a rule without an entry at the reading position,
hence for one that is not open there: open rules and positions are distinct, and there are no more
of them than rules times positions.

## Main results

* `State.Valid.depth_le_nestingRoom`, `State.Valid.length_frames_lt` — there is room for the rules
  that are open, and for one more that is not
* `Setting.exists_applyWithin` — applying a rule with enough room has an answer
* `Expr.exists_eval` — so has an expression
-/

namespace AddressGrammar.Peg

variable {R : Type} {cfg : Setting R}

/-- Distinct pairs of a rule and a position of the input are no more than the rules times the
positions. -/
theorem Setting.length_le_nestingRoom {frames : List (R × Nat)} (hnodup : frames.Nodup)
    (hle : ∀ r p, (r, p) ∈ frames → p ≤ cfg.length) : frames.length ≤ cfg.nestingRoom := by
  have hsub : frames ⊆ cfg.grammar.rules ×ˢ List.range (cfg.length + 1) := by
    rintro ⟨r, p⟩ hmem
    exact List.mem_product.mpr
      ⟨cfg.grammar.mem_rules r, List.mem_range.mpr (Nat.lt_succ_of_le (hle r p hmem))⟩
  have hlen := (List.subperm_of_subset hnodup hsub).length_le
  rwa [List.length_product, List.length_range] at hlen

variable [DecidableEq R]

theorem State.Valid.frames_le_length {s : State R} (hv : s.Valid cfg) (r : R) (p : Nat)
    (h : (r, p) ∈ s.active.frames) : p ≤ cfg.length :=
  Nat.le_trans (hv.opened h).1 hv.pos_le

/-- The rules that are open at some position are no more than the rules times the positions. -/
theorem State.Valid.depth_le_nestingRoom {s : State R} (hv : s.Valid cfg) :
    s.depth ≤ cfg.nestingRoom := by
  rw [depth, s.active.depth_eq]
  exact Setting.length_le_nestingRoom hv.nodup hv.frames_le_length

/-- **Room for one more.** The rules that are open at some position, and one that is not, are
distinct pairs of a rule and a position of the input. -/
theorem State.Valid.length_frames_lt {s : State R} (hv : s.Valid cfg) {r : R} {p : Nat}
    (hp : p ≤ cfg.length) (hr : (r, p) ∉ s.active.frames) :
    s.active.frames.length < cfg.nestingRoom := by
  refine Setting.length_le_nestingRoom (List.nodup_cons.mpr ⟨hr, hv.nodup⟩) fun q i hmem => ?_
  rcases List.mem_cons.mp hmem with h | h
  · cases h
    exact hp
  · exact hv.frames_le_length q i h

section Expressions

variable {call : R → State R → Option (Bool × State R)} {a : OpenRules R}

/-- A repetition with room for every position from the reading position on comes to an end. -/
theorem exists_repeatUpTo {e : Expr R} {step : State R → Option (Bool × State R)}
    (hstep : ∀ s b t, step s = some (b, t) → ∃ h, Derives cfg (.expr e s b t) h)
    (htotal : ∀ s, s.Valid cfg → s.active = a → ∃ b t, step s = some (b, t))
    {n : Nat} {s : State R} (hv : s.Valid cfg) (ha : s.active = a)
    (hn : cfg.length + 1 - s.pos ≤ n) :
    ∃ t, repeatUpTo (fun u => (step u).map (restoreOnFailure u.pos)) n s = some t := by
  induction n generalizing s with
  | zero =>
    have := hv.pos_le
    omega
  | succ n ih =>
    obtain ⟨b, t, hs⟩ := htotal s hv ha
    obtain ⟨h, hd⟩ := hstep s b t hs
    have ht := hd.sound hv
    cases b with
    | false => exact ⟨t.moveTo s.pos, by simp [repeatUpTo, hs, restoreOnFailure]⟩
    | true =>
      simp only [repeatUpTo, hs, Option.map_some, restoreOnFailure, Bool.true_and, bne_iff_ne]
      by_cases hpos : t.pos = s.pos
      · exact ⟨t, if_neg (not_not_intro hpos)⟩
      · rw [if_pos hpos]
        refine ih ht.valid (ht.active.trans ha) ?_
        have := ht.le
        omega

/-- Evaluating an expression comes to an end if applying a rule does. -/
theorem Expr.exists_eval
    (hcall : ∀ r s b t, call r s = some (b, t) → ∃ o h, o.matched = b ∧ Derives cfg (.rule r s o t) h)
    (htotal : ∀ r s, s.Valid cfg → s.active = a → ∃ b t, call r s = some (b, t))
    (e : Expr R) {s : State R} (hv : s.Valid cfg) (ha : s.active = a) :
    ∃ b t, e.eval cfg.input call s = some (b, t) := by
  have hstep : ∀ (e : Expr R) s b t, e.eval cfg.input call s = some (b, t) →
      ∃ h, Derives cfg (.expr e s b t) h := fun e s b t => Expr.derives_of_eval hcall
  induction e generalizing s with
  | succeed => exact ⟨true, s, rfl⟩
  | fail => exact ⟨false, s, rfl⟩
  | byte c => exact ⟨_, _, rfl⟩
  | run c => exact ⟨_, _, rfl⟩
  | literal bytes => exact ⟨_, _, rfl⟩
  | apply r => exact htotal r s hv ha
  | andThen e₁ e₂ ih₁ ih₂ =>
    obtain ⟨b, t, ht⟩ := ih₁ hv ha
    obtain ⟨h, hd⟩ := hstep e₁ s b t ht
    have hr := hd.sound hv
    cases b with
    | false => exact ⟨false, t, by simp [Expr.eval, ht]⟩
    | true =>
      obtain ⟨c, u, hu⟩ := ih₂ hr.valid (hr.active.trans ha)
      exact ⟨c, u, by simp [Expr.eval, ht, hu]⟩
  | orElse e₁ e₂ ih₁ ih₂ =>
    obtain ⟨b, t, ht⟩ := ih₁ hv ha
    obtain ⟨h, hd⟩ := hstep e₁ s b t ht
    have hr := hd.sound hv
    cases b with
    | true => exact ⟨true, t, by simp [Expr.eval, ht]⟩
    | false =>
      obtain ⟨c, u, hu⟩ := ih₂ hr.valid (hr.active.trans ha)
      exact ⟨c, u, by simp [Expr.eval, ht, hu]⟩
  | attempt e ih | notAhead e ih | ahead e ih | capture e ih | check e policy ih =>
    obtain ⟨b, t, ht⟩ := ih hv ha
    rw [Expr.eval, ht]
    exact ⟨_, _, rfl⟩
  | many e ih =>
    obtain ⟨t, ht⟩ := exists_repeatUpTo (hstep e) (fun s hv ha => ih hv ha) hv ha
      (Nat.le_refl (cfg.length + 1 - s.pos))
    exact ⟨true, t, Option.map_eq_some_iff.mpr ⟨t, ht, rfl⟩⟩
  | inspect r pos => exact ⟨true, _, rfl⟩

theorem exists_evaluateBody
    (hcall : ∀ r s b t, call r s = some (b, t) → ∃ o h, o.matched = b ∧ Derives cfg (.rule r s o t) h)
    {r : R} {s : State R} (hv : (s.enter r).Valid cfg)
    (htotal : ∀ q t, t.Valid cfg → t.active = (s.enter r).active → ∃ b u, call q t = some (b, u)) :
    ∃ o t, cfg.evaluateBody call r s.pos s = some (o, t) := by
  obtain ⟨b, t, ht⟩ := Expr.exists_eval hcall htotal (cfg.grammar.body r) hv rfl
  rw [State.enter] at ht
  cases b <;> exact ⟨_, _, by rw [Setting.evaluateBody, ht]; rfl⟩

/-- A growth with room for every position behind the best match comes to an end. -/
theorem exists_grow
    (hcall : ∀ r s b t, call r s = some (b, t) → ∃ o h, o.matched = b ∧ Derives cfg (.rule r s o t) h)
    {r : R} {start : Nat}
    (htotal : ∀ q t, t.Valid cfg → t.active = a.push r start → ∃ b u, call q t = some (b, u))
    {n : Nat} {best : Outcome} {s : State R} (hg : s.Growing cfg r start best) (ha : s.active = a)
    (hn : cfg.length + 1 - best.stop ≤ n) :
    ∃ o t, Setting.grow (cfg.evaluateBody call r start) r start n best s = some (o, t) := by
  induction n generalizing best s with
  | zero =>
    have := hg.fits.stop_le
    omega
  | succ n ih =>
    subst ha
    obtain ⟨o, t, ht⟩ := exists_evaluateBody hcall hg.enter htotal
    obtain ⟨h, hd⟩ := derives_of_evaluateBody hcall rfl ht
    have hc := hd.sound hg.enter
    rw [State.pos_moveTo] at ht
    rw [Setting.grow, ht]
    by_cases hlt : (o.matched && decide (best.stop < o.stop)) = true
    · obtain ⟨hm, hlt'⟩ := Bool.and_eq_true_iff.mp hlt
      have hlt' := of_decide_eq_true hlt'
      obtain ⟨p, u, hu⟩ := ih (hg.next hc hm) hc.active (by omega)
      exact ⟨p, u, (if_pos hlt).trans hu⟩
    · exact ⟨best, _, if_neg hlt⟩

end Expressions

/-- **Applying a rule has an answer** if there is room for all rules that are not open yet. -/
theorem Setting.exists_applyWithin {n : Nat} (r : R) {s : State R} (hv : s.Valid cfg)
    (hn : cfg.nestingRoom ≤ n + s.active.frames.length) :
    ∃ o t, cfg.applyWithin n r s = some (o, t) := by
  induction n generalizing r s with
  | zero =>
    cases hi : cfg.immediate? r s with
    | some answer => exact ⟨answer.1, answer.2, hi⟩
    | none =>
      have hfree := hv.not_mem_of_progress? (State.progress?_eq_none.mpr (immediate?_eq_none hi).1)
      have := hv.length_frames_lt hv.pos_le hfree
      omega
  | succ n ih =>
    rw [applyWithin]
    cases hi : cfg.immediate? r s with
    | some answer => exact ⟨answer.1, answer.2, rfl⟩
    | none =>
      obtain ⟨hnone, hd⟩ := immediate?_eq_none hi
      have hcall := cfg.derives_of_call n
      have htotal : ∀ q u, u.Valid cfg → u.active = s.active.push r s.pos →
          ∃ b v, cfg.callWithin n q u = some (b, v) := by
        intro q u hu ha
        obtain ⟨o, v, ho⟩ := ih q hu (by
          rw [ha]
          change cfg.nestingRoom ≤ n + (s.active.frames.length + 1)
          omega)
        exact ⟨o.matched, v, by rw [callWithin, ho]; rfl⟩
      obtain ⟨seed, t, ht⟩ := exists_evaluateBody hcall
        (hv.enter_begin (State.progress?_eq_none.mpr hnone) hd) htotal
      obtain ⟨h, hder⟩ := derives_of_evaluateBody hcall rfl ht
      have hc := hder.sound (hv.enter_begin (State.progress?_eq_none.mpr hnone) hd)
      dsimp only
      split
      · next heq => cases ht.symm.trans heq
      · next seed t heq =>
        cases ht.symm.trans heq
        split
        · next hs =>
          have hgrow := hc.growing_seed hv hnone hd (Bool.and_eq_true_iff.mp hs).1
          exact exists_grow hcall htotal hgrow hc.active (Nat.le_refl _)
        · exact ⟨seed, _, rfl⟩

end AddressGrammar.Peg
