import AddressGrammar.Proofs.Peg.Validity
import AddressGrammar.Proofs.Text.Agreement

/-!
# What a run has looked at

A run cannot have looked at more of its input than it says, or else what it says would change with
bytes that lie further on. What it says is its reading position and its farthest failure. That is
not enough in general. An expression that looks ahead goes back without leaving a trace of how far
it looked; a literal is missed at its first byte, whichever of its bytes was wrong; and `fail` fails
without recording anything. An expression without those three, and that looks ahead for the absence
of a single byte at most, accounts for everything it reads. The byte behind a run of bytes is looked
at and not recorded, but the reading position stops there, and no accountable expression leaves a
position without having recorded a failure at or behind it.

## Main definitions

* `Expr.accountable` — expressions that leave a trace of what they read
* `State.UpTo` — neither the reading position nor a failure lies behind an offset
* `Setting.withInput` — another input for the same grammar

## Main results

* `Derives.leaves_trace` — where an accountable expression fails, a failure covers the position
* `Derives.carries` — an evaluation that stays up to an offset is one of every input that has the
  same bytes up to there
-/

namespace AddressGrammar.Peg

open Text

variable {R : Type}

/-- Expressions that leave a trace of all they read: every byte that matters lies at or before the
reading position or a recorded failure. -/
def Expr.accountable : Expr R → Bool
  | succeed => true
  | fail => false
  | byte _ => true
  | run _ => true
  | literal _ => false
  | apply _ => true
  | andThen e₁ e₂ => e₁.accountable && e₂.accountable
  | orElse e₁ e₂ => e₁.accountable && e₂.accountable
  | attempt e => e.accountable
  | many e => e.accountable
  | notAhead (byte _) => true
  | notAhead _ => false
  | ahead _ => false
  | capture e => e.accountable
  | check e _ => e.accountable
  | inspect _ _ => true

/-- The same grammar and bound for another input. -/
def Setting.withInput (cfg : Setting R) (input : String) : Setting R := { cfg with input }

namespace State

variable {s t : State R} {n : Nat}

/-- Neither the reading position nor a recorded failure lies behind an offset. -/
structure UpTo (n : Nat) (s : State R) : Prop where
  pos_le : s.pos ≤ n
  failure_le : ∀ p, s.failure.Covers p → p ≤ n

/-- What stays up to an offset in the end did so before. -/
theorem UpTo.of_since (ht : t.UpTo n) (h : t.Since s) (hpos : s.pos ≤ t.pos) : s.UpTo n :=
  ⟨Nat.le_trans hpos ht.pos_le, fun p hp => ht.failure_le p (h.covers p hp)⟩

/-- A position that was given up is still accounted for if a failure covers it. -/
theorem UpTo.of_covers (ht : ∀ p, t.failure.Covers p → p ≤ n) (hc : t.failure.Covers t.pos) :
    t.UpTo n := ⟨ht _ hc, ht⟩

theorem frames_enter_ne_nil (s : State R) (r : R) : (s.enter r).active.frames ≠ [] :=
  List.cons_ne_nil _ _

/-- Inside a rule, a miss is recorded. -/
theorem covers_miss (h : s.active.frames ≠ []) : s.miss.failure.Covers s.pos := by
  obtain ⟨⟨r, p⟩, rest, hframes⟩ := List.exists_cons_of_ne_nil h
  have hmiss : s.miss = s.record r s.pos := by
    simp [miss, current?, OpenRules.innermost?, hframes]
  rw [hmiss]
  exact FarthestFailure.covers_record ..

end State

/-! ### What is looked at -/

namespace State

variable {s t : State R} {input input' : String} {n : Nat} {b : Bool}

theorem takeByte_of_agree (hagree : Agree input input' n) (hs : s.pos ≤ n) (c : ByteClass) :
    s.takeByte input' c = s.takeByte input c := by
  rw [takeByte, takeByte, hagree.classAt_eq hs]

/-- The byte behind a run is looked at, and the reading position stops there. -/
theorem takeRun_of_agree (hagree : Agree input input' n) {c : ByteClass}
    (h : s.takeRun input c = (b, t)) (ht : t.pos ≤ n) : s.takeRun input' c = (b, t) := by
  unfold takeRun at h ⊢
  split at h
  · next hc =>
    cases h
    have hend : runEnd input c (s.pos + 1) ≤ n := ht
    have hs : s.pos ≤ n := by
      have := le_skipAtMost input c (input.utf8ByteSize - (s.pos + 1)) (s.pos + 1)
      have : s.pos + 1 ≤ runEnd input c (s.pos + 1) := this
      omega
    rw [hagree.classAt_eq hs, if_pos hc, hagree.runEnd_eq hend]
  · next hc =>
    cases h
    rw [pos_miss] at ht
    rw [hagree.classAt_eq ht, if_neg hc]

end State

theorem askPolicy_of_agree {input input' : String} {n : Nat} (hagree : Agree input input' n)
    (policy : Policy) {span : Span} (hspan : span.stop ≤ n) (s : State R) :
    askPolicy input' policy span s = askPolicy input policy span s := by
  rw [askPolicy, askPolicy, hagree.slice?_eq hspan]

/-- A policy that refuses a text leaves a trace behind the text. -/
theorem covers_askPolicy {input : String} {policy : Policy} {span : Span} {s t : State R}
    (h : askPolicy input policy span s = (false, t)) (ha : s.active.frames ≠ []) :
    t.failure.Covers s.pos := by
  obtain ⟨hb, -⟩ | ⟨-, u, rfl, rfl | ⟨e, rfl⟩⟩ := askPolicy_eq h
  · cases hb
  · exact State.covers_miss ha
  · exact State.covers_miss (s := s.report e) ha

variable [DecidableEq R] {cfg : Setting R}

/-! ### Failures leave a trace -/

/-- Where an accountable expression fails inside a rule, a failure covers the reading position. -/
def Judgement.LeavesTrace (cfg : Setting R) : Judgement R → Prop
  | .expr e s b t => e.accountable = true → s.Valid cfg → s.active.frames ≠ [] → b = false →
      t.failure.Covers t.pos
  | .loop _ _ _ => True
  | .body _ _ _ _ => True
  | .growth _ _ _ _ _ _ => True
  | .rule _ _ _ _ => True

/-- **A failing expression leaves a trace** if it is accountable. -/
theorem Derives.leaves_trace {j : Judgement R} {h : List (Moment R)} (hj : Derives cfg j h) :
    j.LeavesTrace cfg := by
  have reads : ∀ {length : Nat} {s t : State R} {b : Bool}, s.Reads length b t →
      s.active.frames ≠ [] → b = false → t.failure.Covers t.pos := by
    rintro length s t b (⟨rfl, -⟩ | ⟨-, rfl⟩) ha hb
    · cases hb
    · rw [State.pos_miss]
      exact State.covers_miss ha
  induction hj with
  | succeed | inspect | orElse | attempt | many | notAhead_miss | capture | check =>
    intro _ _ _ hb
    cases hb
  | fail =>
    intro he
    cases he
  | byte hb => exact fun _ _ => reads (State.reads_takeByte hb)
  | run hb => exact fun _ _ => reads (State.reads_takeRun hb)
  | literal =>
    intro he
    cases he
  | ahead =>
    intro he
    cases he
  | apply hr hb _ =>
    intro _ hv _ hm
    obtain ⟨-, hfits, hpos⟩ := hr.sound hv
    obtain ⟨hstop, hc⟩ := hfits.of_missed (hb.trans hm)
    rwa [hpos, hstop]
  | andThen he₁ _ _ ih₂ =>
    intro he hv ha hb
    have ht := he₁.sound hv
    exact ih₂ (Bool.and_eq_true_iff.mp he).2 ht.valid (ht.active ▸ ha) hb
  | orElse_next he₁ _ _ ih₂ =>
    intro he hv ha hb
    have ht := he₁.sound hv
    exact ih₂ (Bool.and_eq_true_iff.mp he).2 ht.valid (ht.active ▸ ha) hb
  | andThen_miss _ ih => exact fun he hv ha hb => ih (Bool.and_eq_true_iff.mp he).1 hv ha hb
  | attempt_miss hd ih | capture_miss hd ih | check_miss hd ih =>
    exact fun he hv ha _ => (ih he hv ha rfl).of_le (hd.sound hv).le
  | @notAhead e s t h hd _ =>
    intro he hv ha _
    have ht := (hd.sound hv).active
    rw [State.pos_miss]
    exact State.covers_miss (s := t.moveTo s.pos) (by rwa [State.active_moveTo, ht])
  | check_refused hd hp _ =>
    intro _ hv ha _
    have ht := hd.sound hv
    exact (covers_askPolicy hp (ht.active ▸ ha)).of_le ht.le
  | loop_miss | loop_still | loop_next | body | body_miss | grow | grow_stop | recalled | reentered
  | refused | settled | grown => trivial

/-! ### Other inputs -/

/-- Growth does not come back with less than it began with. -/
theorem Derives.le_of_growth {r : R} {start : Nat} {best o : Outcome} {s t : State R}
    {h : List (Moment R)} (hd : Derives cfg (.growth r start best s o t) h) :
    best.stop ≤ o.stop := by
  generalize hj : Judgement.growth r start best s o t = j at hd
  induction hd generalizing best s with
  | grow _ hlt _ _ ih =>
    cases hj
    exact Nat.le_of_lt (Nat.lt_of_lt_of_le hlt.2 (ih rfl))
  | grow_stop =>
    cases hj
    exact Nat.le_refl _
  | _ => cases hj

/-- An evaluation of an accountable grammar that stays up to an offset is one of another input. -/
def Judgement.Carries (cfg : Setting R) (input : String) (n : Nat) (h : List (Moment R)) :
    Judgement R → Prop
  | .expr e s b t => e.accountable = true → s.Valid cfg → s.active.frames ≠ [] → t.UpTo n →
      Derives (cfg.withInput input) (.expr e s b t) h
  | .loop e s t => e.accountable = true → s.Valid cfg → s.active.frames ≠ [] → t.UpTo n →
      Derives (cfg.withInput input) (.loop e s t) h
  | .body r s o t => (s.enter r).Valid cfg → t.UpTo n →
      Derives (cfg.withInput input) (.body r s o t) h
  | .growth r start best s o t => s.Growing cfg r start best → t.UpTo n →
      Derives (cfg.withInput input) (.growth r start best s o t) h
  | .rule r s o t => s.Valid cfg → t.UpTo n → Derives (cfg.withInput input) (.rule r s o t) h

/-- **What lies behind the offset does not matter.** -/
theorem Derives.carries {input : String} {n : Nat} (hagree : Agree cfg.input input n)
    (hgrammar : ∀ r, (cfg.grammar.body r).accountable = true) {j : Judgement R}
    {h : List (Moment R)} (hj : Derives cfg j h) : j.Carries cfg input n h := by
  have both : ∀ {a b : Bool}, (a && b) = true → a = true ∧ b = true := Bool.and_eq_true_iff.mp
  have single : ∀ {c s b t h}, Derives cfg (.expr (.byte c) s b t) h → s.pos ≤ n →
      Derives (cfg.withInput input) (.expr (.byte c) s b t) h := by
    intro c s b t h hd hs
    cases hd with
    | byte hb => exact .byte ((State.takeByte_of_agree hagree hs c).trans hb)
  -- a position is given up only where a failure covers it
  have failed : ∀ {e s t h}, Derives cfg (.expr e s false t) h → e.accountable = true →
      s.Valid cfg → s.active.frames ≠ [] → (∀ p, t.failure.Covers p → p ≤ n) → t.UpTo n :=
    fun hd he hv ha hu => .of_covers hu (hd.leaves_trace he hv ha rfl)
  induction hj with
  | succeed => exact fun _ _ _ _ => .succeed
  | fail => exact fun _ _ _ _ => .fail
  | inspect => exact fun _ _ _ _ => .inspect
  | byte hb =>
    intro _ hv _ ht
    have hle := ((State.reads_takeByte hb).reaches hv).le
    exact single (.byte hb) (Nat.le_trans hle ht.pos_le)
  | run hb => exact fun _ _ _ ht => .run (State.takeRun_of_agree hagree hb ht.pos_le)
  | literal =>
    intro he
    cases he
  | ahead =>
    intro he
    cases he
  | apply _ hb ih => exact fun _ hv _ ht => .apply (ih hv ht) hb
  | andThen he₁ he₂ ih₁ ih₂ =>
    intro he hv ha hu
    have ht := he₁.sound hv
    exact .andThen (ih₁ (both he).1 hv ha (hu.of_since he₂.since (he₂.sound ht.valid).le))
      (ih₂ (both he).2 ht.valid (ht.active ▸ ha) hu)
  | orElse_next he₁ he₂ ih₁ ih₂ =>
    intro he hv ha hu
    have ht := he₁.sound hv
    exact .orElse_next (ih₁ (both he).1 hv ha (hu.of_since he₂.since (he₂.sound ht.valid).le))
      (ih₂ (both he).2 ht.valid (ht.active ▸ ha) hu)
  | andThen_miss _ ih => exact fun he hv ha ht => .andThen_miss (ih (both he).1 hv ha ht)
  | orElse _ ih => exact fun he hv ha ht => .orElse (ih (both he).1 hv ha ht)
  | attempt _ ih => exact fun he hv ha ht => .attempt (ih he hv ha ht)
  | attempt_miss hd ih =>
    intro he hv ha hu
    exact .attempt_miss (ih he hv ha (failed hd he hv ha hu.failure_le))
  | many _ ih => exact fun he hv ha ht => .many (ih he hv ha ht)
  | @notAhead e s t h hd _ =>
    intro he _ _ hu
    have hs := hu.pos_le
    rw [State.pos_miss] at hs
    cases e with
    | byte c => exact .notAhead (single hd hs)
    | _ => cases he
  | @notAhead_miss e s t h hd _ =>
    intro he _ _ hu
    cases e with
    | byte c => exact .notAhead_miss (single hd hu.pos_le)
    | _ => cases he
  | @capture e s t h _ ih =>
    intro he hv ha hu
    have htu : t.UpTo n := ⟨hu.pos_le, hu.failure_le⟩
    have htext : slice? (cfg.withInput input).input s.pos t.pos = slice? cfg.input s.pos t.pos :=
      hagree.slice?_eq htu.pos_le
    have hd := Derives.capture (ih he hv ha htu)
    rwa [htext] at hd
  | capture_miss hd ih =>
    intro he hv ha hu
    exact .capture_miss (ih he hv ha (failed hd he hv ha hu.failure_le))
  | check hd hp ih =>
    intro he hv ha hu
    have ht := hd.sound hv
    have hle := (reaches_askPolicy hp (.refl ht.valid)).le
    have htu := hu.of_since (since_askPolicy hp) hle
    exact .check (ih he hv ha htu) ((askPolicy_of_agree hagree _ htu.pos_le _).trans hp)
  | check_refused hd hp ih =>
    intro he hv ha hu
    have ht := hd.sound hv
    have hc := covers_askPolicy hp (ht.active ▸ ha)
    have htu : State.UpTo n _ :=
      ⟨hu.failure_le _ hc, fun p hp' => hu.failure_le p ((since_askPolicy hp).covers p hp')⟩
    exact .check_refused (ih he hv ha htu) ((askPolicy_of_agree hagree _ htu.pos_le _).trans hp)
  | check_miss hd ih =>
    intro he hv ha hu
    exact .check_miss (ih he hv ha (failed hd he hv ha hu.failure_le))
  | loop_miss hd ih =>
    intro he hv ha hu
    exact .loop_miss (ih he hv ha (failed hd he hv ha hu.failure_le))
  | loop_still _ hpos ih => exact fun he hv ha ht => .loop_still (ih he hv ha ht) hpos
  | loop_next hd hpos hl ih₁ ih₂ =>
    intro he hv ha hu
    have ht := hd.sound hv
    exact .loop_next (ih₁ he hv ha (hu.of_since hl.since (hl.sound ht.valid).le)) hpos
      (ih₂ he ht.valid (ht.active ▸ ha) hu)
  | body _ ih =>
    intro hv hu
    exact .body (ih (hgrammar _) hv (State.frames_enter_ne_nil _ _) ⟨hu.pos_le, hu.failure_le⟩)
  | @body_miss r s t h hd ih =>
    intro hv hu
    have hopen := s.frames_enter_ne_nil r
    exact .body_miss (ih (hgrammar _) hv hopen
      (failed hd (hgrammar _) hv hopen fun p hp => hu.failure_le p (hp.record _ _)))
  | @grow r start best s next t o u h₁ h₂ hb hlt hgr ih₁ ih₂ =>
    intro hg hu
    have hc := hb.sound hg.enter
    obtain ⟨-, -, -, hpos, -⟩ := hgr.sound (hg.next hc hlt.1)
    have hle : t.pos ≤ u.pos := by
      rw [hc.pos_eq, hpos]
      exact hgr.le_of_growth
    exact .grow (ih₁ hg.enter (hu.of_since ⟨hgr.since.exhausted, hgr.since.covers⟩ hle)) hlt
      (ih₂ (hg.next hc hlt.1) hu)
  | @grow_stop r start best s next t h hb hle ih =>
    intro hg hu
    have hc := hb.sound hg.enter
    have hstop : next.stop ≤ best.stop := by
      cases hm : next.matched with
      | true => exact Nat.le_of_not_lt fun hlt => hle ⟨hm, hlt⟩
      | false => exact (hc.fits.of_missed hm).1 ▸ hg.fits.le_stop
    exact .grow_stop (ih hg.enter
      ⟨Nat.le_trans (hc.pos_eq ▸ hstop) hu.pos_le, hu.failure_le⟩) hle
  | recalled he => exact fun _ _ => .recalled he
  | reentered he => exact fun _ _ => .reentered he
  | refused hn hd => exact fun _ _ => .refused hn hd
  | settled hn hd _ hg ih =>
    intro hv hu
    exact .settled hn hd (ih (hv.enter_begin (State.progress?_eq_none.mpr hn) hd)
      ⟨hu.pos_le, hu.failure_le⟩) hg
  | @grown r s seed t o u h₁ h₂ hn hd hb hs hgr ih₁ ih₂ =>
    intro hv hu
    have hv' := hv.enter_begin (State.progress?_eq_none.mpr hn) hd
    have hc := hb.sound hv'
    have hg := hc.growing_seed hv hn hd (both hs).1
    obtain ⟨-, -, -, hpos, -⟩ := hgr.sound hg
    have hle : t.pos ≤ u.pos := by
      rw [hc.pos_eq, hpos]
      exact hgr.le_of_growth
    exact .grown hn hd (ih₁ hv' (hu.of_since ⟨hgr.since.exhausted, hgr.since.covers⟩ hle)) hs
      (ih₂ hg hu)

end AddressGrammar.Peg
