import AddressGrammar.Proofs.Peg.Persistence

/-!
# The states that a run goes through

The table and the open rules of a run fit together. The open rules are distinct, there are at most
as many as the bound allows, and each has an entry. An entry in progress belongs to an open rule. A
remembered outcome covers a stretch of the input that begins where the rule was asked for, and a
remembered failure has left its trace in the farthest failure.

A body is evaluated in a state in which its rule is open already. Its entry is in progress during
the first evaluation and holds the best match so far during growth, so the invariant of a body
speaks about the state with the rule still open, and closing the rule needs its entry to be done.

## Main definitions

* `Outcome.Fits` — an outcome is one of a position in an input
* `State.Valid` — the invariant
* `State.Reaches` — a valid state ahead of another with the same rules open
* `State.Closes`, `State.Growing` — around a rule body, and before it is evaluated once more
* `Judgement.Sound` — an evaluation keeps the invariant and moves ahead

## Main results

* `Derives.sound` — every evaluation does
* `State.valid_initial` — a run begins in a valid state
-/

namespace AddressGrammar.Peg

open Text

variable {R : Type}

/-- An outcome of a rule that was asked for at a position of an input of that length, with the
failures recorded since. -/
structure Outcome.Fits (o : Outcome) (pos length : Nat) (f : FarthestFailure R) : Prop where
  /-- It begins where the rule was asked for. -/
  start_eq : o.span.start = pos
  /-- It does not end before. -/
  le_stop : pos ≤ o.stop
  /-- It ends within the input. -/
  stop_le : o.stop ≤ length
  /-- A failure covers the empty span and was recorded. -/
  of_missed : o.matched = false → o.stop = pos ∧ f.Covers pos

theorem Outcome.Fits.mono {o : Outcome} {pos length : Nat} {f g : FarthestFailure R}
    (h : o.Fits pos length f) (hg : ∀ p, f.Covers p → g.Covers p) : o.Fits pos length g :=
  ⟨h.start_eq, h.le_stop, h.stop_le, fun hm => ⟨(h.of_missed hm).1, hg pos (h.of_missed hm).2⟩⟩

/-! A fitting outcome is told by its match and its end. -/

theorem Outcome.Fits.eq_hit {o : Outcome} {pos length : Nat} {f : FarthestFailure R}
    (ho : o.Fits pos length f) (hm : o.matched = true) : o = .hit pos o.stop := by
  obtain ⟨m, start, stop⟩ := o
  obtain rfl : m = true := hm
  obtain rfl : start = pos := ho.start_eq
  rfl

theorem Outcome.Fits.eq_missed {o : Outcome} {pos length : Nat} {f : FarthestFailure R}
    (ho : o.Fits pos length f) (hm : o.matched = false) : o = .missed pos := by
  obtain ⟨m, start, stop⟩ := o
  obtain rfl : m = false := hm
  obtain rfl : start = pos := ho.start_eq
  obtain rfl : stop = start := (ho.of_missed rfl).1
  rfl

variable [DecidableEq R] {cfg : Setting R}

/-- The table, the open rules and the failures of a state fit together. -/
structure State.Valid (cfg : Setting R) (s : State R) : Prop where
  /-- The reading position lies within the input. -/
  pos_le : s.pos ≤ cfg.length
  /-- No more rules are open than the bound allows. -/
  depth_le : s.depth ≤ cfg.maxDepth
  /-- No rule is open twice at a position. -/
  nodup : s.active.frames.Nodup
  /-- An open rule was begun at or before the reading position. -/
  opened : ∀ {r p}, (r, p) ∈ s.active.frames → p ≤ s.pos ∧ s.progress? r p ≠ none
  /-- A rule in progress is open. -/
  inProgress : ∀ {r p again}, s.progress? r p = some (.inProgress again) → (r, p) ∈ s.active.frames
  /-- A remembered outcome is one of its position. -/
  done : ∀ {r p o}, s.progress? r p = some (.done o) → o.Fits p cfg.length s.failure
  /-- The farthest failure lies within the input. -/
  failure_le : ∀ {r p}, s.failure = some (r, p) → p ≤ cfg.length

/-- A valid state ahead of another one, with the same rules open. -/
structure State.Reaches (cfg : Setting R) (s t : State R) : Prop where
  valid : t.Valid cfg
  le : s.pos ≤ t.pos
  active : t.active = s.active

namespace State

theorem valid_initial (cfg : Setting R) : (initial : State R).Valid cfg where
  pos_le := Nat.zero_le _
  depth_le := Nat.zero_le _
  nodup := List.nodup_nil
  opened := fun h => absurd h List.not_mem_nil
  inProgress := by simp [initial, progress?]
  done := by simp [initial, progress?]
  failure_le := by simp [initial]

/-! ### Changes that keep a state valid -/

namespace Valid

variable {s t : State R}

theorem moveTo (hv : s.Valid cfg) {p : Nat} (hp : p ≤ cfg.length)
    (ha : ∀ {r i}, (r, i) ∈ s.active.frames → i ≤ p) : (s.moveTo p).Valid cfg where
  pos_le := hp
  depth_le := hv.depth_le
  nodup := hv.nodup
  opened := fun h => ⟨ha h, (hv.opened h).2⟩
  inProgress := hv.inProgress
  done := hv.done
  failure_le := hv.failure_le

theorem record (hv : s.Valid cfg) (r : R) {p : Nat} (hp : p ≤ cfg.length) :
    (s.record r p).Valid cfg where
  pos_le := hv.pos_le
  depth_le := hv.depth_le
  nodup := hv.nodup
  opened := hv.opened
  inProgress := hv.inProgress
  done := fun h => (hv.done h).mono fun _ hc => hc.record r p
  failure_le := by
    intro q i h
    rcases s.failure.record_eq r p with hr | ⟨hr, -⟩
    · cases hr.symm.trans h
      exact hp
    · exact hv.failure_le (hr.symm.trans h)

theorem report (hv : s.Valid cfg) (e : Event R) : (s.report e).Valid cfg where
  pos_le := hv.pos_le
  depth_le := hv.depth_le
  nodup := hv.nodup
  opened := hv.opened
  inProgress := hv.inProgress
  done := hv.done
  failure_le := hv.failure_le

theorem miss (hv : s.Valid cfg) : s.miss.Valid cfg := by
  obtain h | ⟨r, h⟩ := s.miss_eq
  · rwa [h]
  · rw [h]
    exact hv.record r hv.pos_le

/-- Forgetting the reports of earlier steps. -/
theorem clearEvents (hv : s.Valid cfg) : ({ s with events := [] } : State R).Valid cfg where
  pos_le := hv.pos_le
  depth_le := hv.depth_le
  nodup := hv.nodup
  opened := hv.opened
  inProgress := hv.inProgress
  done := hv.done
  failure_le := hv.failure_le

/-- The table may change in any way that keeps the progress of its entries. -/
theorem of_progress? (hv : s.Valid cfg) (hpos : t.pos = s.pos) (hactive : t.active = s.active)
    (hfailure : t.failure = s.failure) (hp : ∀ r p, t.progress? r p = s.progress? r p) :
    t.Valid cfg where
  pos_le := hpos ▸ hv.pos_le
  depth_le := by
    rw [depth, hactive]
    exact hv.depth_le
  nodup := hactive ▸ hv.nodup
  opened := fun {r p} h => by
    rw [hpos, hp]
    exact hv.opened (hactive ▸ h)
  inProgress := fun {r p again} h => by
    rw [hactive]
    exact hv.inProgress ((hp r p).symm.trans h)
  done := fun {r p o} h => by
    rw [hfailure]
    exact hv.done ((hp r p).symm.trans h)
  failure_le := fun h => hv.failure_le (hfailure ▸ h)

theorem reuse (hv : s.Valid cfg) {r : R} {o : Outcome}
    (hk : s.progress? r s.pos = some (.done o)) : (s.reuse r o).Valid cfg := by
  have hfit := hv.done hk
  have hm : (s.moveTo o.stop).Valid cfg :=
    hv.moveTo hfit.stop_le fun h => Nat.le_trans (hv.opened h).1 hfit.le_stop
  exact hm.of_progress? rfl rfl rfl fun q p => progress?_reuse s r o q p

theorem reenter (hv : s.Valid cfg) {r : R} {again : Bool}
    (hk : s.progress? r s.pos = some (.inProgress again)) : (s.reenter r).Valid cfg := by
  have hr := hv.record r hv.pos_le
  refine ⟨hr.pos_le, hr.depth_le, hr.nodup, fun {q p} h => ⟨(hr.opened h).1, ?_⟩,
    fun {q p b} h => ?_, fun {q p o} h => ?_, hr.failure_le⟩
  · rw [progress?_reenter hk]
    split
    · exact Option.some_ne_none _
    · exact (hr.opened h).2
  · rw [progress?_reenter hk] at h
    split at h
    · next heq =>
      rw [← heq.1, ← heq.2]
      exact hv.inProgress hk
    · exact hr.inProgress h
  · rw [progress?_reenter hk] at h
    split at h
    · cases h
    · exact hr.done h

theorem refuse (hv : s.Valid cfg) (r : R) : (s.refuse r).Valid cfg :=
  (hv.record r hv.pos_le).of_progress? rfl rfl rfl fun _ _ => rfl

/-- A rule that has an entry and is not open may be opened at the reading position. -/
theorem enter (hv : s.Valid cfg) {r : R} (hr : (r, s.pos) ∉ s.active.frames)
    (hp : s.progress? r s.pos ≠ none) (hd : s.depth < cfg.maxDepth) : (s.enter r).Valid cfg where
  pos_le := hv.pos_le
  depth_le := hd
  nodup := List.nodup_cons.mpr ⟨hr, hv.nodup⟩
  opened := fun {q p} h => by
    rcases List.mem_cons.mp h with h | h
    · cases h
      exact ⟨Nat.le_refl _, hp⟩
    · exact hv.opened h
  inProgress := fun h => List.mem_cons_of_mem _ (hv.inProgress h)
  done := hv.done
  failure_le := hv.failure_le

theorem not_mem_of_progress? (hv : s.Valid cfg) {r : R} {p : Nat} (hn : s.progress? r p = none) :
    (r, p) ∉ s.active.frames := fun h => (hv.opened h).2 hn

/-- The first evaluation of a rule opens it with a new entry. -/
theorem enter_begin (hv : s.Valid cfg) {r : R} (hn : s.progress? r s.pos = none)
    (hd : s.depth < cfg.maxDepth) : ((s.begin r).enter r).Valid cfg where
  pos_le := hv.pos_le
  depth_le := hd
  nodup := List.nodup_cons.mpr ⟨hv.not_mem_of_progress? hn, hv.nodup⟩
  opened := fun {q p} h => by
    rw [progress?_enter, progress?_begin]
    rcases List.mem_cons.mp h with h | h
    · cases h
      exact ⟨Nat.le_refl _, by simp [begin]⟩
    · refine ⟨(hv.opened h).1, ?_⟩
      split
      · exact Option.some_ne_none _
      · exact (hv.opened h).2
  inProgress := fun {q p again} h => by
    rw [progress?_enter, progress?_begin] at h
    split at h
    · next heq =>
      rw [← heq.1, ← heq.2]
      exact List.mem_cons_self
    · exact List.mem_cons_of_mem _ (hv.inProgress h)
  done := fun {q p o} h => by
    rw [progress?_enter, progress?_begin] at h
    split at h
    · cases h
    · exact hv.done h
  failure_le := hv.failure_le

theorem settle (hv : s.Valid cfg) (r : R) {p : Nat} {o : Outcome}
    (ho : o.Fits p cfg.length s.failure) : (s.settle r p o).Valid cfg where
  pos_le := hv.pos_le
  depth_le := hv.depth_le
  nodup := hv.nodup
  opened := fun {q i} h => by
    refine ⟨(hv.opened h).1, ?_⟩
    rw [progress?_settle]
    split
    · exact Option.some_ne_none _
    · exact (hv.opened h).2
  inProgress := fun {q i again} h => by
    rw [progress?_settle] at h
    split at h
    · cases h
    · exact hv.inProgress h
  done := fun {q i o'} h => by
    rw [progress?_settle] at h
    split at h
    · next heq =>
      cases h
      rw [← heq.2]
      exact ho
    · exact hv.done h
  failure_le := hv.failure_le

/-- An open rule may be closed once its entry is done. -/
theorem close {r : R} {o : Outcome} (hv : (t.leaveTo (s.enter r)).Valid cfg)
    (ha : t.active = s.active) (hk : t.progress? r s.pos = some (.done o)) : t.Valid cfg where
  pos_le := hv.pos_le
  depth_le := by
    rw [depth, ha]
    exact Nat.le_of_succ_le hv.depth_le
  nodup := by
    rw [ha]
    exact (List.nodup_cons.mp hv.nodup).2
  opened := fun {q p} h => by
    rw [ha] at h
    exact hv.opened (List.mem_cons_of_mem _ h)
  inProgress := fun {q p again} h => by
    rw [ha]
    rcases List.mem_cons.mp (hv.inProgress h) with heq | hmem
    · cases heq
      cases hk.symm.trans h
    · exact hmem
  done := hv.done
  failure_le := hv.failure_le

end Valid

/-! ### Moving ahead -/

namespace Reaches

variable {s t u : State R}

theorem refl (hv : s.Valid cfg) : s.Reaches cfg s := ⟨hv, Nat.le_refl _, rfl⟩

theorem trans (ht : s.Reaches cfg t) (hu : t.Reaches cfg u) : s.Reaches cfg u :=
  ⟨hu.valid, Nat.le_trans ht.le hu.le, hu.active.trans ht.active⟩

/-- Going back to where an evaluation began. -/
theorem restore (hv : s.Valid cfg) (ht : s.Reaches cfg t) : s.Reaches cfg (t.moveTo s.pos) :=
  ⟨ht.valid.moveTo hv.pos_le fun h => (hv.opened (ht.active ▸ h)).1, Nat.le_refl _, ht.active⟩

theorem miss (ht : s.Reaches cfg t) : s.Reaches cfg t.miss :=
  ⟨ht.valid.miss, by rw [pos_miss]; exact ht.le, by rw [active_miss]; exact ht.active⟩

theorem report (ht : s.Reaches cfg t) (e : Event R) : s.Reaches cfg (t.report e) :=
  ⟨ht.valid.report e, ht.le, ht.active⟩

theorem record (ht : s.Reaches cfg t) (r : R) {p : Nat} (hp : p ≤ cfg.length) :
    s.Reaches cfg (t.record r p) :=
  ⟨ht.valid.record r hp, ht.le, ht.active⟩

end Reaches

theorem Reads.reaches {s t : State R} {b : Bool} (h : s.Reads cfg.length b t) (hv : s.Valid cfg) :
    s.Reaches cfg t := by
  obtain ⟨-, p, hle, hlen, rfl⟩ | ⟨-, rfl⟩ := h
  · have hm := hv.moveTo (hlen hv.pos_le) fun h => Nat.le_trans (hv.opened h).1 hle
    exact ⟨hm, hle, rfl⟩
  · exact (Reaches.refl hv).miss

end State

theorem reaches_askPolicy {policy : Policy} {span : Span} {s t u : State R} {b : Bool}
    (h : askPolicy cfg.input policy span t = (b, u)) (ht : s.Reaches cfg t) : s.Reaches cfg u := by
  obtain ⟨-, e, rfl⟩ | ⟨-, v, rfl, rfl | ⟨e, rfl⟩⟩ := askPolicy_eq h
  · exact ht.report e
  · exact ht.miss
  · exact (ht.report e).miss

/-! ### Bodies and growth -/

/-- The body of a rule, begun in `s` with the rule open, came to an outcome and left `t`. -/
structure State.Closes (cfg : Setting R) (r : R) (s : State R) (o : Outcome) (t : State R) :
    Prop where
  /-- With the rule still open, the state is a valid one further ahead. -/
  reaches : (s.enter r).Reaches cfg (t.leaveTo (s.enter r))
  /-- The rule is closed again. -/
  active : t.active = s.active
  fits : o.Fits s.pos cfg.length t.failure
  pos_eq : t.pos = o.stop

/-- A state in which a rule can be evaluated once more to improve on its best match. -/
structure State.Growing (cfg : Setting R) (r : R) (start : Nat) (best : Outcome) (s : State R) :
    Prop where
  valid : s.Valid cfg
  depth_lt : s.depth < cfg.maxDepth
  /-- The open rules were begun at or before the position that growth begins at. -/
  frames_le : ∀ {q p}, (q, p) ∈ s.active.frames → p ≤ start
  not_open : (r, start) ∉ s.active.frames
  done : s.progress? r start = some (.done best)
  matched : best.matched = true

namespace State

variable {r : R} {start : Nat} {best seed o : Outcome} {s t : State R}

theorem Growing.fits (hg : s.Growing cfg r start best) : best.Fits start cfg.length s.failure :=
  hg.valid.done hg.done

theorem Growing.enter (hg : s.Growing cfg r start best) : ((s.moveTo start).enter r).Valid cfg := by
  have hm : (s.moveTo start).Valid cfg :=
    hg.valid.moveTo (Nat.le_trans hg.fits.le_stop hg.fits.stop_le) hg.frames_le
  exact hm.enter hg.not_open (by simp [hg.done]) hg.depth_lt

theorem Closes.valid_settle (hc : Closes cfg r s o t) : (t.settle r s.pos o).Valid cfg := by
  have hv : ((t.settle r s.pos o).leaveTo (s.enter r)).Valid cfg :=
    hc.reaches.valid.settle r hc.fits
  exact Valid.close (o := o) hv hc.active (by simp [progress?_settle])

/-- A body that matched can be grown. -/
theorem Closes.growing (hc : Closes cfg r s o t) (hd : s.depth < cfg.maxDepth)
    (hle : ∀ {q p}, (q, p) ∈ s.active.frames → p ≤ s.pos) (hr : (r, s.pos) ∉ s.active.frames)
    (hm : o.matched = true) : (t.settle r s.pos o).Growing cfg r s.pos o where
  valid := hc.valid_settle
  depth_lt := by
    rw [depth, active_settle, hc.active]
    exact hd
  frames_le := by
    rw [active_settle, hc.active]
    exact hle
  not_open := by
    rw [active_settle, hc.active]
    exact hr
  done := by simp [progress?_settle]
  matched := hm

theorem Growing.next (hg : s.Growing cfg r start best)
    (hc : Closes cfg r (s.moveTo start) o t) (hm : o.matched = true) :
    (t.settle r start o).Growing cfg r start o :=
  hc.growing hg.depth_lt hg.frames_le hg.not_open hm

theorem Closes.growing_seed (hc : Closes cfg r (s.begin r) seed t) (hv : s.Valid cfg)
    (hn : s.memo.get? r s.pos = none) (hd : s.depth < cfg.maxDepth) (hm : seed.matched = true) :
    (t.settle r s.pos seed).Growing cfg r s.pos seed :=
  hc.growing hd (fun h => (hv.opened h).1) (hv.not_mem_of_progress? (progress?_eq_none.mpr hn)) hm

end State

/-! ### Every evaluation keeps the invariant -/

/-- An evaluation that begins in a valid state ends in one, further ahead, with the same rules open.
A rule body begins with its rule open, and a growth with a match to improve on. -/
def Judgement.Sound (cfg : Setting R) : Judgement R → Prop
  | .expr _ s _ t => s.Valid cfg → s.Reaches cfg t
  | .loop _ s t => s.Valid cfg → s.Reaches cfg t
  | .body r s o t => (s.enter r).Valid cfg → State.Closes cfg r s o t
  | .growth r start best s o t => s.Growing cfg r start best →
      t.Valid cfg ∧ t.active = s.active ∧ o.Fits start cfg.length t.failure ∧ t.pos = o.stop ∧
        o.matched = true
  | .rule _ s o t => s.Valid cfg →
      s.Reaches cfg t ∧ o.Fits s.pos cfg.length t.failure ∧ t.pos = o.stop

/-- **Every evaluation keeps the invariant.** -/
theorem Derives.sound {j : Judgement R} {h : List (Moment R)} (hj : Derives cfg j h) :
    j.Sound cfg := by
  induction hj with
  | succeed | fail => exact State.Reaches.refl
  | inspect => exact fun hv => (State.Reaches.refl hv).report _
  | byte hb => exact (State.reads_takeByte hb).reaches
  | run hb => exact (State.reads_takeRun hb).reaches
  | literal hb => exact (State.reads_takeLiteral hb).reaches
  | apply _ _ ih => exact fun hv => (ih hv).1
  | andThen_miss _ ih | orElse _ ih | attempt _ ih | many _ ih | loop_still _ _ ih => exact ih
  | andThen _ _ ih₁ ih₂ | orElse_next _ _ ih₁ ih₂ | loop_next _ _ _ ih₁ ih₂ =>
    exact fun hv => (ih₁ hv).trans (ih₂ (ih₁ hv).valid)
  | attempt_miss _ ih | notAhead_miss _ ih | ahead _ ih | capture_miss _ ih | check_miss _ ih
  | loop_miss _ ih => exact fun hv => (ih hv).restore hv
  | notAhead _ ih => exact fun hv => ((ih hv).restore hv).miss
  | capture _ ih => exact fun hv => (ih hv).report _
  | check _ hp ih => exact fun hv => reaches_askPolicy hp (ih hv)
  | check_refused _ hp ih => exact fun hv => (reaches_askPolicy hp (ih hv)).restore hv
  | @body r s t h he ih =>
    intro hv
    have ht := ih hv
    have heq : (t.leaveTo s).leaveTo (s.enter r) = t := by
      rw [State.leaveTo, State.leaveTo, ← ht.active]
    exact ⟨heq ▸ ht, rfl, ⟨rfl, ht.le, ht.valid.pos_le, fun hm => by cases hm⟩, rfl⟩
  | @body_miss r s t h he ih =>
    intro hv
    have ht := ((ih hv).restore hv).record r hv.pos_le
    have heq : (((t.leaveTo s).moveTo s.pos).record r s.pos).leaveTo (s.enter r) =
        (t.moveTo (s.enter r).pos).record r s.pos := by
      simp only [State.leaveTo, State.moveTo, State.record, ← (ih hv).active]
      rfl
    exact ⟨heq ▸ ht, rfl, ⟨rfl, Nat.le_refl _, hv.pos_le,
      fun _ => ⟨rfl, FarthestFailure.covers_record ..⟩⟩, rfl⟩
  | grow _ hlt _ ih₁ ih₂ =>
    intro hg
    have hc := ih₁ hg.enter
    obtain ⟨hu, hactive, hrest⟩ := ih₂ (hg.next hc hlt.1)
    exact ⟨hu, hactive.trans hc.active, hrest⟩
  | @grow_stop r start best s next t h hb _ ih =>
    intro hg
    have hc := ih hg.enter
    have hk : t.progress? r start = some (.done best) := hb.knows r start best hg.done
    have hv : t.Valid cfg := State.Valid.close (s := s.moveTo start) hc.reaches.valid hc.active hk
    refine ⟨hv.moveTo hg.fits.stop_le fun h => ?_, hc.active, hv.done hk, rfl, hg.matched⟩
    exact Nat.le_trans (hg.frames_le (hc.active ▸ h)) hg.fits.le_stop
  | recalled he =>
    intro hv
    have hk := State.progress?_of_get? he
    exact ⟨⟨hv.reuse hk, (hv.done hk).le_stop, rfl⟩, hv.done hk, rfl⟩
  | reentered he =>
    intro hv
    exact ⟨⟨hv.reenter (State.progress?_of_get? he), Nat.le_refl _, rfl⟩,
      ⟨rfl, Nat.le_refl _, hv.pos_le, fun _ => ⟨rfl, FarthestFailure.covers_record ..⟩⟩, rfl⟩
  | refused =>
    intro hv
    exact ⟨⟨hv.refuse _, Nat.le_refl _, rfl⟩,
      ⟨rfl, Nat.le_refl _, hv.pos_le, fun _ => ⟨rfl, FarthestFailure.covers_record ..⟩⟩, rfl⟩
  | @settled r s o t h hn hd _ _ ih =>
    intro hv
    have hc := ih (hv.enter_begin (State.progress?_eq_none.mpr hn) hd)
    exact ⟨⟨hc.valid_settle, hc.reaches.le, hc.active⟩, hc.fits, hc.pos_eq⟩
  | @grown r s seed t o u h₁ h₂ hn hd _ hs _ ih₁ ih₂ =>
    intro hv
    have hc := ih₁ (hv.enter_begin (State.progress?_eq_none.mpr hn) hd)
    rw [Bool.and_eq_true] at hs
    obtain ⟨hu, hactive, hfit, hpos, -⟩ := ih₂ (hc.growing_seed hv hn hd hs.1)
    exact ⟨⟨hu, hpos ▸ hfit.le_stop, hactive.trans hc.active⟩, hfit, hpos⟩

end AddressGrammar.Peg
