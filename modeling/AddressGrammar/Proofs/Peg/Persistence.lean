import AddressGrammar.Proofs.Peg.Derivation

/-!
# What a run keeps

A run does not unlearn. Once it hit the bound on nesting it stays exhausted, the farthest failure
never retreats, and a remembered outcome is replaced only by the growth of its own rule at its own
position.

Requests are counted, but no evaluation depends on the count. The table is therefore looked at
through `State.progress?`, and each change to a state is described by what it does to that.

## Main definitions

* `FarthestFailure.Covers` — a failure at or behind an offset was recorded
* `State.Since` — nothing that a state has learned is lost in another
* `State.moveIf`, `State.Reads` — what the primitives that read input have in common
* `State.progress?` — the table without its counts
* `State.AtStage`, `Judgement.Sustains` — an entry has come to a stage, and stays there
* `Judgement.Remembers` — an evaluation keeps the remembered outcomes

## Main results

* `Derives.since` — the bound and the failures of a run only ever add up
* `Derives.sustains` — entries stay at their stage
* `Derives.knows` — remembered outcomes are kept
-/

namespace AddressGrammar.Peg

open Text

variable {R : Type}

/-! ### Recorded failures -/

namespace FarthestFailure

/-- A failure at or behind an offset was recorded. -/
def Covers (f : FarthestFailure R) (pos : Nat) : Prop := ∃ r offset, f = some (r, offset) ∧ pos ≤ offset

theorem record_eq (f : FarthestFailure R) (r : R) (pos : Nat) :
    f.record r pos = some (r, pos) ∨ f.record r pos = f ∧ f.Covers pos := by
  cases f with
  | none => exact .inl rfl
  | some x =>
    by_cases h : pos < x.2
    · exact .inr ⟨by simp [record, h], x.1, x.2, rfl, Nat.le_of_lt h⟩
    · exact .inl (by simp [record, h])

theorem covers_record (f : FarthestFailure R) (r : R) (pos : Nat) : (f.record r pos).Covers pos := by
  rcases f.record_eq r pos with h | ⟨h, hc⟩
  · exact ⟨r, pos, h, Nat.le_refl pos⟩
  · rwa [h]

theorem Covers.record {f : FarthestFailure R} {p : Nat} (hf : f.Covers p) (r : R) (pos : Nat) :
    (f.record r pos).Covers p := by
  obtain ⟨q, offset, rfl, hp⟩ := hf
  by_cases h : pos < offset
  · exact ⟨q, offset, by simp [FarthestFailure.record, h], hp⟩
  · exact ⟨r, pos, by simp [FarthestFailure.record, h], Nat.le_trans hp (Nat.le_of_not_lt h)⟩

theorem Covers.of_le {f : FarthestFailure R} {p q : Nat} (hf : f.Covers q) (h : p ≤ q) :
    f.Covers p := by
  obtain ⟨r, offset, hr, hq⟩ := hf
  exact ⟨r, offset, hr, Nat.le_trans h hq⟩

end FarthestFailure

namespace State

@[simp] theorem pos_moveTo (s : State R) (p : Nat) : (s.moveTo p).pos = p := rfl
@[simp] theorem memo_moveTo (s : State R) (p : Nat) : (s.moveTo p).memo = s.memo := rfl
@[simp] theorem active_moveTo (s : State R) (p : Nat) : (s.moveTo p).active = s.active := rfl
@[simp] theorem failure_moveTo (s : State R) (p : Nat) : (s.moveTo p).failure = s.failure := rfl

@[simp] theorem moveTo_moveTo (s : State R) (p q : Nat) : (s.moveTo p).moveTo q = s.moveTo q := rfl

@[simp] theorem pos_leaveTo (t s : State R) : (t.leaveTo s).pos = t.pos := rfl
@[simp] theorem memo_leaveTo (t s : State R) : (t.leaveTo s).memo = t.memo := rfl
@[simp] theorem active_leaveTo (t s : State R) : (t.leaveTo s).active = s.active := rfl

theorem miss_eq (s : State R) : s.miss = s ∨ ∃ r, s.miss = s.record r s.pos := by
  unfold miss
  split
  · next r _ => exact .inr ⟨r, rfl⟩
  · exact .inl rfl

@[simp] theorem pos_miss (s : State R) : s.miss.pos = s.pos := by
  obtain h | ⟨r, h⟩ := s.miss_eq <;> rw [h]; rfl

@[simp] theorem memo_miss (s : State R) : s.miss.memo = s.memo := by
  obtain h | ⟨r, h⟩ := s.miss_eq <;> rw [h]; rfl

@[simp] theorem exhausted_miss (s : State R) : s.miss.exhausted = s.exhausted := by
  obtain h | ⟨r, h⟩ := s.miss_eq <;> rw [h]; rfl

@[simp] theorem active_miss (s : State R) : s.miss.active = s.active := by
  obtain h | ⟨r, h⟩ := s.miss_eq <;> rw [h]; rfl

@[simp] theorem depth_miss (s : State R) : s.miss.depth = s.depth := by
  rw [depth, active_miss, depth]

theorem events_miss (s : State R) : s.miss.events = s.events := by
  obtain h | ⟨r, h⟩ := s.miss_eq <;> rw [h]
  rfl

/-- Putting the position where it is. -/
theorem moveTo_of_pos {s : State R} {p : Nat} (h : s.pos = p) : s.moveTo p = s := by
  rw [← h]
  rfl

/-! ### What was learned is not unlearned -/

/-- Nothing that `s` has learned about the bound on nesting and about failures is lost in `t`. -/
structure Since (t s : State R) : Prop where
  /-- A run that hit the bound stays exhausted. -/
  exhausted : s.exhausted = true → t.exhausted = true
  /-- A failure that was recorded stays covered. -/
  covers : ∀ p, s.failure.Covers p → t.failure.Covers p

theorem Since.refl (s : State R) : s.Since s := ⟨id, fun _ => id⟩

theorem Since.trans {s t u : State R} (hu : u.Since t) (ht : t.Since s) : u.Since s :=
  ⟨fun h => hu.exhausted (ht.exhausted h), fun p h => hu.covers p (ht.covers p h)⟩

theorem Since.not_exhausted {s t : State R} (h : t.Since s) (ht : t.exhausted = false) :
    s.exhausted = false := by
  rw [← Bool.not_eq_true] at ht ⊢
  exact fun hs => ht (h.exhausted hs)

theorem Since.record {s t : State R} (h : t.Since s) (r : R) (p : Nat) : (t.record r p).Since s :=
  ⟨h.exhausted, fun q hq => (h.covers q hq).record r p⟩

theorem Since.miss {s t : State R} (h : t.Since s) : t.miss.Since s := by
  obtain ht | ⟨r, ht⟩ := t.miss_eq
  · rwa [ht]
  · rw [ht]
    exact h.record r t.pos

/-- What the primitives have in common: they move on if a test holds, and miss otherwise. -/
def moveIf (s : State R) (test : Bool) (stop : Nat) : Bool × State R :=
  if test then (true, s.moveTo stop) else (false, s.miss)

theorem takeByte_eq (s : State R) (input : String) (c : ByteClass) :
    s.takeByte input c = s.moveIf (classAt input c s.pos) (s.pos + 1) := rfl

theorem takeRun_eq (s : State R) (input : String) (c : ByteClass) :
    s.takeRun input c = s.moveIf (classAt input c s.pos) (runEnd input c (s.pos + 1)) := rfl

theorem takeLiteral_eq (s : State R) (input : String) (bytes : List UInt8) :
    s.takeLiteral input bytes =
      s.moveIf (spelledAt input s.pos bytes) (s.pos + bytes.length) := rfl

/-- What a primitive does: it moves on within an input of that length, or it misses. -/
def Reads (length : Nat) (s : State R) (matched : Bool) (t : State R) : Prop :=
  matched = true ∧ (∃ p, s.pos ≤ p ∧ (s.pos ≤ length → p ≤ length) ∧ t = s.moveTo p) ∨
    matched = false ∧ t = s.miss

theorem reads_takeByte {s t : State R} {input : String} {c : ByteClass} {b : Bool}
    (h : s.takeByte input c = (b, t)) : s.Reads input.utf8ByteSize b t := by
  unfold takeByte at h
  split at h <;> cases h
  · next hc => exact .inl ⟨rfl, _, Nat.le_succ _, fun _ => lt_of_classAt hc, rfl⟩
  · exact .inr ⟨rfl, rfl⟩

theorem reads_takeRun {s t : State R} {input : String} {c : ByteClass} {b : Bool}
    (h : s.takeRun input c = (b, t)) : s.Reads input.utf8ByteSize b t := by
  unfold takeRun at h
  split at h <;> cases h
  · next hc =>
    exact .inl ⟨rfl, _, Nat.le_trans (Nat.le_succ _) (le_skipAtMost ..),
      fun _ => skipAtMost_le _ _ _ _ (lt_of_classAt hc), rfl⟩
  · exact .inr ⟨rfl, rfl⟩

theorem reads_takeLiteral {s t : State R} {input : String} {bytes : List UInt8} {b : Bool}
    (h : s.takeLiteral input bytes = (b, t)) : s.Reads input.utf8ByteSize b t := by
  unfold takeLiteral at h
  split at h <;> cases h
  · next hs =>
    exact .inl ⟨rfl, _, Nat.le_add_right .., fun hle => add_length_le_of_spelledAt hs hle, rfl⟩
  · exact .inr ⟨rfl, rfl⟩

theorem Reads.since {length : Nat} {s t : State R} {b : Bool} (h : s.Reads length b t) :
    t.Since s := by
  obtain ⟨-, p, -, -, rfl⟩ | ⟨-, rfl⟩ := h
  · exact ⟨id, fun _ => id⟩
  · exact (Since.refl s).miss

theorem Reads.memo {length : Nat} {s t : State R} {b : Bool} (h : s.Reads length b t) :
    t.memo = s.memo := by
  obtain ⟨-, p, -, -, rfl⟩ | ⟨-, rfl⟩ := h
  · rfl
  · exact s.memo_miss

end State

/-- Asking a policy reports the answer, or charges a failure at the reading position. -/
theorem askPolicy_eq {input : String} {policy : Policy} {span : Span} {s t : State R} {b : Bool}
    (h : askPolicy input policy span s = (b, t)) :
    (b = true ∧ ∃ e, t = s.report e) ∨ b = false ∧ ∃ u, t = u.miss ∧ (u = s ∨ ∃ e, u = s.report e) := by
  unfold askPolicy at h
  split at h
  · dsimp only at h
    split at h <;> cases h
    · exact .inl ⟨rfl, _, rfl⟩
    · exact .inr ⟨rfl, _, rfl, .inr ⟨_, rfl⟩⟩
  · cases h
    exact .inr ⟨rfl, s, rfl, .inl rfl⟩

theorem memo_askPolicy {input : String} {policy : Policy} {span : Span} {s t : State R} {b : Bool}
    (h : askPolicy input policy span s = (b, t)) : t.memo = s.memo := by
  obtain ⟨-, e, rfl⟩ | ⟨-, u, rfl, rfl | ⟨e, rfl⟩⟩ := askPolicy_eq h
  · rfl
  · exact State.memo_miss _
  · exact State.memo_miss _

theorem since_askPolicy {input : String} {policy : Policy} {span : Span} {s t : State R} {b : Bool}
    (h : askPolicy input policy span s = (b, t)) : t.Since s := by
  obtain ⟨-, e, rfl⟩ | ⟨-, u, rfl, rfl | ⟨e, rfl⟩⟩ := askPolicy_eq h
  · exact ⟨id, fun _ => id⟩
  · exact (State.Since.refl _).miss
  · exact State.Since.miss ⟨id, fun _ => id⟩

/-- The state in which an evaluation begins. -/
def Judgement.before : Judgement R → State R
  | .expr _ s _ _ => s
  | .loop _ s _ => s
  | .body _ s _ _ => s
  | .growth _ _ _ s _ _ => s
  | .rule _ s _ _ => s

/-- The state in which an evaluation ends. -/
def Judgement.after : Judgement R → State R
  | .expr _ _ _ t => t
  | .loop _ _ t => t
  | .body _ _ _ t => t
  | .growth _ _ _ _ _ t => t
  | .rule _ _ _ t => t

variable [DecidableEq R] {cfg : Setting R}

@[simp] theorem State.pos_settle (t : State R) (r : R) (p : Nat) (o : Outcome) :
    (t.settle r p o).pos = t.pos := rfl

@[simp] theorem State.active_settle (t : State R) (r : R) (p : Nat) (o : Outcome) :
    (t.settle r p o).active = t.active := rfl

@[simp] theorem State.failure_settle (t : State R) (r : R) (p : Nat) (o : Outcome) :
    (t.settle r p o).failure = t.failure := rfl

/-- **Nothing learned is lost.** -/
theorem Derives.since {j : Judgement R} {h : List (Moment R)} (hj : Derives cfg j h) :
    j.after.Since j.before := by
  induction hj with
  | succeed | fail | inspect | recalled => exact ⟨id, fun _ => id⟩
  | byte hb => exact (State.reads_takeByte hb).since
  | run hb => exact (State.reads_takeRun hb).since
  | literal hb => exact (State.reads_takeLiteral hb).since
  | apply _ _ ih | andThen_miss _ ih | orElse _ ih | attempt _ ih | many _ ih | loop_still _ _ ih =>
    exact ih
  | andThen _ _ ih₁ ih₂ | orElse_next _ _ ih₁ ih₂ | loop_next _ _ _ ih₁ ih₂ => exact ih₂.trans ih₁
  | attempt_miss _ ih | notAhead_miss _ ih | ahead _ ih | capture _ ih | capture_miss _ ih
  | check_miss _ ih | loop_miss _ ih => exact ⟨ih.exhausted, ih.covers⟩
  | notAhead _ ih => exact State.Since.miss ⟨ih.exhausted, ih.covers⟩
  | check _ hp ih => exact (since_askPolicy hp).trans ih
  | check_refused _ hp ih =>
    have hu := (since_askPolicy hp).trans ih
    exact ⟨hu.exhausted, hu.covers⟩
  | body _ ih => exact ⟨ih.exhausted, ih.covers⟩
  | body_miss _ ih => exact ⟨ih.exhausted, fun p h => (ih.covers p h).record _ _⟩
  | grow _ _ _ ih₁ ih₂ =>
    exact ⟨fun h => ih₂.exhausted (ih₁.exhausted h), fun p h => ih₂.covers p (ih₁.covers p h)⟩
  | grow_stop _ _ ih => exact ⟨ih.exhausted, ih.covers⟩
  | reentered => exact ⟨id, fun _ h => h.record _ _⟩
  | refused => exact ⟨fun _ => rfl, fun _ h => h.record _ _⟩
  | settled _ _ _ _ ih => exact ⟨ih.exhausted, ih.covers⟩
  | grown _ _ _ _ _ ih₁ ih₂ =>
    exact ⟨fun h => ih₂.exhausted (ih₁.exhausted h), fun p h => ih₂.covers p (ih₁.covers p h)⟩

/-! ### What is remembered stays remembered -/

namespace State

/-- How far the evaluation of a rule at a position has come, if it was begun. -/
def progress? (s : State R) (r : R) (p : Nat) : Option Progress :=
  (s.memo.get? r p).map Entry.progress

theorem progress?_of_get? {s : State R} {r : R} {p k : Nat} {progress : Progress}
    (h : s.memo.get? r p = some ⟨progress, k⟩) : s.progress? r p = some progress := by
  simp [progress?, h]

theorem progress?_eq_none {s : State R} {r : R} {p : Nat} :
    s.progress? r p = none ↔ s.memo.get? r p = none := Option.map_eq_none_iff

/-- A rule that was not asked for is none of those that were. -/
theorem ne_of_progress? {s : State R} {r q : R} {i p : Nat} {progress : Progress}
    (hn : s.memo.get? r i = none) (hk : s.progress? q p = some progress) : ¬(r = q ∧ i = p) := by
  rintro ⟨rfl, rfl⟩
  cases hk.symm.trans (progress?_eq_none.mpr hn)

theorem isReentered_iff {s : State R} {r : R} {p : Nat} :
    s.memo.isReentered r p = true ↔ s.progress? r p = some (.inProgress true) := by
  cases h : s.memo.get? r p <;> simp [MemoTable.isReentered, progress?, h]

theorem progress?_of_memo_eq {s t : State R} (h : t.memo = s.memo) (r : R) (p : Nat) :
    t.progress? r p = s.progress? r p := by
  rw [progress?, h, progress?]

@[simp] theorem progress?_moveTo (s : State R) (i : Nat) (r : R) (p : Nat) :
    (s.moveTo i).progress? r p = s.progress? r p := rfl

@[simp] theorem progress?_record (s : State R) (q : R) (i : Nat) (r : R) (p : Nat) :
    (s.record q i).progress? r p = s.progress? r p := rfl

@[simp] theorem progress?_miss (s : State R) (r : R) (p : Nat) :
    s.miss.progress? r p = s.progress? r p := progress?_of_memo_eq s.memo_miss r p

@[simp] theorem progress?_report (s : State R) (e : Event R) (r : R) (p : Nat) :
    (s.report e).progress? r p = s.progress? r p := rfl

@[simp] theorem progress?_enter (s : State R) (q r : R) (p : Nat) :
    (s.enter q).progress? r p = s.progress? r p := rfl

@[simp] theorem progress?_leaveTo (t s : State R) (r : R) (p : Nat) :
    (t.leaveTo s).progress? r p = t.progress? r p := rfl

@[simp] theorem progress?_reuse (s : State R) (q : R) (o : Outcome) (r : R) (p : Nat) :
    (s.reuse q o).progress? r p = s.progress? r p := by
  simp only [reuse, moveTo, progress?, MemoTable.get?_visit]
  split
  · rw [Option.map_map]
    rfl
  · rfl

@[simp] theorem progress?_refuse (s : State R) (q r : R) (p : Nat) :
    (s.refuse q).progress? r p = s.progress? r p := rfl

theorem progress?_begin (s : State R) (q r : R) (p : Nat) :
    (s.begin q).progress? r p =
      if q = r ∧ s.pos = p then some (.inProgress false) else s.progress? r p := by
  simp only [begin, progress?, MemoTable.get?_begin]
  split <;> rfl

theorem progress?_settle (s : State R) (q : R) (i : Nat) (o : Outcome) (r : R) (p : Nat) :
    (s.settle q i o).progress? r p = if q = r ∧ i = p then some (.done o) else s.progress? r p := by
  simp only [settle, progress?, MemoTable.get?_finish]
  split <;> rfl

theorem progress?_reenter {s : State R} {q : R} {again : Bool}
    (h : s.progress? q s.pos = some (.inProgress again)) (r : R) (p : Nat) :
    (s.reenter q).progress? r p =
      if q = r ∧ s.pos = p then some (.inProgress true) else s.progress? r p := by
  simp only [reenter, record, progress?, MemoTable.get?_reenter, MemoTable.get?_visit]
  split
  · next hk =>
    obtain ⟨e, he, -⟩ := Option.map_eq_some_iff.mp h
    rw [← hk.1, ← hk.2, he]
    rfl
  · rfl

/-! What happens to the entries of one rule leaves the other rules alone. -/

theorem progress?_begin_of_ne {q r : R} (h : q ≠ r) (s : State R) (p : Nat) :
    (s.begin q).progress? r p = s.progress? r p := by
  rw [progress?_begin, if_neg fun heq => h heq.1]

theorem progress?_settle_of_ne {q r : R} (h : q ≠ r) (s : State R) (i : Nat) (o : Outcome) (p : Nat) :
    (s.settle q i o).progress? r p = s.progress? r p := by
  rw [progress?_settle, if_neg fun heq => h heq.1]

theorem progress?_reenter_of_ne {q r : R} (h : q ≠ r) {s : State R} {again : Bool}
    (hk : s.progress? q s.pos = some (.inProgress again)) (p : Nat) :
    (s.reenter q).progress? r p = s.progress? r p := by
  rw [progress?_reenter hk, if_neg fun heq => h heq.1]

end State

/-- The evaluation of a rule at a position was begun, and has come to a stage. -/
def State.AtStage (A : Progress → Prop) (s : State R) (r : R) (p : Nat) : Prop :=
  ∃ x, s.progress? r p = some x ∧ A x

/-- Entries stay at a stage, all but the one that is being grown. -/
def Judgement.Sustains (A : Progress → Prop) : Judgement R → Prop
  | .growth r start _ s _ t => ∀ q p, ¬(r = q ∧ start = p) → s.AtStage A q p → t.AtStage A q p
  | .expr _ s _ t | .loop _ s t | .body _ s _ t | .rule _ s _ t =>
    ∀ q p, s.AtStage A q p → t.AtStage A q p

/-- **Entries stay at their stage.** An evaluation does two things to an entry that it finds: it may
mark one in progress as asked for again, and it grows one that it began itself. -/
theorem Derives.sustains {A : Progress → Prop} (hA : ∀ again, A (.inProgress again) → A (.inProgress true))
    {j : Judgement R} {h : List (Moment R)} (hj : Derives cfg j h) : j.Sustains A := by
  have still : ∀ {s t : State R}, t.memo = s.memo → ∀ q p, s.AtStage A q p → t.AtStage A q p := by
    rintro s t hm q p ⟨x, hk, hx⟩
    exact ⟨x, (State.progress?_of_memo_eq hm q p).trans hk, hx⟩
  -- An entry that was there is not the one that is begun.
  have begun : ∀ {s : State R} {r q : R} {p : Nat}, s.memo.get? r s.pos = none →
      s.AtStage A q p → ¬(r = q ∧ s.pos = p) ∧ (s.begin r).AtStage A q p := by
    rintro s r q p hn ⟨x, hk, hx⟩
    have hne := State.ne_of_progress? hn hk
    exact ⟨hne, x, by rwa [State.progress?_begin, if_neg hne], hx⟩
  have settled : ∀ {t : State R} {r q : R} {i p : Nat} {o : Outcome}, ¬(r = q ∧ i = p) →
      t.AtStage A q p → (t.settle r i o).AtStage A q p := by
    rintro t r q i p o hne ⟨x, hk, hx⟩
    exact ⟨x, by rwa [State.progress?_settle, if_neg hne], hx⟩
  induction hj with
  | succeed | fail | inspect => exact fun _ _ => id
  | byte hb => exact still (State.reads_takeByte hb).memo
  | run hb => exact still (State.reads_takeRun hb).memo
  | literal hb => exact still (State.reads_takeLiteral hb).memo
  | apply _ _ ih | andThen_miss _ ih | orElse _ ih | attempt _ ih | many _ ih | loop_still _ _ ih =>
    exact ih
  | andThen _ _ ih₁ ih₂ | orElse_next _ _ ih₁ ih₂ | loop_next _ _ _ ih₁ ih₂ =>
    exact fun q p hk => ih₂ q p (ih₁ q p hk)
  | attempt_miss _ ih | notAhead_miss _ ih | ahead _ ih | capture _ ih | capture_miss _ ih
  | check_miss _ ih | loop_miss _ ih | body _ ih | body_miss _ ih => exact ih
  | notAhead _ ih => exact fun q p hk => still (State.memo_miss _) q p (ih q p hk)
  | check _ hp ih | check_refused _ hp ih => exact fun q p hk => still (memo_askPolicy hp) q p (ih q p hk)
  | grow _ _ _ ih₁ ih₂ => exact fun q p hne hk => ih₂ q p hne (settled hne (ih₁ q p hk))
  | grow_stop _ _ ih => exact fun q p _ => ih q p
  | @recalled r s o k he =>
    rintro q p ⟨x, hk, hx⟩
    exact ⟨x, by rwa [State.progress?_reuse], hx⟩
  | @reentered r s again k he =>
    rintro q p ⟨x, hk, hx⟩
    have hrk := State.progress?_of_get? he
    by_cases heq : r = q ∧ s.pos = p
    · obtain ⟨rfl, rfl⟩ := heq
      obtain rfl := Option.some.inj (hrk.symm.trans hk)
      exact ⟨.inProgress true, by rw [State.progress?_reenter hrk, if_pos ⟨rfl, rfl⟩], hA again hx⟩
    · exact ⟨x, by rwa [State.progress?_reenter hrk, if_neg heq], hx⟩
  | refused => exact fun _ _ => id
  | settled hn _ _ _ ih =>
    intro q p hk
    obtain ⟨hne, hbegun⟩ := begun hn hk
    exact settled hne (ih q p hbegun)
  | grown hn _ _ _ _ ih₁ ih₂ =>
    intro q p hk
    obtain ⟨hne, hbegun⟩ := begun hn hk
    exact ih₂ q p hne (settled hne (ih₁ q p hbegun))

/-- Remembered outcomes are kept, all but the one that is being grown. -/
def Judgement.Remembers : Judgement R → Prop
  | .growth r start _ s _ t => ∀ q p o, ¬(r = q ∧ start = p) →
      s.progress? q p = some (.done o) → t.progress? q p = some (.done o)
  | .expr _ s _ t => ∀ q p o, s.progress? q p = some (.done o) → t.progress? q p = some (.done o)
  | .loop _ s t => ∀ q p o, s.progress? q p = some (.done o) → t.progress? q p = some (.done o)
  | .body _ s _ t => ∀ q p o, s.progress? q p = some (.done o) → t.progress? q p = some (.done o)
  | .rule _ s _ t => ∀ q p o, s.progress? q p = some (.done o) → t.progress? q p = some (.done o)

theorem Derives.knows {j : Judgement R} {h : List (Moment R)} (hj : Derives cfg j h) :
    j.Remembers := by
  have hstage : ∀ {s : State R} {q p o}, s.AtStage (· = .done o) q p ↔ s.progress? q p = some (.done o) := by
    simp [State.AtStage]
  have hall := fun o => hj.sustains (A := (· = .done o)) nofun
  cases j with
  | growth => exact fun q p o hne hk => hstage.mp (hall o q p hne (hstage.mpr hk))
  | expr | loop | body | rule => exact fun q p o hk => hstage.mp (hall o q p (hstage.mpr hk))

end AddressGrammar.Peg
