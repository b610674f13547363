import AddressGrammar.Proofs.Peg.Locality
import AddressGrammar.Proofs.Peg.Preservation
import AddressGrammar.Proofs.Peg.Segments

/-!
# Places that a run never leaves

A run that begins at a place of some kind, and whose bytes lead from places of that kind to such
places, is always at one of them: where it reads, where it records a failure and where the outcomes
that it remembers end. The boundaries between characters are such places if all bytes that are read
are below 128.

Matches alone do not show this. They tell where expressions begin and end, but the farthest failure
is recorded where one of them gave up, and it outlives the match. A lookahead is the one expression
that may step on other places, since it may read what is not taken. If it looks for the absence of a
single byte, as an accountable one does, it records its failure where it began.

## Main definitions

* `State.On` — a state knows of places of that kind only

## Main results

* `Derives.stays_on` — so does every state that an evaluation comes to from it
-/

namespace AddressGrammar.Peg

open Text

variable {R : Type} [DecidableEq R]

/-- The state reads at a place of that kind, and so do the outcomes that it remembers end and its
farthest failure lie at such places. -/
structure State.On (B : Nat → Prop) (s : State R) : Prop where
  pos : B s.pos
  stored : s.Stores fun _ _ _ q => B q
  failure : ∀ r p, s.failure = some (r, p) → B p

namespace State.On

variable {B : Nat → Prop} {s t : State R} {p : Nat}

theorem initial (h : B 0) : (State.initial : State R).On B :=
  ⟨h, .initial 0, fun _ _ hf => by cases hf⟩

theorem moveTo (hs : s.On B) (hp : B p) : (s.moveTo p).On B :=
  ⟨hp, hs.stored.of_memo rfl, hs.failure⟩

theorem record (hs : s.On B) (r : R) (hp : B p) : (s.record r p).On B := by
  refine ⟨hs.pos, hs.stored.of_memo rfl, fun q i hf => ?_⟩
  change s.failure.record r p = some (q, i) at hf
  unfold FarthestFailure.record at hf
  split at hf
  · next q' offset hsome =>
    split at hf
    · exact hs.failure q i (hsome.trans hf)
    · cases hf
      exact hp
  · cases hf
    exact hp

theorem miss (hs : s.On B) : s.miss.On B := by
  obtain h | ⟨r, h⟩ := s.miss_eq
  · rwa [h]
  · rw [h]
    exact hs.record r hs.pos

theorem report (hs : s.On B) (e : Event R) : (s.report e).On B :=
  ⟨hs.pos, hs.stored.of_memo rfl, hs.failure⟩

theorem enter (hs : s.On B) (r : R) : (s.enter r).On B :=
  ⟨hs.pos, hs.stored.of_memo rfl, hs.failure⟩

theorem leaveTo (ht : t.On B) (s : State R) : (t.leaveTo s).On B :=
  ⟨ht.pos, ht.stored.of_memo rfl, ht.failure⟩

theorem begin (hs : s.On B) (r : R) : (s.begin r).On B :=
  ⟨hs.pos, hs.stored.begin r, hs.failure⟩

theorem settle (hs : s.On B) (r : R) (p : Nat) {o : Outcome} (ho : B o.stop) :
    (s.settle r p o).On B := ⟨hs.pos, hs.stored.settle ho, hs.failure⟩

theorem reuse (hs : s.On B) (r : R) {o : Outcome} (ho : B o.stop) : (s.reuse r o).On B :=
  ⟨ho, hs.stored.of_progress? fun q p => State.progress?_reuse _ _ _ q p, hs.failure⟩

theorem reenter (hs : s.On B) {r : R} {again : Bool}
    (h : s.progress? r s.pos = some (.inProgress again)) : (s.reenter r).On B :=
  have hrecord := hs.record r hs.pos
  ⟨hs.pos, hs.stored.reenter h, hrecord.failure⟩

theorem refuse (hs : s.On B) (r : R) : (s.refuse r).On B :=
  have hrecord := hs.record r hs.pos
  ⟨hs.pos, hs.stored.of_progress? fun q p => State.progress?_refuse _ _ q p, hrecord.failure⟩

theorem askPolicy {input : String} {policy : Policy} {span : Span} {b : Bool} (hs : s.On B)
    (h : askPolicy input policy span s = (b, t)) : t.On B := by
  obtain ⟨-, e, rfl⟩ | ⟨-, u, rfl, rfl | ⟨e, rfl⟩⟩ := askPolicy_eq h
  · exact hs.report e
  · exact hs.miss
  · exact (hs.report e).miss

end State.On

/-- Bytes of these classes lead from places of that kind to such places. -/
def Leads (input : String) (okClass : ByteClass → Bool) (B : Nat → Prop) : Prop :=
  ∀ c p, okClass c = true → classAt input c p = true → B p → B (p + 1)

variable {B : Nat → Prop} {okClass : ByteClass → Bool}

theorem Leads.skipAtMost {input : String} (hB : Leads input okClass B) {c : ByteClass}
    (hc : okClass c = true) {n p : Nat} (hp : B p) : B (skipAtMost input c n p) := by
  induction n generalizing p with
  | zero => exact hp
  | succ n ih =>
    rw [Text.skipAtMost]
    split
    · next hclass => exact ih (hB c p hc hclass hp)
    · exact hp

theorem State.On.takeByte {input : String} (hB : Leads input okClass B) {s t : State R}
    {c : ByteClass} {b : Bool} (hs : s.On B) (hc : okClass c = true)
    (h : s.takeByte input c = (b, t)) : t.On B := by
  unfold State.takeByte at h
  split at h <;> cases h
  · next hclass => exact hs.moveTo (hB c _ hc hclass hs.pos)
  · exact hs.miss

theorem State.On.takeRun {input : String} (hB : Leads input okClass B) {s t : State R}
    {c : ByteClass} {b : Bool} (hs : s.On B) (hc : okClass c = true)
    (h : s.takeRun input c = (b, t)) : t.On B := by
  unfold State.takeRun at h
  split at h <;> cases h
  · next hclass => exact hs.moveTo (hB.skipAtMost hc (hB c _ hc hclass hs.pos))
  · exact hs.miss

/-- Going back after a single byte was looked at leaves no trace but a failure where the byte is
missing, whichever byte that is. -/
theorem State.On.lookahead {input : String} {s t : State R} {c : ByteClass} {b : Bool} (hs : s.On B)
    (h : s.takeByte input c = (b, t)) : (t.moveTo s.pos).On B := by
  unfold State.takeByte at h
  split at h <;> cases h
  · exact ⟨hs.pos, hs.stored.of_memo rfl, hs.failure⟩
  · exact hs.miss.moveTo hs.pos

omit [DecidableEq R] in
/-- An accountable expression looks ahead for a single byte only. -/
theorem Expr.exists_byte_of_accountable {e : Expr R} (h : e.notAhead.accountable = true) :
    ∃ c, e = .byte c := by
  cases e with
  | byte c => exact ⟨c, rfl⟩
  | _ => cases h

/-- Whatever an evaluation comes to, it stays on places of that kind. -/
def Judgement.StaysOn (okClass : ByteClass → Bool) (B : Nat → Prop) : Judgement R → Prop
  | .expr e s _ t => e.accountable = true → e.covered okClass (fun _ => true) = true →
      s.On B → t.On B
  | .loop e s t => e.accountable = true → e.covered okClass (fun _ => true) = true →
      s.On B → t.On B
  | .body _ s o t => s.On B → t.On B ∧ B o.stop
  | .growth _ start best s o t => B start → B best.stop → s.On B → t.On B ∧ B o.stop
  | .rule _ s o t => s.On B → t.On B ∧ B o.stop

variable {cfg : Setting R}

/-- **A run never leaves such places.** -/
theorem Derives.stays_on (hB : Leads cfg.input okClass B)
    (haccount : ∀ r, (cfg.grammar.body r).accountable = true)
    (hcovered : ∀ r, (cfg.grammar.body r).covered okClass (fun _ => true) = true)
    {j : Judgement R} {h : List (Moment R)} (hj : Derives cfg j h) : j.StaysOn okClass B := by
  have both : ∀ {a b : Bool}, (a && b) = true → a = true ∧ b = true := Bool.and_eq_true_iff.mp
  induction hj with
  | succeed | fail => exact fun _ _ hs => hs
  | inspect => exact fun _ _ hs => hs.report _
  | byte hb => exact fun _ hc hs => hs.takeByte hB hc hb
  | run hb => exact fun _ hc hs => hs.takeRun hB hc hb
  | literal => exact fun ha => by cases ha
  | apply _ _ ih => exact fun _ _ hs => (ih hs).1
  | andThen _ _ ih₁ ih₂ =>
    intro ha hc hs
    exact ih₂ (both ha).2 (both hc).2 (ih₁ (both ha).1 (both hc).1 hs)
  | andThen_miss _ ih => exact fun ha hc hs => ih (both ha).1 (both hc).1 hs
  | orElse _ ih => exact fun ha hc hs => ih (both ha).1 (both (both hc).1).2 hs
  | orElse_next _ _ ih₁ ih₂ =>
    intro ha hc hs
    exact ih₂ (both ha).2 (both hc).2 (ih₁ (both ha).1 (both (both hc).1).2 hs)
  | attempt _ ih | many _ ih | loop_still _ _ ih => exact ih
  | attempt_miss _ ih | capture_miss _ ih | check_miss _ ih | loop_miss _ ih =>
    exact fun ha hc hs => (ih ha hc hs).moveTo hs.pos
  | notAhead he =>
    intro ha _ hs
    obtain ⟨c, rfl⟩ := Expr.exists_byte_of_accountable ha
    cases he with
    | byte hb => exact (hs.lookahead hb).miss
  | notAhead_miss he =>
    intro ha _ hs
    obtain ⟨c, rfl⟩ := Expr.exists_byte_of_accountable ha
    cases he with
    | byte hb => exact hs.lookahead hb
  | ahead => exact fun ha => by cases ha
  | capture _ ih => exact fun ha hc hs => (ih ha hc hs).report _
  | check _ hp ih => exact fun ha hc hs => (ih ha hc hs).askPolicy hp
  | check_refused _ hp ih =>
    exact fun ha hc hs => ((ih ha hc hs).askPolicy hp).moveTo hs.pos
  | loop_next _ _ _ ih₁ ih₂ => exact fun ha hc hs => ih₂ ha hc (ih₁ ha hc hs)
  | @body r s t _ _ ih =>
    intro hs
    have ht := ih (haccount r) (hcovered r) (hs.enter r)
    exact ⟨ht.leaveTo s, ht.pos⟩
  | @body_miss r s t _ _ ih =>
    intro hs
    have ht := ih (haccount r) (hcovered r) (hs.enter r)
    exact ⟨((ht.leaveTo s).moveTo hs.pos).record r hs.pos, hs.pos⟩
  | grow _ _ _ ih₁ ih₂ =>
    intro hstart _ hs
    obtain ⟨ht, hnext⟩ := ih₁ (hs.moveTo hstart)
    exact ih₂ hstart hnext (ht.settle _ _ hnext)
  | grow_stop _ _ ih =>
    intro hstart hbest hs
    exact ⟨(ih (hs.moveTo hstart)).1.moveTo hbest, hbest⟩
  | recalled he =>
    intro hs
    have hstop := hs.stored _ _ _ (State.progress?_of_get? he)
    exact ⟨hs.reuse _ hstop, hstop⟩
  | reentered he => exact fun hs => ⟨hs.reenter (State.progress?_of_get? he), hs.pos⟩
  | refused => exact fun hs => ⟨hs.refuse _, hs.pos⟩
  | settled _ _ _ _ ih =>
    intro hs
    obtain ⟨ht, hstop⟩ := ih (hs.begin _)
    exact ⟨ht.settle _ _ hstop, hstop⟩
  | grown _ _ _ _ _ ih₁ ih₂ =>
    intro hs
    obtain ⟨ht, hseed⟩ := ih₁ (hs.begin _)
    exact ih₂ hs.pos hseed (ht.settle _ _ hseed)

end AddressGrammar.Peg
