import AddressGrammar.Proofs.Peg.Persistence
import AddressGrammar.Proofs.Text.Prepended
import Mathlib.Data.List.Forall2

/-!
# Evaluation at another place

The evaluator reads its input from the reading position on, and it compares and stores positions but
never looks at their absolute values. So on a text with another one before it, from a state whose
positions are all moved by the length of that other text, it does the same and ends in a state that is
moved in the same way. One relation between states carries this through expressions, repetition,
growth and rule application.

The relation comes in two strengths. What a run recognizes depends on the reading position, the depth,
the mark of the bound and the progress of the entries; that is the weaker form. The farthest failure,
the innermost rule, the counts of requests and the reports are written and never read; the stronger
form follows them too. With nothing before the text, the weaker form compares two states at the same
place that differ in what is never read.

The two evaluations are compared at the same room for rule bodies and need not come to an end: if one
of them runs out of room, so does the other.

## Main definitions

* `Outcome.shift`, `Progress.shift`, `Entry.shift`, `FarthestFailure.shift`, `Event.Shifted` — the
  same at another place
* `MemoTable.Shifted`, `State.Shifted` — tables and states that are moved, in both strengths

## Main results

* `Expr.eval_shifted` — expressions, if the application of rules is as it should be
* `Setting.applyWithin_shifted` — rule application
-/

namespace AddressGrammar.Peg

open Text

variable {R : Type}

/-! ### The same at another place -/

/-- The outcome `k` bytes farther on. -/
def Outcome.shift (k : Nat) (o : Outcome) : Outcome := ⟨o.matched, ⟨k + o.span.start, k + o.span.stop⟩⟩

@[simp] theorem Outcome.matched_shift (k : Nat) (o : Outcome) : (o.shift k).matched = o.matched := rfl

@[simp] theorem Outcome.stop_shift (k : Nat) (o : Outcome) : (o.shift k).stop = k + o.stop := rfl

/-- The progress with its outcome `k` bytes farther on. -/
def Progress.shift (k : Nat) : Progress → Progress
  | inProgress again => inProgress again
  | done o => done (o.shift k)

/-- The entry with its outcome `k` bytes farther on. -/
def Entry.shift (k : Nat) (e : Entry) : Entry := ⟨e.progress.shift k, e.hits⟩

/-- The farthest failure `k` bytes farther on. -/
def FarthestFailure.shift (k : Nat) (f : FarthestFailure R) : FarthestFailure R :=
  f.map fun x => (x.1, k + x.2)

/-- Two reports tell the same, one of them `k` bytes farther on. What is found in the table is asked
for at an offset that is part of the expression, so nothing is said about the answer to that. -/
inductive Event.Shifted (k : Nat) : Event R → Event R → Prop where
  | captured {start stop text} :
      Shifted k (.captured ⟨start, stop⟩ text) (.captured ⟨k + start, k + stop⟩ text)
  | asked {policy text answer} : Shifted k (.asked policy text answer) (.asked policy text answer)
  | inspected {r pos e e'} : Shifted k (.inspected r pos e) (.inspected r pos e')

variable {k : Nat} {watched : Prop}

theorem FarthestFailure.shift_record (f : FarthestFailure R) (r : R) (pos : Nat) :
    (f.record r pos).shift k = (f.shift k).record r (k + pos) := by
  cases f with
  | none => rfl
  | some x =>
    by_cases h : pos < x.2
    · simp [record, shift, h]
    · simp [record, shift, h]

/-! ### Tables -/

/-- The second entry is the first one `k` bytes farther on, with the same count if counts are
watched. -/
structure Entry.Shifted (k : Nat) (watched : Prop) (e e' : Entry) : Prop where
  progress : e'.progress = e.progress.shift k
  hits : watched → e'.hits = e.hits

theorem Entry.shifted_begun : Entry.begun.Shifted k watched Entry.begun := ⟨rfl, fun _ => rfl⟩

theorem Entry.Shifted.visited {e e' : Entry} (h : e.Shifted k watched e') :
    e.visited.Shifted k watched e'.visited :=
  ⟨h.progress, fun hw => congrArg (fun n => min (n + 1) maxHits) (h.hits hw)⟩

theorem Entry.Shifted.withProgress {e e' : Entry} (h : e.Shifted k watched e') (progress : Progress) :
    Entry.Shifted k watched { e with progress } { e' with progress := progress.shift k } :=
  ⟨rfl, h.hits⟩

variable [DecidableEq R]

/-- The second table has the entries of the first one `k` bytes farther on, and none before. -/
structure MemoTable.Shifted (k : Nat) (watched : Prop) (t t' : MemoTable R) : Prop where
  entries : ∀ r p, Option.Rel (Entry.Shifted k watched) (t.get? r p) (t'.get? r (k + p))
  before : watched → ∀ r p, p < k → t'.get? r p = none

namespace MemoTable.Shifted

variable {t t' : MemoTable R}

theorem empty : (MemoTable.empty : MemoTable R).Shifted k watched .empty where
  entries := fun r p => by
    rw [get?_empty, get?_empty]
    exact .none
  before := fun _ r p _ => get?_empty r p

/-- What is found in the one table is found in the other one. -/
theorem lookup (h : t.Shifted k watched t') (r : R) (p : Nat) :
    t.get? r p = none ∧ t'.get? r (k + p) = none ∨
      ∃ e e', t.get? r p = some e ∧ t'.get? r (k + p) = some e' ∧ e.Shifted k watched e' := by
  have he := h.entries r p
  cases ht : t.get? r p <;> cases ht' : t'.get? r (k + p) <;> rw [ht, ht'] at he <;> cases he
  · exact .inl ⟨rfl, rfl⟩
  · next he => exact .inr ⟨_, _, rfl, rfl, he⟩

theorem put (h : t.Shifted k watched t') (r : R) (p : Nat) {e e' : Entry}
    (he : e.Shifted k watched e') : (t.put r p e).Shifted k watched (t'.put r (k + p) e') where
  entries := fun q i => by
    rw [get?_put, get?_put]
    by_cases hq : r = q ∧ p = i
    · rw [if_pos hq, if_pos ⟨hq.1, congrArg (k + ·) hq.2⟩]
      exact .some he
    · rw [if_neg hq, if_neg fun hq' => hq ⟨hq'.1, Nat.add_left_cancel hq'.2⟩]
      exact h.entries q i
  before := fun hw q i hi => by
    rw [get?_put, if_neg fun hq => absurd hq.2 (by omega)]
    exact h.before hw q i hi

theorem begin (h : t.Shifted k watched t') (r : R) (p : Nat) :
    (t.begin r p).Shifted k watched (t'.begin r (k + p)) := h.put r p Entry.shifted_begun

theorem visit (h : t.Shifted k watched t') (r : R) (p : Nat) :
    (t.visit r p).Shifted k watched (t'.visit r (k + p)) := by
  unfold MemoTable.visit
  obtain ⟨ht, ht'⟩ | ⟨e, e', ht, ht', he⟩ := h.lookup r p <;> rw [ht, ht']
  · exact h
  · exact h.put r p he.visited

theorem reenter (h : t.Shifted k watched t') (r : R) (p : Nat) :
    (t.reenter r p).Shifted k watched (t'.reenter r (k + p)) := by
  unfold MemoTable.reenter
  obtain ⟨ht, ht'⟩ | ⟨e, e', ht, ht', he⟩ := h.lookup r p <;> rw [ht, ht']
  · exact h
  · exact h.put r p (he.withProgress (.inProgress true))

theorem finish (h : t.Shifted k watched t') (r : R) (p : Nat) (o : Outcome) :
    (t.finish r p o).Shifted k watched (t'.finish r (k + p) (o.shift k)) := by
  refine h.put r p ?_
  obtain ⟨ht, ht'⟩ | ⟨e, e', ht, ht', he⟩ := h.lookup r p <;> rw [ht, ht']
  · exact Entry.shifted_begun.withProgress (.done o)
  · exact he.withProgress (.done o)

theorem isReentered_eq (h : t.Shifted k watched t') (r : R) (p : Nat) :
    t'.isReentered r (k + p) = t.isReentered r p := by
  unfold MemoTable.isReentered
  obtain ⟨ht, ht'⟩ | ⟨e, e', ht, ht', he⟩ := h.lookup r p
  · rw [ht, ht']
  · rw [ht, ht', Option.any_some, Option.any_some, he.progress]
    cases e.progress <;> rfl

/-- If counts are watched, the entries are the same but for their place. -/
theorem get?_eq (h : t.Shifted k True t') (r : R) (p : Nat) :
    t'.get? r (k + p) = (t.get? r p).map (Entry.shift k) := by
  obtain ⟨ht, ht'⟩ | ⟨e, e', ht, ht', he⟩ := h.lookup r p
  · rw [ht, ht', Option.map_none]
  · rw [ht, ht', Option.map_some, Entry.shift, ← he.progress, ← he.hits trivial]

end MemoTable.Shifted

/-! ### States -/

/-- The second state is the first one `k` bytes farther on. What is never read takes part only if it
is watched. -/
structure State.Shifted (k : Nat) (watched : Prop) (s s' : State R) : Prop where
  pos : s'.pos = k + s.pos
  depth : s'.depth = s.depth
  exhausted : s'.exhausted = s.exhausted
  memo : s.memo.Shifted k watched s'.memo
  current : watched → s'.current? = s.current?
  failure : watched → s'.failure = s.failure.shift k
  events : watched → List.Forall₂ (Event.Shifted k) s.events s'.events

/-- The same answer in a state farther on. -/
def Flagged (k : Nat) (watched : Prop) (x x' : Bool × State R) : Prop :=
  x'.1 = x.1 ∧ x.2.Shifted k watched x'.2

/-- The same outcome, farther on, in a state farther on. -/
def Answered (k : Nat) (watched : Prop) (x x' : Outcome × State R) : Prop :=
  x'.1 = x.1.shift k ∧ x.2.Shifted k watched x'.2

namespace State.Shifted

variable {s s' t t' : State R}

theorem moveTo (h : s.Shifted k watched s') (p : Nat) :
    (s.moveTo p).Shifted k watched (s'.moveTo (k + p)) :=
  ⟨rfl, h.depth, h.exhausted, h.memo, h.current, h.failure, h.events⟩

/-- Both go back to where they were. -/
theorem restore (ht : t.Shifted k watched t') (hs : s.Shifted k watched s') :
    (t.moveTo s.pos).Shifted k watched (t'.moveTo s'.pos) := hs.pos ▸ ht.moveTo s.pos

theorem record (h : s.Shifted k watched s') (r : R) (p : Nat) :
    (s.record r p).Shifted k watched (s'.record r (k + p)) where
  pos := h.pos
  depth := h.depth
  exhausted := h.exhausted
  memo := h.memo
  current := h.current
  failure := fun hw => by
    rw [State.record, State.record, FarthestFailure.shift_record, h.failure hw]
  events := h.events

theorem miss (h : s.Shifted k watched s') : s.miss.Shifted k watched s'.miss where
  pos := by rw [pos_miss, pos_miss, h.pos]
  depth := by rw [depth_miss, depth_miss, h.depth]
  exhausted := by rw [exhausted_miss, exhausted_miss, h.exhausted]
  memo := by
    rw [memo_miss, memo_miss]
    exact h.memo
  current := fun hw => by
    rw [current?, current?, active_miss, active_miss]
    exact h.current hw
  failure := fun hw => by
    unfold State.miss
    rw [h.current hw]
    split
    · rw [State.record, State.record, FarthestFailure.shift_record, h.failure hw, h.pos]
    · exact h.failure hw
  events := fun hw => by
    have hevents : ∀ x : State R, x.miss.events = x.events := fun x => by
      obtain hx | ⟨r, hx⟩ := miss_eq x <;> rw [hx]
      rfl
    rw [hevents, hevents]
    exact h.events hw

theorem report (h : s.Shifted k watched s') {e e' : Event R} (he : e.Shifted k e') :
    (s.report e).Shifted k watched (s'.report e') :=
  ⟨h.pos, h.depth, h.exhausted, h.memo, h.current, h.failure, fun hw => .cons he (h.events hw)⟩

theorem forgetEvents (h : s.Shifted k watched s') :
    State.Shifted k watched { s with events := [] } { s' with events := [] } :=
  ⟨h.pos, h.depth, h.exhausted, h.memo, h.current, h.failure, fun _ => .nil⟩

theorem withMemo (h : s.Shifted k watched s') {m m' : MemoTable R} (hm : m.Shifted k watched m') :
    State.Shifted k watched { s with memo := m } { s' with memo := m' } :=
  ⟨h.pos, h.depth, h.exhausted, hm, h.current, h.failure, h.events⟩

theorem exhaust (h : s.Shifted k watched s') :
    State.Shifted k watched { s with exhausted := true } { s' with exhausted := true } :=
  ⟨h.pos, h.depth, rfl, h.memo, h.current, h.failure, h.events⟩

theorem begin (h : s.Shifted k watched s') (r : R) :
    (s.begin r).Shifted k watched (s'.begin r) := h.withMemo (h.pos ▸ h.memo.begin r s.pos)

theorem settle (h : s.Shifted k watched s') (r : R) (p : Nat) (o : Outcome) :
    (s.settle r p o).Shifted k watched (s'.settle r (k + p) (o.shift k)) :=
  h.withMemo (h.memo.finish r p o)

theorem push (h : s.Shifted k watched s') (r : R) (start start' : Nat) :
    State.Shifted k watched { s with active := s.active.push r start }
      { s' with active := s'.active.push r start' } :=
  ⟨h.pos, congrArg (· + 1) h.depth, h.exhausted, h.memo, fun _ => rfl, h.failure, h.events⟩

/-- Both close the rules that they opened. -/
theorem leaveTo (ht : t.Shifted k watched t') (hs : s.Shifted k watched s') :
    (t.leaveTo s).Shifted k watched (t'.leaveTo s') :=
  ⟨ht.pos, hs.depth, ht.exhausted, ht.memo, hs.current, ht.failure, ht.events⟩

theorem moveIf (h : s.Shifted k watched s') (test : Bool) (stop : Nat) :
    Flagged k watched (s.moveIf test stop) (s'.moveIf test (k + stop)) := by
  cases test with
  | false => exact ⟨rfl, h.miss⟩
  | true => exact ⟨rfl, h.moveTo stop⟩

theorem restoreOnFailure (hs : s.Shifted k watched s') {x x' : Bool × State R}
    (hx : Flagged k watched x x') :
    Flagged k watched (restoreOnFailure s.pos x) (Peg.restoreOnFailure s'.pos x') := by
  obtain ⟨b, t⟩ := x
  obtain ⟨b', t'⟩ := x'
  obtain ⟨rfl, ht⟩ := hx
  cases b' with
  | false => exact ⟨rfl, ht.restore hs⟩
  | true => exact ⟨rfl, ht⟩

end State.Shifted

/-! ### Reading -/

section Reading

variable {s s' : State R} {u input : String}

theorem State.Shifted.takeByte (h : s.Shifted u.utf8ByteSize watched s') (c : ByteClass) :
    Flagged u.utf8ByteSize watched (s.takeByte input c) (s'.takeByte (u ++ input) c) := by
  rw [takeByte_eq, takeByte_eq, h.pos, classAt_append, Nat.add_assoc]
  exact h.moveIf _ _

theorem State.Shifted.takeRun (h : s.Shifted u.utf8ByteSize watched s') (c : ByteClass) :
    Flagged u.utf8ByteSize watched (s.takeRun input c) (s'.takeRun (u ++ input) c) := by
  rw [takeRun_eq, takeRun_eq, h.pos, classAt_append, Nat.add_assoc, runEnd_append]
  exact h.moveIf _ _

theorem State.Shifted.takeLiteral (h : s.Shifted u.utf8ByteSize watched s') (bytes : List UInt8) :
    Flagged u.utf8ByteSize watched (s.takeLiteral input bytes) (s'.takeLiteral (u ++ input) bytes) := by
  rw [takeLiteral_eq, takeLiteral_eq, h.pos, spelledAt_append, Nat.add_assoc]
  exact h.moveIf _ _

theorem State.Shifted.askPolicy (h : s.Shifted u.utf8ByteSize watched s') (input : String)
    (policy : Policy) (start stop : Nat) :
    Flagged u.utf8ByteSize watched (askPolicy input policy ⟨start, stop⟩ s)
      (Peg.askPolicy (u ++ input) policy ⟨u.utf8ByteSize + start, u.utf8ByteSize + stop⟩ s') := by
  unfold Peg.askPolicy
  rw [slice?_append]
  cases slice? input start stop with
  | none => exact ⟨rfl, h.miss⟩
  | some text =>
    have hasked : (Event.asked policy.name text (policy.accepts text) : Event R).Shifted
        u.utf8ByteSize (.asked policy.name text (policy.accepts text)) := .asked
    have hr := h.report hasked
    dsimp only
    split
    · exact ⟨rfl, hr⟩
    · exact ⟨rfl, hr.miss⟩

end Reading

/-! ### Evaluation -/

/-- Related answers stay related under related changes. -/
theorem rel_map {α β γ δ : Type} {P : α → β → Prop} {Q : γ → δ → Prop} {f : α → γ} {g : β → δ}
    (hfg : ∀ a b, P a b → Q (f a) (g b)) {x : Option α} {y : Option β} (h : Option.Rel P x y) :
    Option.Rel Q (x.map f) (y.map g) := by
  cases h with
  | none => exact .none
  | some h => exact .some (hfg _ _ h)

theorem isSome_eq_of_rel {α β : Type} {P : α → β → Prop} {x : Option α} {y : Option β}
    (h : Option.Rel P x y) : y.isSome = x.isSome := by
  cases h <;> rfl

theorem cases_flagged {x x' : Option (Bool × State R)} (h : Option.Rel (Flagged k watched) x x') :
    x = none ∧ x' = none ∨
      ∃ b t t', x = some (b, t) ∧ x' = some (b, t') ∧ t.Shifted k watched t' := by
  cases h with
  | none => exact .inl ⟨rfl, rfl⟩
  | @some y y' h =>
    obtain ⟨b, t⟩ := y
    obtain ⟨b', t'⟩ := y'
    obtain ⟨rfl, ht⟩ := h
    exact .inr ⟨b', t, t', rfl, rfl, ht⟩

theorem cases_answered {x x' : Option (Outcome × State R)}
    (h : Option.Rel (Answered k watched) x x') :
    x = none ∧ x' = none ∨
      ∃ o t t', x = some (o, t) ∧ x' = some (o.shift k, t') ∧ t.Shifted k watched t' := by
  cases h with
  | none => exact .inl ⟨rfl, rfl⟩
  | @some y y' h =>
    obtain ⟨o, t⟩ := y
    obtain ⟨o', t'⟩ := y'
    obtain ⟨rfl, ht⟩ := h
    exact .inr ⟨o, t, t', rfl, rfl, ht⟩

/-- Two ways to evaluate something give the same answers, the second one `k` bytes farther on. -/
def Attuned (k : Nat) (watched : Prop) (f f' : State R → Option (Bool × State R)) : Prop :=
  ∀ s s', s.Shifted k watched s' → Option.Rel (Flagged k watched) (f s) (f' s')

theorem repeatUpTo_shifted {f f' : State R → Option (Bool × State R)} (hf : Attuned k watched f f')
    (n : Nat) {s s' : State R} (h : s.Shifted k watched s') :
    Option.Rel (State.Shifted k watched) (repeatUpTo f n s) (repeatUpTo f' n s') := by
  induction n generalizing s s' with
  | zero => exact .none
  | succ n ih =>
    rw [repeatUpTo, repeatUpTo]
    obtain ⟨hx, hx'⟩ | ⟨b, t, t', hx, hx', ht⟩ := cases_flagged (hf s s' h) <;> rw [hx, hx']
    · exact .none
    · have hpos : (t'.pos != s'.pos) = (t.pos != s.pos) := by
        rw [ht.pos, h.pos, Bool.eq_iff_iff, bne_iff_ne, bne_iff_ne, Ne, Nat.add_left_cancel_iff]
      dsimp only
      rw [hpos]
      split
      · exact ih ht
      · exact .some ht

section Eval

variable {u input : String} {call call' : R → State R → Option (Bool × State R)}

/-- **An expression gives the same answer farther on**, if the application of rules does. -/
theorem Expr.eval_shifted (hcall : ∀ r, Attuned u.utf8ByteSize watched (call r) (call' r))
    (input : String) (e : Expr R) :
    Attuned u.utf8ByteSize watched (e.eval input call) (e.eval (u ++ input) call') := by
  induction e with
  | succeed | fail => exact fun s s' h => .some ⟨rfl, h⟩
  | byte c => exact fun s s' h => .some (h.takeByte c)
  | run c => exact fun s s' h => .some (h.takeRun c)
  | literal bytes => exact fun s s' h => .some (h.takeLiteral bytes)
  | apply r => exact hcall r
  | andThen e₁ e₂ ih₁ ih₂ =>
    intro s s' h
    rw [eval, eval]
    obtain ⟨hx, hx'⟩ | ⟨b, t, t', hx, hx', ht⟩ := cases_flagged (ih₁ s s' h) <;> rw [hx, hx']
    · exact .none
    · cases b with
      | false => exact .some ⟨rfl, ht⟩
      | true => exact ih₂ t t' ht
  | orElse e₁ e₂ ih₁ ih₂ =>
    intro s s' h
    rw [eval, eval]
    obtain ⟨hx, hx'⟩ | ⟨b, t, t', hx, hx', ht⟩ := cases_flagged (ih₁ s s' h) <;> rw [hx, hx']
    · exact .none
    · cases b with
      | false => exact ih₂ t t' ht
      | true => exact .some ⟨rfl, ht⟩
  | attempt e ih => exact fun s s' h => rel_map (fun _ _ hx => h.restoreOnFailure hx) (ih s s' h)
  | many e ih =>
    intro s s' h
    have hattempt : Attuned u.utf8ByteSize watched
        (fun t => (e.eval input call t).map (restoreOnFailure t.pos))
        (fun t => (e.eval (u ++ input) call' t).map (restoreOnFailure t.pos)) :=
      fun t t' ht => rel_map (fun _ _ hx => ht.restoreOnFailure hx) (ih t t' ht)
    have hfuel : (u ++ input).utf8ByteSize + 1 - s'.pos = input.utf8ByteSize + 1 - s.pos := by
      rw [h.pos, String.utf8ByteSize_append]
      omega
    rw [eval, eval, hfuel]
    exact rel_map (fun _ _ ht => ⟨rfl, ht⟩) (repeatUpTo_shifted hattempt _ h)
  | notAhead e ih =>
    refine fun s s' h => rel_map ?_ (ih s s' h)
    rintro ⟨b, t⟩ ⟨b', t'⟩ ⟨rfl, ht⟩
    cases b' with
    | false => exact ⟨rfl, ht.restore h⟩
    | true => exact ⟨rfl, (ht.restore h).miss⟩
  | ahead e ih =>
    refine fun s s' h => rel_map ?_ (ih s s' h)
    rintro ⟨b, t⟩ ⟨b', t'⟩ ⟨rfl, ht⟩
    exact ⟨rfl, ht.restore h⟩
  | capture e ih =>
    refine fun s s' h => rel_map ?_ (ih s s' h)
    rintro ⟨b, t⟩ ⟨b', t'⟩ ⟨rfl, ht⟩
    cases b' with
    | false => exact ⟨rfl, ht.restore h⟩
    | true =>
      dsimp only
      rw [h.pos, ht.pos, slice?_append]
      exact ⟨rfl, ht.report .captured⟩
  | check e policy ih =>
    refine fun s s' h => rel_map ?_ (ih s s' h)
    rintro ⟨b, t⟩ ⟨b', t'⟩ ⟨rfl, ht⟩
    cases b' with
    | false => exact ⟨rfl, ht.restore h⟩
    | true =>
      have hask := ht.askPolicy input policy s.pos t.pos
      rw [← h.pos, ← ht.pos] at hask
      exact h.restoreOnFailure hask
  | inspect r pos => exact fun s s' h => .some ⟨rfl, h.report .inspected⟩

end Eval

/-! ### Rule application -/

section Application

variable {u : String} {cfg cfg' : Setting R}

/-- Two settings differ in a text that the second one has before the input. -/
structure Setting.Shifted (u : String) (cfg cfg' : Setting R) : Prop where
  body : ∀ r, cfg'.grammar.body r = cfg.grammar.body r
  input : cfg'.input = u ++ cfg.input
  maxDepth : cfg'.maxDepth = cfg.maxDepth

namespace Setting

variable {call call' : R → State R → Option (Bool × State R)}

theorem immediate?_shifted (hcfg : cfg.Shifted u cfg') (r : R) {s s' : State R}
    (h : s.Shifted k watched s') :
    Option.Rel (Answered k watched) (cfg.immediate? r s) (cfg'.immediate? r s') := by
  obtain ⟨pos', memo', failure', active', exhausted', events'⟩ := s'
  obtain rfl : pos' = k + s.pos := h.pos
  unfold immediate?
  have hvisit := h.memo.visit r s.pos
  obtain ⟨he, he'⟩ | ⟨e, e', he, he', hprogress, -⟩ := h.memo.lookup r s.pos
  · simp only [he, he', hcfg.maxDepth, h.depth]
    split
    · exact .some ⟨rfl, h.exhaust.record r s.pos⟩
    · exact .none
  · simp only [he, he', hprogress]
    cases e.progress with
    | inProgress again =>
      exact .some ⟨rfl, (h.withMemo (hvisit.reenter r s.pos)).record r s.pos⟩
    | done o => exact .some ⟨rfl, (h.withMemo hvisit).moveTo o.stop⟩

theorem evaluateBody_shifted (hcfg : cfg.Shifted u cfg')
    (hcall : ∀ r, Attuned u.utf8ByteSize watched (call r) (call' r)) (r : R) (start : Nat)
    {s s' : State R} (h : s.Shifted u.utf8ByteSize watched s') :
    Option.Rel (Answered u.utf8ByteSize watched) (cfg.evaluateBody call r start s)
      (cfg'.evaluateBody call' r (u.utf8ByteSize + start) s') := by
  unfold evaluateBody
  rw [hcfg.body, hcfg.input]
  have heval := (cfg.grammar.body r).eval_shifted hcall cfg.input _ _
    (h.push r start (u.utf8ByteSize + start))
  obtain ⟨hx, hx'⟩ | ⟨b, t, t', hx, hx', ht⟩ := cases_flagged heval <;> rw [hx, hx']
  · exact .none
  · have hleave := ht.leaveTo h
    cases b with
    | false => exact .some ⟨rfl, (hleave.moveTo start).record r start⟩
    | true => exact .some ⟨congrArg (Outcome.hit (u.utf8ByteSize + start)) ht.pos, hleave⟩

theorem grow_shifted {f f' : State R → Option (Outcome × State R)}
    (hf : ∀ s s', s.Shifted k watched s' → Option.Rel (Answered k watched) (f s) (f' s'))
    (r : R) (start n : Nat) (best : Outcome) {s s' : State R} (h : s.Shifted k watched s') :
    Option.Rel (Answered k watched) (grow f r start n best s)
      (grow f' r (k + start) n (best.shift k) s') := by
  induction n generalizing best s s' with
  | zero => exact .none
  | succ n ih =>
    rw [grow, grow]
    obtain ⟨hx, hx'⟩ | ⟨next, t, t', hx, hx', ht⟩ := cases_answered (hf _ _ (h.moveTo start)) <;>
      rw [hx, hx']
    · exact .none
    · simp only [Outcome.matched_shift, Outcome.stop_shift, Nat.add_lt_add_iff_left]
      split
      · exact ih next (ht.settle r start next)
      · exact .some ⟨rfl, ht.moveTo best.stop⟩

/-- Rule application, in terms of the steps it is made of. -/
theorem applyWithin_succ (cfg : Setting R) (n : Nat) (r : R) (s : State R) :
    cfg.applyWithin (n + 1) r s =
      match cfg.immediate? r s with
      | some answer => some answer
      | none =>
        match cfg.evaluateBody (cfg.callWithin n) r s.pos (s.begin r) with
        | none => none
        | some (seed, t) =>
          if seed.matched && t.memo.isReentered r s.pos then
            grow (cfg.evaluateBody (cfg.callWithin n) r s.pos) r s.pos (cfg.length + 1 - seed.stop)
              seed (t.settle r s.pos seed)
          else some (seed, t.settle r s.pos seed) := by
  rw [applyWithin]
  rfl

/-- An expression learns the same from two rule applications that have the same outcome. -/
theorem callWithin_of_applyWithin {n : Nat} {r : R} {s s' : State R}
    (h : Option.Rel (Answered k watched) (cfg.applyWithin n r s) (cfg'.applyWithin n r s')) :
    Option.Rel (Flagged k watched) (cfg.callWithin n r s) (cfg'.callWithin n r s') := by
  refine rel_map ?_ h
  rintro ⟨o, t⟩ ⟨o', t'⟩ ⟨rfl, ht⟩
  exact ⟨rfl, ht⟩

/-- **A rule application gives the same outcome farther on.** -/
theorem applyWithin_shifted (hcfg : cfg.Shifted u cfg') (n : Nat) (r : R) {s s' : State R}
    (h : s.Shifted u.utf8ByteSize watched s') :
    Option.Rel (Answered u.utf8ByteSize watched) (cfg.applyWithin n r s)
      (cfg'.applyWithin n r s') := by
  induction n generalizing r s s' with
  | zero => exact immediate?_shifted hcfg r h
  | succ n ih =>
    have hcall : ∀ q, Attuned u.utf8ByteSize watched (cfg.callWithin n q) (cfg'.callWithin n q) :=
      fun q t t' ht => callWithin_of_applyWithin (ih q ht)
    rw [applyWithin_succ, applyWithin_succ]
    obtain ⟨hi, hi'⟩ | ⟨o, t, t', hi, hi', ht⟩ := cases_answered (immediate?_shifted hcfg r h) <;>
      rw [hi, hi']
    · have hbody : ∀ t t' : State R, t.Shifted u.utf8ByteSize watched t' →
          Option.Rel (Answered u.utf8ByteSize watched) (cfg.evaluateBody (cfg.callWithin n) r s.pos t)
            (cfg'.evaluateBody (cfg'.callWithin n) r (u.utf8ByteSize + s.pos) t') :=
        fun t t' ht => evaluateBody_shifted hcfg hcall r s.pos ht
      dsimp only
      rw [h.pos]
      obtain ⟨hx, hx'⟩ | ⟨seed, t, t', hx, hx', ht⟩ := cases_answered (hbody _ _ (h.begin r)) <;>
        rw [hx, hx']
      · exact .none
      · have hfuel : cfg'.length + 1 - (seed.shift u.utf8ByteSize).stop =
            cfg.length + 1 - seed.stop := by
          rw [length, hcfg.input, String.utf8ByteSize_append, Outcome.stop_shift, length]
          omega
        dsimp only
        rw [hfuel, ht.memo.isReentered_eq, Outcome.matched_shift]
        split
        · exact grow_shifted hbody r s.pos _ seed (ht.settle r s.pos seed)
        · exact .some ⟨rfl, ht.settle r s.pos seed⟩
    · exact .some ⟨rfl, ht⟩

theorem callWithin_shifted (hcfg : cfg.Shifted u cfg') (n : Nat) (r : R) :
    Attuned u.utf8ByteSize watched (cfg.callWithin n r) (cfg'.callWithin n r) :=
  fun _ _ h => callWithin_of_applyWithin (applyWithin_shifted hcfg n r h)

end Setting

end Application

end AddressGrammar.Peg
