import AddressGrammar.Peg.Run

/-!
# Evaluations as derivations

The evaluator is a recursion on expressions inside a recursion on the room for rule bodies, and
every property of a run would have to be carried through both. Here the same evaluation is a
relation without any room: five forms of judgement, one rule of inference for each thing that can
happen, and the history of the run beside them. A property of all runs is then one induction.

## Histories

A derivation carries the moments that it went through: each rule body that was begun and each
application that was answered, with the states around them. Whatever a claim says about "every
application" or "every moment" is a statement about the members of this list.

## Main definitions

* `Moment`, `Judgement` — what happens during a run, and what an evaluation comes to
* `Derives` — the rules of inference
* `Setting.callWithin` — how an expression applies a rule
* `Judgement.Determined` — a judgement is the only answer to its question

## Main results

* `Setting.derives_of_applyWithin`, `Expr.derives_of_eval` — whatever the evaluator answers is
  derivable
* `Derives.determined` — a question has at most one answer, and one history
-/

namespace AddressGrammar.Peg

open Text

variable {R : Type} [DecidableEq R]

/-! ### The steps of an application -/

namespace State

/-- Opens a rule at the reading position. -/
def enter (s : State R) (r : R) : State R := { s with active := s.active.push r s.pos }

/-- Closes the rules that were opened since `s`. -/
def leaveTo (t s : State R) : State R := { t with active := s.active }

/-- Starts the entry of a rule at the reading position. -/
def begin (s : State R) (r : R) : State R := { s with memo := s.memo.begin r s.pos }

/-- Sets the outcome of a rule at a position. -/
def settle (s : State R) (r : R) (pos : Nat) (o : Outcome) : State R :=
  { s with memo := s.memo.finish r pos o }

/-- Takes the remembered outcome of a rule at the reading position. -/
def reuse (s : State R) (r : R) (o : Outcome) : State R :=
  { s with memo := s.memo.visit r s.pos }.moveTo o.stop

/-- Fails on a rule that is being evaluated at the reading position. -/
def reenter (s : State R) (r : R) : State R :=
  { s with memo := (s.memo.visit r s.pos).reenter r s.pos }.record r s.pos

/-- Fails at the bound on nesting. -/
def refuse (s : State R) (r : R) : State R := { s with exhausted := true }.record r s.pos

end State

/-! ### Judgements and their derivations -/

/-- A moment in the history of a run. -/
inductive Moment (R : Type) where
  /-- The body of a rule is begun, in a state in which the rule is open already. -/
  | opened (r : R) (s : State R)
  /-- A rule that was applied in `s` is answered in `t`. -/
  | answered (r : R) (s : State R) (o : Outcome) (t : State R)

/-- What an evaluation that begins in `s` and ends in `t` comes to. -/
inductive Judgement (R : Type) where
  /-- The evaluation of an expression. -/
  | expr (e : Expr R) (s : State R) (matched : Bool) (t : State R)
  /-- The repetition of an expression. -/
  | loop (e : Expr R) (s t : State R)
  /-- The evaluation of a rule body at the reading position. -/
  | body (r : R) (s : State R) (o : Outcome) (t : State R)
  /-- The growth of the best match so far at a position. -/
  | growth (r : R) (start : Nat) (best : Outcome) (s : State R) (o : Outcome) (t : State R)
  /-- The application of a rule at the reading position. -/
  | rule (r : R) (s : State R) (o : Outcome) (t : State R)

/-- The judgements that hold in a setting, each with the history that leads to it. -/
inductive Derives (cfg : Setting R) : Judgement R → List (Moment R) → Prop where
  | succeed {s} : Derives cfg (.expr .succeed s true s) []
  | fail {s} : Derives cfg (.expr .fail s false s) []
  | byte {c s b t} (hb : s.takeByte cfg.input c = (b, t)) : Derives cfg (.expr (.byte c) s b t) []
  | run {c s b t} (hb : s.takeRun cfg.input c = (b, t)) : Derives cfg (.expr (.run c) s b t) []
  | literal {bytes s b t} (hb : s.takeLiteral cfg.input bytes = (b, t)) :
      Derives cfg (.expr (.literal bytes) s b t) []
  | apply {r s o b t h} (hr : Derives cfg (.rule r s o t) h) (hb : o.matched = b) :
      Derives cfg (.expr (.apply r) s b t) h
  | andThen {e₁ e₂ s t b u h₁ h₂} (he₁ : Derives cfg (.expr e₁ s true t) h₁)
      (he₂ : Derives cfg (.expr e₂ t b u) h₂) :
      Derives cfg (.expr (.andThen e₁ e₂) s b u) (h₁ ++ h₂)
  | andThen_miss {e₁ e₂ s t h} (he₁ : Derives cfg (.expr e₁ s false t) h) :
      Derives cfg (.expr (.andThen e₁ e₂) s false t) h
  | orElse {e₁ e₂ s t h} (he₁ : Derives cfg (.expr e₁ s true t) h) :
      Derives cfg (.expr (.orElse e₁ e₂) s true t) h
  | orElse_next {e₁ e₂ s t b u h₁ h₂} (he₁ : Derives cfg (.expr e₁ s false t) h₁)
      (he₂ : Derives cfg (.expr e₂ t b u) h₂) :
      Derives cfg (.expr (.orElse e₁ e₂) s b u) (h₁ ++ h₂)
  | attempt {e s t h} (he : Derives cfg (.expr e s true t) h) :
      Derives cfg (.expr (.attempt e) s true t) h
  | attempt_miss {e s t h} (he : Derives cfg (.expr e s false t) h) :
      Derives cfg (.expr (.attempt e) s false (t.moveTo s.pos)) h
  | many {e s t h} (hl : Derives cfg (.loop e s t) h) : Derives cfg (.expr (.many e) s true t) h
  | notAhead {e s t h} (he : Derives cfg (.expr e s true t) h) :
      Derives cfg (.expr (.notAhead e) s false (t.moveTo s.pos).miss) h
  | notAhead_miss {e s t h} (he : Derives cfg (.expr e s false t) h) :
      Derives cfg (.expr (.notAhead e) s true (t.moveTo s.pos)) h
  | ahead {e s b t h} (he : Derives cfg (.expr e s b t) h) :
      Derives cfg (.expr (.ahead e) s b (t.moveTo s.pos)) h
  | capture {e s t h} (he : Derives cfg (.expr e s true t) h) :
      Derives cfg (.expr (.capture e) s true
        (t.report (.captured ⟨s.pos, t.pos⟩ (slice? cfg.input s.pos t.pos)))) h
  | capture_miss {e s t h} (he : Derives cfg (.expr e s false t) h) :
      Derives cfg (.expr (.capture e) s false (t.moveTo s.pos)) h
  | check {e policy s t u h} (he : Derives cfg (.expr e s true t) h)
      (hp : askPolicy cfg.input policy ⟨s.pos, t.pos⟩ t = (true, u)) :
      Derives cfg (.expr (.check e policy) s true u) h
  | check_refused {e policy s t u h} (he : Derives cfg (.expr e s true t) h)
      (hp : askPolicy cfg.input policy ⟨s.pos, t.pos⟩ t = (false, u)) :
      Derives cfg (.expr (.check e policy) s false (u.moveTo s.pos)) h
  | check_miss {e policy s t h} (he : Derives cfg (.expr e s false t) h) :
      Derives cfg (.expr (.check e policy) s false (t.moveTo s.pos)) h
  | inspect {r pos s} :
      Derives cfg (.expr (.inspect r pos) s true
        (s.report (.inspected r pos (s.memo.get? r pos)))) []
  | loop_miss {e s t h} (he : Derives cfg (.expr e s false t) h) :
      Derives cfg (.loop e s (t.moveTo s.pos)) h
  | loop_still {e s t h} (he : Derives cfg (.expr e s true t) h) (hpos : t.pos = s.pos) :
      Derives cfg (.loop e s t) h
  | loop_next {e s t u h₁ h₂} (he : Derives cfg (.expr e s true t) h₁) (hpos : t.pos ≠ s.pos)
      (hl : Derives cfg (.loop e t u) h₂) : Derives cfg (.loop e s u) (h₁ ++ h₂)
  | body {r s t h} (he : Derives cfg (.expr (cfg.grammar.body r) (s.enter r) true t) h) :
      Derives cfg (.body r s (.hit s.pos t.pos) (t.leaveTo s)) (.opened r (s.enter r) :: h)
  | body_miss {r s t h} (he : Derives cfg (.expr (cfg.grammar.body r) (s.enter r) false t) h) :
      Derives cfg (.body r s (.missed s.pos) (((t.leaveTo s).moveTo s.pos).record r s.pos))
        (.opened r (s.enter r) :: h)
  | grow {r start best s next t o u h₁ h₂} (hb : Derives cfg (.body r (s.moveTo start) next t) h₁)
      (hlt : next.matched = true ∧ best.stop < next.stop)
      (hg : Derives cfg (.growth r start next (t.settle r start next) o u) h₂) :
      Derives cfg (.growth r start best s o u) (h₁ ++ h₂)
  | grow_stop {r start best s next t h} (hb : Derives cfg (.body r (s.moveTo start) next t) h)
      (hle : ¬(next.matched = true ∧ best.stop < next.stop)) :
      Derives cfg (.growth r start best s best (t.moveTo best.stop)) h
  | recalled {r s o k} (he : s.memo.get? r s.pos = some ⟨.done o, k⟩) :
      Derives cfg (.rule r s o (s.reuse r o)) [.answered r s o (s.reuse r o)]
  | reentered {r s again k} (he : s.memo.get? r s.pos = some ⟨.inProgress again, k⟩) :
      Derives cfg (.rule r s (.missed s.pos) (s.reenter r))
        [.answered r s (.missed s.pos) (s.reenter r)]
  | refused {r s} (hn : s.memo.get? r s.pos = none) (hd : cfg.maxDepth ≤ s.depth) :
      Derives cfg (.rule r s (.missed s.pos) (s.refuse r))
        [.answered r s (.missed s.pos) (s.refuse r)]
  | settled {r s o t h} (hn : s.memo.get? r s.pos = none) (hd : s.depth < cfg.maxDepth)
      (hb : Derives cfg (.body r (s.begin r) o t) h)
      (hg : (o.matched && t.memo.isReentered r s.pos) = false) :
      Derives cfg (.rule r s o (t.settle r s.pos o))
        (h ++ [.answered r s o (t.settle r s.pos o)])
  | grown {r s seed t o u h₁ h₂} (hn : s.memo.get? r s.pos = none) (hd : s.depth < cfg.maxDepth)
      (hb : Derives cfg (.body r (s.begin r) seed t) h₁)
      (hs : (seed.matched && t.memo.isReentered r s.pos) = true)
      (hg : Derives cfg (.growth r s.pos seed (t.settle r s.pos seed) o u) h₂) :
      Derives cfg (.rule r s o u) (h₁ ++ h₂ ++ [.answered r s o u])

/-! ### Whatever the evaluator answers is derivable -/

variable {cfg : Setting R}

theorem derives_of_repeatUpTo {e : Expr R} {step : State R → Option (Bool × State R)}
    (hstep : ∀ s b t, step s = some (b, t) → ∃ h, Derives cfg (.expr e s b t) h)
    {n : Nat} {s t : State R}
    (hr : repeatUpTo (fun u => (step u).map (restoreOnFailure u.pos)) n s = some t) :
    ∃ h, Derives cfg (.loop e s t) h := by
  induction n generalizing s with
  | zero => simp [repeatUpTo] at hr
  | succ n ih =>
    cases hs : step s with
    | none => simp [repeatUpTo, hs] at hr
    | some answer =>
      obtain ⟨b, u⟩ := answer
      obtain ⟨h₁, hu⟩ := hstep s b u hs
      cases b with
      | false =>
        simp only [repeatUpTo, hs, Option.map_some, restoreOnFailure, Bool.false_and,
          Bool.false_eq_true, ↓reduceIte, Option.some.injEq] at hr
        exact ⟨h₁, hr ▸ .loop_miss hu⟩
      | true =>
        simp only [repeatUpTo, hs, Option.map_some, restoreOnFailure, Bool.true_and,
          bne_iff_ne] at hr
        by_cases hpos : u.pos = s.pos
        · rw [if_neg (not_not_intro hpos)] at hr
          obtain rfl := Option.some.inj hr
          exact ⟨h₁, .loop_still hu hpos⟩
        · rw [if_pos hpos] at hr
          obtain ⟨h₂, ht⟩ := ih hr
          exact ⟨h₁ ++ h₂, .loop_next hu hpos ht⟩

/-- Evaluating an expression is derivable if applying a rule is. -/
theorem Expr.derives_of_eval {call : R → State R → Option (Bool × State R)}
    (hcall : ∀ r s b t, call r s = some (b, t) → ∃ o h, o.matched = b ∧ Derives cfg (.rule r s o t) h)
    {e : Expr R} {s t : State R} {b : Bool} (he : e.eval cfg.input call s = some (b, t)) :
    ∃ h, Derives cfg (.expr e s b t) h := by
  induction e generalizing s t b with
  | succeed =>
    cases he
    exact ⟨[], .succeed⟩
  | fail =>
    cases he
    exact ⟨[], .fail⟩
  | byte c => exact ⟨[], .byte (Option.some.inj he)⟩
  | run c => exact ⟨[], .run (Option.some.inj he)⟩
  | literal bytes => exact ⟨[], .literal (Option.some.inj he)⟩
  | apply r =>
    obtain ⟨o, h, hb, hr⟩ := hcall r s b t he
    exact ⟨h, .apply hr hb⟩
  | andThen e₁ e₂ ih₁ ih₂ =>
    rw [Expr.eval] at he
    split at he
    · next u hu =>
      obtain ⟨h₁, h₁d⟩ := ih₁ hu
      obtain ⟨h₂, h₂d⟩ := ih₂ he
      exact ⟨h₁ ++ h₂, .andThen h₁d h₂d⟩
    · next hne =>
      cases b with
      | true => exact absurd he (hne t)
      | false =>
        obtain ⟨h, hd⟩ := ih₁ he
        exact ⟨h, .andThen_miss hd⟩
  | orElse e₁ e₂ ih₁ ih₂ =>
    rw [Expr.eval] at he
    split at he
    · next u hu =>
      obtain ⟨h₁, h₁d⟩ := ih₁ hu
      obtain ⟨h₂, h₂d⟩ := ih₂ he
      exact ⟨h₁ ++ h₂, .orElse_next h₁d h₂d⟩
    · next hne =>
      cases b with
      | false => exact absurd he (hne t)
      | true =>
        obtain ⟨h, hd⟩ := ih₁ he
        exact ⟨h, .orElse hd⟩
  | attempt e ih =>
    obtain ⟨⟨c, u⟩, hu, heq⟩ := Option.map_eq_some_iff.mp he
    obtain ⟨h, hd⟩ := ih hu
    cases c <;> cases heq
    · exact ⟨h, .attempt_miss hd⟩
    · exact ⟨h, .attempt hd⟩
  | many e ih =>
    obtain ⟨u, hu, heq⟩ := Option.map_eq_some_iff.mp he
    cases heq
    obtain ⟨h, hd⟩ := derives_of_repeatUpTo (fun _ _ _ => ih) hu
    exact ⟨h, .many hd⟩
  | notAhead e ih =>
    obtain ⟨⟨c, u⟩, hu, heq⟩ := Option.map_eq_some_iff.mp he
    obtain ⟨h, hd⟩ := ih hu
    cases c <;> cases heq
    · exact ⟨h, .notAhead_miss hd⟩
    · exact ⟨h, .notAhead hd⟩
  | ahead e ih =>
    obtain ⟨⟨c, u⟩, hu, heq⟩ := Option.map_eq_some_iff.mp he
    obtain ⟨h, hd⟩ := ih hu
    cases heq
    exact ⟨h, .ahead hd⟩
  | capture e ih =>
    obtain ⟨⟨c, u⟩, hu, heq⟩ := Option.map_eq_some_iff.mp he
    obtain ⟨h, hd⟩ := ih hu
    cases c <;> cases heq
    · exact ⟨h, .capture_miss hd⟩
    · exact ⟨h, .capture hd⟩
  | check e policy ih =>
    obtain ⟨⟨c, u⟩, hu, heq⟩ := Option.map_eq_some_iff.mp he
    obtain ⟨h, hd⟩ := ih hu
    cases c with
    | false =>
      cases heq
      exact ⟨h, .check_miss hd⟩
    | true =>
      generalize ha : askPolicy cfg.input policy ⟨s.pos, u.pos⟩ u = answer at heq
      obtain ⟨a, v⟩ := answer
      simp only [↓reduceIte, ha] at heq
      cases a <;> cases heq
      · exact ⟨h, .check_refused hd ha⟩
      · exact ⟨h, .check hd ha⟩
  | inspect r pos =>
    cases he
    exact ⟨[], .inspect⟩

theorem derives_of_evaluateBody {call : R → State R → Option (Bool × State R)}
    (hcall : ∀ r s b t, call r s = some (b, t) → ∃ o h, o.matched = b ∧ Derives cfg (.rule r s o t) h)
    {r : R} {start : Nat} {s t : State R} {o : Outcome} (hs : s.pos = start)
    (he : cfg.evaluateBody call r start s = some (o, t)) : ∃ h, Derives cfg (.body r s o t) h := by
  subst hs
  rw [Setting.evaluateBody] at he
  split at he
  · cases he
  · next b u hu =>
    obtain ⟨h, hd⟩ := Expr.derives_of_eval hcall hu
    cases b <;> cases he
    · exact ⟨_, .body_miss (t := u) hd⟩
    · exact ⟨_, .body (t := u) hd⟩

theorem derives_of_grow {call : R → State R → Option (Bool × State R)}
    (hcall : ∀ r s b t, call r s = some (b, t) → ∃ o h, o.matched = b ∧ Derives cfg (.rule r s o t) h)
    {r : R} {start n : Nat} {best o : Outcome} {s t : State R}
    (hg : Setting.grow (cfg.evaluateBody call r start) r start n best s = some (o, t)) :
    ∃ h, Derives cfg (.growth r start best s o t) h := by
  induction n generalizing best s with
  | zero => cases hg
  | succ n ih =>
    rw [Setting.grow] at hg
    split at hg
    · cases hg
    · next next u hu =>
      obtain ⟨h₁, h₁d⟩ := derives_of_evaluateBody hcall rfl hu
      split at hg
      · next hlt =>
        obtain ⟨h₂, h₂d⟩ := ih hg
        exact ⟨h₁ ++ h₂, .grow h₁d (by simpa using hlt) h₂d⟩
      · next hle =>
        cases hg
        exact ⟨h₁, .grow_stop h₁d (by simpa using hle)⟩

theorem derives_of_immediate? {r : R} {s t : State R} {o : Outcome}
    (hi : cfg.immediate? r s = some (o, t)) : ∃ h, Derives cfg (.rule r s o t) h := by
  rw [Setting.immediate?] at hi
  split at hi
  · next e he =>
    obtain ⟨progress, k⟩ := e
    cases progress <;> cases hi
    · exact ⟨_, .reentered he⟩
    · exact ⟨_, .recalled he⟩
  · next hn =>
    split at hi
    · next hd =>
      cases hi
      exact ⟨_, .refused hn hd⟩
    · cases hi

theorem Setting.immediate?_eq_none {r : R} {s : State R} (hi : cfg.immediate? r s = none) :
    s.memo.get? r s.pos = none ∧ s.depth < cfg.maxDepth := by
  rw [Setting.immediate?] at hi
  split at hi
  · next e he =>
    obtain ⟨progress, k⟩ := e
    cases progress <;> cases hi
  · next hn =>
    split at hi
    · cases hi
    · next hd => exact ⟨hn, Nat.lt_of_not_le hd⟩

/-- How an expression applies a rule with room for `n` bodies: it learns whether the rule matched. -/
def Setting.callWithin (cfg : Setting R) (n : Nat) (r : R) (s : State R) :
    Option (Bool × State R) :=
  (cfg.applyWithin n r s).map fun (o, u) => (o.matched, u)

theorem derives_of_callWithin {n : Nat}
    (ih : ∀ {r : R} {s t : State R} {o : Outcome}, cfg.applyWithin n r s = some (o, t) →
      ∃ h, Derives cfg (.rule r s o t) h) (r : R) (s : State R) (b : Bool) (t : State R)
    (hr : cfg.callWithin n r s = some (b, t)) :
    ∃ o h, o.matched = b ∧ Derives cfg (.rule r s o t) h := by
  obtain ⟨⟨o, u⟩, ho, heq⟩ := Option.map_eq_some_iff.mp hr
  cases heq
  obtain ⟨h, hd⟩ := ih ho
  exact ⟨o, h, rfl, hd⟩

/-- **The evaluator answers what is derivable**, whatever room it is given. -/
theorem Setting.derives_of_applyWithin {n : Nat} {r : R} {s t : State R} {o : Outcome}
    (ha : cfg.applyWithin n r s = some (o, t)) : ∃ h, Derives cfg (.rule r s o t) h := by
  induction n generalizing r s t o with
  | zero => exact derives_of_immediate? ha
  | succ n ih =>
    rw [Setting.applyWithin] at ha
    split at ha
    · next answer hi => exact derives_of_immediate? (hi.trans ha)
    · next hi =>
      obtain ⟨hn, hd⟩ := Setting.immediate?_eq_none hi
      have hcall := derives_of_callWithin ih
      dsimp only at ha
      split at ha
      · cases ha
      · next seed u hu =>
        obtain ⟨h₁, h₁d⟩ := derives_of_evaluateBody hcall rfl hu
        split at ha
        · next hs =>
          obtain ⟨h₂, h₂d⟩ := derives_of_grow hcall ha
          exact ⟨_, .grown hn hd h₁d hs h₂d⟩
        · next hs =>
          cases ha
          exact ⟨_, .settled hn hd h₁d (by simpa using hs)⟩

/-- The way in which an expression applies rules is derivable. -/
theorem Setting.derives_of_call (cfg : Setting R) (n : Nat) (r : R) (s : State R) (b : Bool)
    (t : State R) (hr : cfg.callWithin n r s = some (b, t)) :
    ∃ o h, o.matched = b ∧ Derives cfg (.rule r s o t) h :=
  derives_of_callWithin derives_of_applyWithin r s b t hr

/-! ### A question has one answer -/

/-- Nothing else is derivable for the expression, repetition, body, growth or application that a
judgement is about, nor by another history. -/
def Judgement.Determined (cfg : Setting R) : Judgement R → List (Moment R) → Prop
  | .expr e s b t, h => ∀ b' t' h', Derives cfg (.expr e s b' t') h' → b' = b ∧ t' = t ∧ h' = h
  | .loop e s t, h => ∀ t' h', Derives cfg (.loop e s t') h' → t' = t ∧ h' = h
  | .body r s o t, h => ∀ o' t' h', Derives cfg (.body r s o' t') h' → o' = o ∧ t' = t ∧ h' = h
  | .growth r start best s o t, h =>
    ∀ o' t' h', Derives cfg (.growth r start best s o' t') h' → o' = o ∧ t' = t ∧ h' = h
  | .rule r s o t, h => ∀ o' t' h', Derives cfg (.rule r s o' t') h' → o' = o ∧ t' = t ∧ h' = h

/-- **Derivations are deterministic.** -/
theorem Derives.determined {j : Judgement R} {h : List (Moment R)} (hj : Derives cfg j h) :
    j.Determined cfg h := by
  induction hj with
  | succeed | fail | inspect =>
    intro b' t' h' hd
    cases hd
    exact ⟨rfl, rfl, rfl⟩
  | byte hb =>
    intro b' t' h' hd
    cases hd with
    | byte hb' =>
      cases hb.symm.trans hb'
      exact ⟨rfl, rfl, rfl⟩
  | run hb =>
    intro b' t' h' hd
    cases hd with
    | run hb' =>
      cases hb.symm.trans hb'
      exact ⟨rfl, rfl, rfl⟩
  | literal hb =>
    intro b' t' h' hd
    cases hd with
    | literal hb' =>
      cases hb.symm.trans hb'
      exact ⟨rfl, rfl, rfl⟩
  | apply hr hb ih =>
    intro b' t' h' hd
    cases hd with
    | apply hr' hb' =>
      obtain ⟨rfl, rfl, rfl⟩ := ih _ _ _ hr'
      exact ⟨hb'.symm.trans hb, rfl, rfl⟩
  | andThen he₁ he₂ ih₁ ih₂ =>
    intro b' t' h' hd
    cases hd with
    | andThen he₁' he₂' =>
      obtain ⟨-, rfl, rfl⟩ := ih₁ _ _ _ he₁'
      obtain ⟨rfl, rfl, rfl⟩ := ih₂ _ _ _ he₂'
      exact ⟨rfl, rfl, rfl⟩
    | andThen_miss he₁' => cases (ih₁ _ _ _ he₁').1
  | andThen_miss he₁ ih₁ =>
    intro b' t' h' hd
    cases hd with
    | andThen he₁' he₂' => cases (ih₁ _ _ _ he₁').1
    | andThen_miss he₁' => exact ⟨rfl, (ih₁ _ _ _ he₁').2⟩
  | orElse he₁ ih₁ =>
    intro b' t' h' hd
    cases hd with
    | orElse he₁' => exact ⟨rfl, (ih₁ _ _ _ he₁').2⟩
    | orElse_next he₁' he₂' => cases (ih₁ _ _ _ he₁').1
  | orElse_next he₁ he₂ ih₁ ih₂ =>
    intro b' t' h' hd
    cases hd with
    | orElse he₁' => cases (ih₁ _ _ _ he₁').1
    | orElse_next he₁' he₂' =>
      obtain ⟨-, rfl, rfl⟩ := ih₁ _ _ _ he₁'
      obtain ⟨rfl, rfl, rfl⟩ := ih₂ _ _ _ he₂'
      exact ⟨rfl, rfl, rfl⟩
  | attempt he ih =>
    intro b' t' h' hd
    cases hd with
    | attempt he' => exact ⟨rfl, (ih _ _ _ he').2⟩
    | attempt_miss he' => cases (ih _ _ _ he').1
  | attempt_miss he ih =>
    intro b' t' h' hd
    cases hd with
    | attempt he' => cases (ih _ _ _ he').1
    | attempt_miss he' =>
      obtain ⟨-, rfl, rfl⟩ := ih _ _ _ he'
      exact ⟨rfl, rfl, rfl⟩
  | many hl ih =>
    intro b' t' h' hd
    cases hd with
    | many hl' => exact ⟨rfl, ih _ _ hl'⟩
  | notAhead he ih =>
    intro b' t' h' hd
    cases hd with
    | notAhead he' =>
      obtain ⟨-, rfl, rfl⟩ := ih _ _ _ he'
      exact ⟨rfl, rfl, rfl⟩
    | notAhead_miss he' => cases (ih _ _ _ he').1
  | notAhead_miss he ih =>
    intro b' t' h' hd
    cases hd with
    | notAhead he' => cases (ih _ _ _ he').1
    | notAhead_miss he' =>
      obtain ⟨-, rfl, rfl⟩ := ih _ _ _ he'
      exact ⟨rfl, rfl, rfl⟩
  | ahead he ih =>
    intro b' t' h' hd
    cases hd with
    | ahead he' =>
      obtain ⟨rfl, rfl, rfl⟩ := ih _ _ _ he'
      exact ⟨rfl, rfl, rfl⟩
  | capture he ih =>
    intro b' t' h' hd
    cases hd with
    | capture he' =>
      obtain ⟨-, rfl, rfl⟩ := ih _ _ _ he'
      exact ⟨rfl, rfl, rfl⟩
    | capture_miss he' => cases (ih _ _ _ he').1
  | capture_miss he ih =>
    intro b' t' h' hd
    cases hd with
    | capture he' => cases (ih _ _ _ he').1
    | capture_miss he' =>
      obtain ⟨-, rfl, rfl⟩ := ih _ _ _ he'
      exact ⟨rfl, rfl, rfl⟩
  | check he hp ih =>
    intro b' t' h' hd
    cases hd with
    | check he' hp' =>
      obtain ⟨-, rfl, rfl⟩ := ih _ _ _ he'
      cases hp.symm.trans hp'
      exact ⟨rfl, rfl, rfl⟩
    | check_refused he' hp' =>
      obtain ⟨-, rfl, rfl⟩ := ih _ _ _ he'
      cases hp.symm.trans hp'
    | check_miss he' => cases (ih _ _ _ he').1
  | check_refused he hp ih =>
    intro b' t' h' hd
    cases hd with
    | check he' hp' =>
      obtain ⟨-, rfl, rfl⟩ := ih _ _ _ he'
      cases hp.symm.trans hp'
    | check_refused he' hp' =>
      obtain ⟨-, rfl, rfl⟩ := ih _ _ _ he'
      cases hp.symm.trans hp'
      exact ⟨rfl, rfl, rfl⟩
    | check_miss he' => cases (ih _ _ _ he').1
  | check_miss he ih =>
    intro b' t' h' hd
    cases hd with
    | check he' | check_refused he' => cases (ih _ _ _ he').1
    | check_miss he' =>
      obtain ⟨-, rfl, rfl⟩ := ih _ _ _ he'
      exact ⟨rfl, rfl, rfl⟩
  | loop_miss he ih =>
    intro t' h' hd
    cases hd with
    | loop_miss he' =>
      obtain ⟨-, rfl, rfl⟩ := ih _ _ _ he'
      exact ⟨rfl, rfl⟩
    | loop_still he' | loop_next he' => cases (ih _ _ _ he').1
  | loop_still he hpos ih =>
    intro t' h' hd
    cases hd with
    | loop_miss he' => cases (ih _ _ _ he').1
    | loop_still he' => exact (ih _ _ _ he').2
    | loop_next he' hpos' =>
      obtain ⟨-, rfl, rfl⟩ := ih _ _ _ he'
      exact absurd hpos hpos'
  | loop_next he hpos hl ih₁ ih₂ =>
    intro t' h' hd
    cases hd with
    | loop_miss he' => cases (ih₁ _ _ _ he').1
    | loop_still he' hpos' =>
      obtain ⟨-, rfl, rfl⟩ := ih₁ _ _ _ he'
      exact absurd hpos' hpos
    | loop_next he' hpos' hl' =>
      obtain ⟨-, rfl, rfl⟩ := ih₁ _ _ _ he'
      obtain ⟨rfl, rfl⟩ := ih₂ _ _ hl'
      exact ⟨rfl, rfl⟩
  | body he ih =>
    intro o' t' h' hd
    cases hd with
    | body he' =>
      obtain ⟨-, rfl, rfl⟩ := ih _ _ _ he'
      exact ⟨rfl, rfl, rfl⟩
    | body_miss he' => cases (ih _ _ _ he').1
  | body_miss he ih =>
    intro o' t' h' hd
    cases hd with
    | body he' => cases (ih _ _ _ he').1
    | body_miss he' =>
      obtain ⟨-, rfl, rfl⟩ := ih _ _ _ he'
      exact ⟨rfl, rfl, rfl⟩
  | grow hb hlt hg ih₁ ih₂ =>
    intro o' t' h' hd
    cases hd with
    | grow hb' hlt' hg' =>
      obtain ⟨rfl, rfl, rfl⟩ := ih₁ _ _ _ hb'
      obtain ⟨rfl, rfl, rfl⟩ := ih₂ _ _ _ hg'
      exact ⟨rfl, rfl, rfl⟩
    | grow_stop hb' hle' =>
      obtain ⟨rfl, rfl, rfl⟩ := ih₁ _ _ _ hb'
      exact absurd hlt hle'
  | grow_stop hb hle ih =>
    intro o' t' h' hd
    cases hd with
    | grow hb' hlt' hg' =>
      obtain ⟨rfl, rfl, rfl⟩ := ih _ _ _ hb'
      exact absurd hlt' hle
    | grow_stop hb' hle' =>
      obtain ⟨rfl, rfl, rfl⟩ := ih _ _ _ hb'
      exact ⟨rfl, rfl, rfl⟩
  | recalled he =>
    intro o' t' h' hd
    cases hd with
    | recalled he' =>
      cases he.symm.trans he'
      exact ⟨rfl, rfl, rfl⟩
    | reentered he' => cases he.symm.trans he'
    | refused hn' | settled hn' | grown hn' => cases he.symm.trans hn'
  | reentered he =>
    intro o' t' h' hd
    cases hd with
    | recalled he' => cases he.symm.trans he'
    | reentered he' => exact ⟨rfl, rfl, rfl⟩
    | refused hn' | settled hn' | grown hn' => cases he.symm.trans hn'
  | refused hn hd =>
    intro o' t' h' hd'
    cases hd' with
    | recalled he' | reentered he' => cases hn.symm.trans he'
    | refused => exact ⟨rfl, rfl, rfl⟩
    | settled hn' hd' | grown hn' hd' => exact absurd hd (Nat.not_le_of_lt hd')
  | settled hn hd hb hg ih =>
    intro o' t' h' hd'
    cases hd' with
    | recalled he' | reentered he' => cases hn.symm.trans he'
    | refused hn' hd' => exact absurd hd' (Nat.not_le_of_lt hd)
    | settled hn' hd' hb' hg' =>
      obtain ⟨rfl, rfl, rfl⟩ := ih _ _ _ hb'
      exact ⟨rfl, rfl, rfl⟩
    | grown hn' hd' hb' hs' hg' =>
      obtain ⟨rfl, rfl, rfl⟩ := ih _ _ _ hb'
      cases hg.symm.trans hs'
  | grown hn hd hb hs hg ih₁ ih₂ =>
    intro o' t' h' hd'
    cases hd' with
    | recalled he' | reentered he' => cases hn.symm.trans he'
    | refused hn' hd' => exact absurd hd' (Nat.not_le_of_lt hd)
    | settled hn' hd' hb' hg' =>
      obtain ⟨rfl, rfl, rfl⟩ := ih₁ _ _ _ hb'
      cases hs.symm.trans hg'
    | grown hn' hd' hb' hs' hg' =>
      obtain ⟨rfl, rfl, rfl⟩ := ih₁ _ _ _ hb'
      obtain ⟨rfl, rfl, rfl⟩ := ih₂ _ _ _ hg'
      exact ⟨rfl, rfl, rfl⟩

end AddressGrammar.Peg
