import AddressGrammar.Proofs.Peg.Moves

/-!
# Failures put the position back

An expression that fails may leave the position anywhere behind the place where it began: a chain
stops in the middle, and so may the body of a rule. What the grammars are written with puts it back.
For the combinators that is a matter of each of them alone, whatever its body does, so it is said of
arbitrary meanings of rule applications: since an application is an expression, that makes a body
anything that turns one state into another.

For rule applications it is not. A failure may come from the table, so it has to have been remembered
with the position at which it began; a growth goes back and forth; and an application in the middle of
a rule body finds entries that are not finished. The invariant of a run says that all of these fit,
and it holds in every state that a run comes to.

## Main definitions

* `Setting.Visits` — the states that a run comes to, inside rule bodies as well
* `Expr.RestoresOnFailure`, `Expr.Stays` — what happens to the position
* `RestoresPosition` — what happens to it under each combinator

## Main results

* `Setting.Visits.valid`, `Setting.Visits.stores` — the invariant holds in all of these states, and so
  does whatever evaluations maintain
* `failure_restores_position` — every failure puts the position back
-/

namespace AddressGrammar.Peg

variable {R : Type}

theorem pos_of_restoreOnFailure {p : Nat} {answer : Bool × State R} {t : State R}
    (h : restoreOnFailure p answer = (false, t)) : t.pos = p := by
  obtain ⟨b, u⟩ := answer
  cases b with
  | true => simp [restoreOnFailure] at h
  | false =>
    obtain rfl := by simpa [restoreOnFailure] using h
    rfl

theorem pos_askPolicy {input : String} {policy : Policy} {span : Span} {s t : State R} {b : Bool}
    (h : askPolicy input policy span s = (b, t)) : t.pos = s.pos := by
  obtain ⟨-, e, rfl⟩ | ⟨-, u, rfl, rfl | ⟨e, rfl⟩⟩ := askPolicy_eq h
  · rfl
  · exact State.pos_miss _
  · exact State.pos_miss _

variable [DecidableEq R]

/-! ### The states that a run comes to -/

/-- The states that a run comes to: between its moves, where the body of a rule is begun during an
application, and behind any expression that is evaluated in such a state. -/
inductive Setting.Visits (cfg : Setting R) : State R → Prop where
  | resting {moves : List (Move R)} (hin : ∀ m ∈ moves, m.Inside cfg.length) :
      Visits cfg ((Run.mk cfg .initial).moves moves).state
  | opened {s q o t h r u} (hs : Visits cfg s) (hd : Derives cfg (.rule q s o t) h)
      (hm : .opened r u ∈ h) : Visits cfg u
  | behind {s e b t} (hs : Visits cfg s)
      (he : Expr.eval cfg.input (cfg.callWithin cfg.nestingRoom) e s = some (b, t)) : Visits cfg t

variable {cfg : Setting R} {s : State R}

/-- **The invariant holds wherever a run comes.** -/
theorem Setting.Visits.valid (hs : cfg.Visits s) : s.Valid cfg := by
  induction hs with
  | @resting moves hin =>
    obtain ⟨hset, hr⟩ := Run.moves_kept (Run.rests_start cfg.grammar cfg.input cfg.maxDepth) hin
    have hv := hr.valid
    rwa [hset] at hv
  | @opened s q o t h r u _ hd hm ih =>
    exact (hd.nests ih).valid _ hm u (List.mem_singleton_self u)
  | behind _ he ih =>
    obtain ⟨h, hd⟩ := Expr.derives_of_eval (cfg.derives_of_call cfg.nestingRoom) he
    exact (hd.sound ih).valid

/-- **What evaluations maintain holds wherever a run comes.** -/
theorem Setting.Visits.stores {P : R → Nat → Bool → Nat → Prop} (hs : cfg.Visits s)
    (hc : cfg.Maintains P) : s.Stores P := by
  induction hs with
  | @resting moves hin =>
    have hr := Run.rests_start cfg.grammar cfg.input cfg.maxDepth
    obtain ⟨h, ht⟩ := hr.exists_trace hin
    exact (ht.maintains hr hin hc (.initial 0)).1
  | @opened s q o t h r u _ hd hm ih => exact (hd.maintains hc ih).2.1 _ hm
  | behind _ he ih =>
    obtain ⟨h, hd⟩ := Expr.derives_of_eval (cfg.derives_of_call cfg.nestingRoom) he
    exact (hd.maintains hc ih).1

/-! ### Combinators and primitives -/

section

variable (input : String) (call : R → State R → Option (Bool × State R))

/-- If the expression fails, the position is where it was. -/
def Expr.RestoresOnFailure (e : Expr R) (s : State R) : Prop :=
  ∀ t, e.eval input call s = some (false, t) → t.pos = s.pos

/-- Whatever the expression answers, the position is where it was. -/
def Expr.Stays (e : Expr R) (s : State R) : Prop :=
  ∀ b t, e.eval input call s = some (b, t) → t.pos = s.pos

/-- The expression does not fail. -/
def Expr.NeverFails (e : Expr R) (s : State R) : Prop :=
  ∀ t, e.eval input call s ≠ some (false, t)

/-- What combinators and primitives do to the position of a state, given what rules do. -/
structure RestoresPosition (s : State R) : Prop where
  attempt (e : Expr R) : e.attempt.RestoresOnFailure input call s
  seq (es : List (Expr R)) : (Expr.seq es).RestoresOnFailure input call s
  opt (e : Expr R) : e.opt.NeverFails input call s
  many (e : Expr R) : e.many.NeverFails input call s
  many1 (e : Expr R) : e.many1.RestoresOnFailure input call s
  /-- A repetition with at least one match fails only if its first iteration does. -/
  first (e : Expr R) (t : State R) (h : e.many1.eval input call s = some (false, t)) :
    ∃ u, e.eval input call s = some (false, u)
  notAhead (e : Expr R) : e.notAhead.Stays input call s
  ahead (e : Expr R) : e.ahead.Stays input call s
  capture (e : Expr R) : e.capture.RestoresOnFailure input call s
  check (e : Expr R) (policy : Policy) : (e.check policy).RestoresOnFailure input call s
  /-- The question to a policy by itself, about any span. -/
  askPolicy (policy : Policy) (span : Span) : (askPolicy input policy span s).2.pos = s.pos
  byte (c : Text.ByteClass) : (Expr.byte c).RestoresOnFailure input call s
  run (c : Text.ByteClass) : (Expr.run c).RestoresOnFailure input call s
  literal (bytes : List UInt8) : (Expr.literal bytes).RestoresOnFailure input call s
  anyByte : Expr.anyByte.RestoresOnFailure input call s
  atEnd : Expr.atEnd.Stays input call s

variable {input call} {e : Expr R} {t : State R}

namespace Expr

/-- A primitive that fails does not move. -/
theorem restores_of_reads {length : Nat}
    (h : ∀ b t, e.eval input call s = some (b, t) → s.Reads length b t) :
    e.RestoresOnFailure input call s := by
  intro t ht
  obtain ⟨hb, -⟩ | ⟨-, rfl⟩ := h false t ht
  · cases hb
  · exact State.pos_miss s

theorem restores_byte (c : Text.ByteClass) : (byte c).RestoresOnFailure input call s :=
  restores_of_reads fun _ _ h => State.reads_takeByte (Option.some.inj h)

theorem restores_run (c : Text.ByteClass) : (run c).RestoresOnFailure input call s :=
  restores_of_reads fun _ _ h => State.reads_takeRun (Option.some.inj h)

theorem restores_literal (bytes : List UInt8) : (literal bytes).RestoresOnFailure input call s :=
  restores_of_reads fun _ _ h => State.reads_takeLiteral (Option.some.inj h)

theorem restores_attempt (e : Expr R) : e.attempt.RestoresOnFailure input call s := by
  intro t h
  obtain ⟨answer, -, hanswer⟩ := Option.map_eq_some_iff.mp h
  exact pos_of_restoreOnFailure hanswer

theorem restores_capture (e : Expr R) : e.capture.RestoresOnFailure input call s := by
  intro t h
  obtain ⟨⟨matched, u⟩, -, hanswer⟩ := Option.map_eq_some_iff.mp h
  cases matched with
  | true => simp at hanswer
  | false =>
    obtain rfl := by simpa using hanswer
    rfl

theorem restores_check (e : Expr R) (policy : Policy) :
    (e.check policy).RestoresOnFailure input call s := by
  intro t h
  obtain ⟨⟨matched, u⟩, -, hanswer⟩ := Option.map_eq_some_iff.mp h
  cases matched with
  | true => exact pos_of_restoreOnFailure (by simpa using hanswer)
  | false =>
    obtain rfl := by simpa using hanswer
    rfl

theorem stays_ahead (e : Expr R) : e.ahead.Stays input call s := by
  intro b t h
  obtain ⟨⟨matched, u⟩, -, hanswer⟩ := Option.map_eq_some_iff.mp h
  obtain ⟨-, rfl⟩ := by simpa using hanswer
  rfl

theorem stays_notAhead (e : Expr R) : e.notAhead.Stays input call s := by
  intro b t h
  obtain ⟨⟨matched, u⟩, -, hanswer⟩ := Option.map_eq_some_iff.mp h
  cases matched with
  | true =>
    obtain ⟨-, rfl⟩ := by simpa using hanswer
    exact State.pos_miss _
  | false =>
    obtain ⟨-, rfl⟩ := by simpa using hanswer
    rfl

theorem neverFails_opt (e : Expr R) : e.opt.NeverFails input call s := by
  intro t h
  rw [opt, eval] at h
  split at h
  · simp [eval] at h
  · next hother => exact hother t h

theorem neverFails_many (e : Expr R) : e.many.NeverFails input call s := by
  intro t h
  obtain ⟨u, -, hanswer⟩ := Option.map_eq_some_iff.mp h
  simp at hanswer

/-- A repetition with at least one match fails only by its first iteration. -/
theorem eval_attempt_of_many1 (h : e.many1.eval input call s = some (false, t)) :
    e.attempt.eval input call s = some (false, t) := by
  rw [many1, eval] at h
  split at h
  · exact absurd h (neverFails_many e t)
  · exact h

theorem exists_eval_of_many1 (h : e.many1.eval input call s = some (false, t)) :
    ∃ u, e.eval input call s = some (false, u) := by
  obtain ⟨⟨b, u⟩, he, hanswer⟩ := Option.map_eq_some_iff.mp (eval_attempt_of_many1 h)
  cases b with
  | true => simp [restoreOnFailure] at hanswer
  | false => exact ⟨u, he⟩

end Expr

/-- **Combinators put the position back**, whatever their bodies do. -/
theorem restoresPosition (input : String) (call : R → State R → Option (Bool × State R))
    (s : State R) : RestoresPosition input call s where
  attempt := Expr.restores_attempt
  seq es := Expr.restores_attempt (Expr.chain es)
  opt := Expr.neverFails_opt
  many := Expr.neverFails_many
  many1 e t h := Expr.restores_attempt e t (Expr.eval_attempt_of_many1 h)
  first _ _ h := Expr.exists_eval_of_many1 h
  notAhead := Expr.stays_notAhead
  ahead := Expr.stays_ahead
  capture := Expr.restores_capture
  check := Expr.restores_check
  askPolicy _ _ := pos_askPolicy rfl
  byte := Expr.restores_byte
  run := Expr.restores_run
  literal := Expr.restores_literal
  anyByte := Expr.restores_byte _
  atEnd := Expr.stays_notAhead _

end

/-! ### Rule applications -/

/-- **An application that fails puts the position back**, whether its rule is remembered, refused,
entered again or grown. -/
theorem Setting.Visits.exists_applyWithin (hs : cfg.Visits s) (r : R) :
    ∃ o t, cfg.applyWithin cfg.nestingRoom r s = some (o, t) ∧ t.pos = o.stop ∧
      (o.matched = false → o.stop = s.pos) := by
  obtain ⟨o, t, ht⟩ := Setting.exists_applyWithin r hs.valid (Nat.le_add_right _ _)
  obtain ⟨h, hd⟩ := Setting.derives_of_applyWithin ht
  obtain ⟨-, hfits, hpos⟩ := hd.sound hs.valid
  exact ⟨o, t, ht, hpos, fun hm => (hfits.of_missed hm).1⟩

theorem Setting.Visits.restores_apply (hs : cfg.Visits s) (r : R) :
    (Expr.apply r).RestoresOnFailure cfg.input (cfg.callWithin cfg.nestingRoom) s := by
  intro t h
  obtain ⟨o, u, hu, hpos, hstop⟩ := hs.exists_applyWithin r
  rw [Expr.eval, Setting.callWithin, hu] at h
  obtain ⟨hm, rfl⟩ := by simpa using h
  exact hpos.trans (hstop hm)

/-- A choice among rules tries each of them at the same position. -/
theorem Setting.Visits.restores_choice (hs : cfg.Visits s) (rules : List R) :
    (Expr.choice rules).RestoresOnFailure cfg.input (cfg.callWithin cfg.nestingRoom) s := by
  induction rules generalizing s with
  | nil =>
    intro t h
    obtain rfl : s = t := by simpa [Expr.choice, Expr.alt, Expr.eval] using h
    rfl
  | cons r rules ih =>
    cases rules with
    | nil => exact hs.restores_apply r
    | cons q rules =>
      intro t h
      change (Expr.orElse (.apply r) (Expr.choice (q :: rules))).eval _ _ s = _ at h
      rw [Expr.eval] at h
      split at h
      · next u hu =>
        have hback := hs.restores_apply r u hu
        exact (ih (hs.behind hu) t h).trans hback
      · next hother => exact absurd h (hother t)

/-- **Every failure puts the position back.** In every state that a run comes to, inside rule bodies
as well, every expression has an answer, and a rule or a choice among rules that fails leaves the
position where it was. So does every other combinator and primitive, in any state and whatever rules
and bodies do. Lookaheads, questions to a policy and the end of the input leave it there on success
as well; optional expressions and repetitions do not fail; and a repetition with at least one match
fails only if its first iteration does. -/
theorem failure_restores_position :
    (∀ (cfg : Setting R) (s : State R), cfg.Visits s →
      (∀ e : Expr R, ∃ b t,
        e.eval cfg.input (cfg.callWithin cfg.nestingRoom) s = some (b, t)) ∧
      (∀ r, ∃ o t, cfg.applyWithin cfg.nestingRoom r s = some (o, t) ∧ t.pos = o.stop ∧
        (o.matched = false → o.stop = s.pos)) ∧
      ∀ rules, (Expr.choice rules).RestoresOnFailure cfg.input
        (cfg.callWithin cfg.nestingRoom) s) ∧
    ∀ (input : String) (call : R → State R → Option (Bool × State R)) (s : State R),
      RestoresPosition input call s := by
  refine ⟨fun cfg s hs => ⟨?_, hs.exists_applyWithin, hs.restores_choice⟩, restoresPosition⟩
  exact fun e => Setting.exists_eval e hs.valid

/-- A chain that has read a byte and failed leaves the position behind it. A rule that is applied
there asks for itself, fails all the same and leaves the position where the chain left it. -/
theorem failure_restores_position_behind_chain :
    ∃ s o t, Setting.Visits ⟨pluses, "1+2", 9⟩ s ∧ s.pos = 1 ∧
      Setting.applyWithin ⟨pluses, "1+2", 9⟩ 4 () s = some (o, t) ∧ o.matched = false ∧ t.pos = 1 := by
  let cfg : Setting Unit := ⟨pluses, "1+2", 9⟩
  let s := ((Run.mk cfg .initial).moves [.make (.eval (.chain [.token '1', .fail]))]).state
  have hs : cfg.Visits s := .resting (by decide)
  have hpos : s.pos = 1 := by decide +kernel
  obtain ⟨o, t, ht, hstop, hback⟩ := (failure_restores_position.1 cfg s hs).2.1 ()
  have hfails : (cfg.applyWithin cfg.nestingRoom () s).map (·.1.matched) = some false := by
    decide +kernel
  have hm : o.matched = false := by simpa [ht] using hfails
  exact ⟨s, o, t, hs, hpos, ht, hm, hstop.trans ((hback hm).trans hpos)⟩

end AddressGrammar.Peg
