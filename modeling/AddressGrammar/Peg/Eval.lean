import AddressGrammar.Peg.Grammar
import AddressGrammar.Peg.State

/-!
# Evaluating expressions and applying rules

Evaluation has two layers. `Expr.eval` runs an expression and is told how to apply a rule; it is a
recursion on the expression. `Setting.applyWithin` applies a rule and evaluates its body by the
first layer; it is a recursion on the number of rule bodies that may still be opened inside one
another.

An application is answered from the table where the table has an answer. A rule that asks for itself
at the same position while its body is being evaluated fails there. If it did so and its body
matched anyway, the match is a seed: the body is evaluated again and again with the best match so
far in the table, as long as the match becomes longer. That resolves the left recursion of a rule
that begins with itself. A rule that asks for itself by way of another one stays with its seed: the
other one has failed meanwhile, and its failure stays in the table.

Both layers answer `none` only if a repetition, a growth or a nesting of bodies takes more steps
than the input and the grammar leave room for. A repetition moves forward with every step, so it
makes at most as many as there are bytes left; growth likewise. No rule body is opened twice inside
itself at one position, so at most `Setting.nestingRoom` bodies are open at a time.

## Main definitions

* `repeatUpTo` — greedy repetition
* `Expr.eval` — an expression, given the meaning of rule applications
* `Setting` — what stays the same during a run
* `Setting.immediate?` — the answers that need no body
* `Setting.evaluateBody`, `Setting.grow` — a body, and a body as often as its match grows
* `Setting.applyWithin`, `Setting.nestingRoom` — rule application
-/

namespace AddressGrammar.Peg

open Text

variable {R : Type} [DecidableEq R]

/-- Repeats an attempt at most `n` times, until it fails or does not move. -/
def repeatUpTo (attempt : State R → Option (Bool × State R)) :
    Nat → State R → Option (State R)
  | 0, _ => none
  | n + 1, s =>
    match attempt s with
    | none => none
    | some (matched, t) =>
      if matched && t.pos != s.pos then repeatUpTo attempt n t else some t

/-- Puts the position back after a failure. -/
def restoreOnFailure (pos : Nat) : Bool × State R → Bool × State R
  | (true, s) => (true, s)
  | (false, s) => (false, s.moveTo pos)

/-- Asks a policy about the text of a span. A span that splits a character is refused without
asking. -/
def askPolicy (input : String) (policy : Policy) (span : Span) (s : State R) : Bool × State R :=
  match slice? input span.start span.stop with
  | some text =>
    let s := s.report (.asked policy.name text (policy.accepts text))
    if policy.accepts text then (true, s) else (false, s.miss)
  | none => (false, s.miss)

/-- Evaluates an expression over an input. The second argument applies a rule. -/
def Expr.eval (input : String) (call : R → State R → Option (Bool × State R)) :
    Expr R → State R → Option (Bool × State R)
  | succeed, s => some (true, s)
  | fail, s => some (false, s)
  | byte c, s => some (s.takeByte input c)
  | run c, s => some (s.takeRun input c)
  | literal bytes, s => some (s.takeLiteral input bytes)
  | apply r, s => call r s
  | andThen e₁ e₂, s =>
    match e₁.eval input call s with
    | some (true, t) => e₂.eval input call t
    | other => other
  | orElse e₁ e₂, s =>
    match e₁.eval input call s with
    | some (false, t) => e₂.eval input call t
    | other => other
  | attempt e, s => (e.eval input call s).map (restoreOnFailure s.pos)
  | many e, s =>
    (repeatUpTo (fun t => (e.eval input call t).map (restoreOnFailure t.pos))
      (input.utf8ByteSize + 1 - s.pos) s).map fun t => (true, t)
  | notAhead e, s =>
    (e.eval input call s).map fun (matched, t) =>
      let t := t.moveTo s.pos
      if matched then (false, t.miss) else (true, t)
  | ahead e, s => (e.eval input call s).map fun (matched, t) => (matched, t.moveTo s.pos)
  | capture e, s =>
    (e.eval input call s).map fun (matched, t) =>
      if matched then
        (true, t.report (.captured ⟨s.pos, t.pos⟩ (slice? input s.pos t.pos)))
      else (false, t.moveTo s.pos)
  | check e policy, s =>
    (e.eval input call s).map fun (matched, t) =>
      if matched then restoreOnFailure s.pos (askPolicy input policy ⟨s.pos, t.pos⟩ t)
      else (false, t.moveTo s.pos)
  | inspect r pos, s => some (true, s.report (.inspected r pos (s.memo.get? r pos)))

/-- What stays the same during a run. -/
structure Setting (R : Type) where
  /-- The grammar. -/
  grammar : Grammar R
  /-- The text being recognized. -/
  input : String
  /-- How many rule bodies may be open inside one another. -/
  maxDepth : Nat

namespace Setting

/-- The length of the input in bytes. -/
def length (cfg : Setting R) : Nat := cfg.input.utf8ByteSize

/-- The most rule bodies that can be open at a time: one per rule and position. -/
def nestingRoom (cfg : Setting R) : Nat := cfg.grammar.rules.length * (cfg.length + 1)

/-- The answer of a rule application that needs no body to be evaluated: a remembered outcome, a
failure of a rule that is being evaluated at the same position, or a failure at the bound on
nesting. -/
def immediate? (cfg : Setting R) (r : R) (s : State R) : Option (Outcome × State R) :=
  match s.memo.get? r s.pos with
  | some e =>
    let s := { s with memo := s.memo.visit r s.pos }
    match e.progress with
    | .inProgress _ =>
      some (.missed s.pos, { s with memo := s.memo.reenter r s.pos }.record r s.pos)
    | .done o => some (o, s.moveTo o.stop)
  | none =>
    if cfg.maxDepth ≤ s.depth then
      some (.missed s.pos, { s with exhausted := true }.record r s.pos)
    else none

/-- Evaluates the body of a rule at a position. -/
def evaluateBody (cfg : Setting R) (call : R → State R → Option (Bool × State R))
    (r : R) (start : Nat) (s : State R) : Option (Outcome × State R) :=
  match (cfg.grammar.body r).eval cfg.input call { s with active := s.active.push r start } with
  | none => none
  | some (matched, t) =>
    let t := { t with active := s.active }
    if matched then some (.hit start t.pos, t)
    else some (.missed start, (t.moveTo start).record r start)

/-- Evaluates a body at most `n` times as long as its match becomes longer, and ends with the
longest one. -/
def grow (evaluate : State R → Option (Outcome × State R)) (r : R) (start : Nat) :
    Nat → Outcome → State R → Option (Outcome × State R)
  | 0, _, _ => none
  | n + 1, best, s =>
    match evaluate (s.moveTo start) with
    | none => none
    | some (next, t) =>
      if next.matched && decide (best.stop < next.stop) then
        grow evaluate r start n next { t with memo := t.memo.finish r start next }
      else some (best, t.moveTo best.stop)

/-- Applies a rule with room for `n` more rule bodies inside one another. -/
def applyWithin (cfg : Setting R) : Nat → R → State R → Option (Outcome × State R)
  | 0, r, s => cfg.immediate? r s
  | n + 1, r, s =>
    match cfg.immediate? r s with
    | some answer => some answer
    | none =>
      let call q t := (applyWithin cfg n q t).map fun (o, u) => (o.matched, u)
      let evaluate := cfg.evaluateBody call r s.pos
      match evaluate { s with memo := s.memo.begin r s.pos } with
      | none => none
      | some (seed, t) =>
        let reentered := t.memo.isReentered r s.pos
        let t := { t with memo := t.memo.finish r s.pos seed }
        if seed.matched && reentered then
          grow evaluate r s.pos (cfg.length + 1 - seed.stop) seed t
        else some (seed, t)

end Setting

end AddressGrammar.Peg
