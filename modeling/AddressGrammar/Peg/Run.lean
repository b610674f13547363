import AddressGrammar.Peg.Eval
import AddressGrammar.Text.Cursor

/-!
# Runs

A run is a grammar at work on one input: a setting and a state. It is driven step by step from
outside every rule, and all that it has learned carries over from step to step: the position, the
table, the farthest failure and whether the bound on nesting was hit. Nothing of it is shared with
other runs.

## Main definitions

* `Run`, `Run.start` — a run, and the one at the beginning of its input
* `Run.apply`, `Run.eval`, `Run.parse` — applying a rule, evaluating an expression, and parsing,
  which does not succeed once the bound was hit
* `Step`, `Report`, `Run.step`, `Run.steps` — driving a run by a list of steps
* `Run.memoEntries`, `Run.describe` — looking into a run
-/

namespace AddressGrammar.Peg

open Text

/-- A grammar at work on an input. -/
structure Run (R : Type) where
  /-- What stays the same. -/
  setting : Setting R
  /-- What changes. -/
  state : State R

/-- How many rule bodies may be open inside one another unless something else is asked for. -/
def defaultMaxDepth : Nat := 256

/-- One step of a run. -/
inductive Step (R : Type) where
  /-- Parse the root rule. -/
  | root
  /-- Parse a rule. -/
  | parse (r : R)
  /-- Apply a rule and report all of its outcome. -/
  | result (r : R)
  /-- Evaluate an expression outside every rule. -/
  | eval (e : Expr R)

/-- What a step answers. -/
structure Report (R : Type) where
  /-- Whether the step matched. -/
  matched : Bool
  /-- The outcome, of a step that asks for it. -/
  outcome? : Option Outcome
  /-- What was reported during the step, in order. -/
  events : List (Event R)

namespace Run

variable {R : Type} [DecidableEq R]

/-- A run of a grammar from the beginning of an input. -/
def start (grammar : Grammar R) (input : String) (maxDepth : Nat) : Run R :=
  ⟨⟨grammar, input, maxDepth⟩, .initial⟩

/-- The reading position. -/
def pos (run : Run R) : Nat := run.state.pos

/-- Whether nothing is left to read. -/
def atEnd (run : Run R) : Bool := (byteAt? run.setting.input run.pos).isNone

/-- The farthest failure so far. -/
def failure (run : Run R) : FarthestFailure R := run.state.failure

/-- Whether the bound on nesting was hit. -/
def isExhausted (run : Run R) : Bool := run.state.exhausted

/-- Applies a rule at the reading position. There is room for every nesting of rule bodies that can
come about, so the failure that stands in for an unfinished application is never the answer. -/
def apply (run : Run R) (r : R) : Outcome × Run R :=
  match run.setting.applyWithin run.setting.nestingRoom r run.state with
  | some (o, s) => (o, { run with state := s })
  | none => (.missed run.pos, run)

/-- Evaluates an expression at the reading position, outside every rule. -/
def eval (run : Run R) (e : Expr R) : Bool × Run R :=
  let call r s :=
    (run.setting.applyWithin run.setting.nestingRoom r s).map fun (o, t) => (o.matched, t)
  match e.eval run.setting.input call run.state with
  | some (matched, s) => (matched, { run with state := s })
  | none => (false, run)

/-- Applies a rule. The parse succeeds if the rule matches and the bound on nesting was never hit in
this run. It need not reach the end of the input. -/
def parse (run : Run R) (r : R) : Bool × Run R :=
  let (o, run) := run.apply r
  (o.matched && !run.isExhausted, run)

/-- Parses the root rule. -/
def parseRoot (run : Run R) : Bool × Run R := run.parse run.setting.grammar.root

/-- Makes one step. Reports of earlier steps are forgotten. -/
def step (run : Run R) (step : Step R) : Report R × Run R :=
  let run := { run with state := { run.state with events := [] } }
  let (matched, outcome?, run) :=
    match step with
    | .root => let (matched, run) := run.parseRoot; (matched, none, run)
    | .parse r => let (matched, run) := run.parse r; (matched, none, run)
    | .result r => let (o, run) := run.apply r; (o.matched, some o, run)
    | .eval e => let (matched, run) := run.eval e; (matched, none, run)
  (⟨matched, outcome?, run.state.events.reverse⟩, run)

/-- Makes one step after the other. -/
def steps (run : Run R) : List (Step R) → List (Report R) × Run R
  | [] => ([], run)
  | s :: rest =>
    let (report, run) := run.step s
    let (reports, run) := run.steps rest
    (report :: reports, run)

/-- The entries of the table, by rule in the order of declaration and then by position. -/
def memoEntries (run : Run R) : List (R × Nat × Entry) :=
  run.setting.grammar.rules.flatMap fun r =>
    (List.range (run.setting.length + 1)).filterMap fun pos =>
      (run.state.memo.get? r pos).map fun e => (r, pos, e)

/-- The text of a run, for people. -/
def describe (run : Run R) : String :=
  let failure :=
    match run.failure with
    | some (r, pos) => "Some((" ++ run.setting.grammar.label r ++ ", " ++ toString pos ++ "))"
    | none => "None"
  "Parser \x7b cursor: " ++ (Cursor.mk run.setting.input run.pos).describe ++
    ", memoized: " ++ toString run.state.memo.size ++
    ", failure: " ++ failure ++
    ", depth: " ++ toString run.state.depth ++
    ", max_depth: " ++ toString run.setting.maxDepth ++
    ", exhausted: " ++ toString run.isExhausted ++ " \x7d"

end Run

end AddressGrammar.Peg
