import AddressGrammar.Peg.FarthestFailure
import AddressGrammar.Peg.MemoTable
import AddressGrammar.Peg.OpenRules
import AddressGrammar.Text.Bytes

/-!
# The state of a run

Everything that a run of a grammar changes. The input, the grammar and the bound on nesting stay the
same throughout a run and are not part of its state.

The number of open rules is the depth that the bound limits, and the innermost of them is the one
that a failing primitive is charged to. Outside every rule such a failure leaves no trace.

## Main definitions

* `Event` — what an expression reports while it is evaluated
* `State`, `State.initial` — the state of a run, and the one before its first step
* `State.depth`, `State.current?` — how many rules are open, and the innermost one
* `State.moveTo`, `State.record`, `State.miss`, `State.report` — elementary changes
* `State.takeByte`, `State.takeRun`, `State.takeLiteral` — the primitives that read input
-/

namespace AddressGrammar.Peg

open Text

/-- What an expression reports while it is evaluated. -/
inductive Event (R : Type) where
  /-- A capture matched: its span and its text, absent if the span splits a character. -/
  | captured (span : Span) (text : Option String)
  /-- A policy was asked about a text and gave an answer. -/
  | asked (policy text : String) (answer : Bool)
  /-- What was remembered about a rule at an offset. -/
  | inspected (r : R) (pos : Nat) (entry : Option Entry)

/-- The changing part of a run. -/
structure State (R : Type) where
  /-- The offset of the next byte to read. -/
  pos : Nat
  /-- What is remembered about rules at positions. -/
  memo : MemoTable R
  /-- The farthest failure so far. -/
  failure : FarthestFailure R
  /-- The rules whose bodies are being evaluated. -/
  active : OpenRules R
  /-- Whether the bound on nesting was hit. -/
  exhausted : Bool
  /-- What was reported, the latest first. -/
  events : List (Event R)

namespace State

variable {R : Type} [DecidableEq R]

/-- The state before the first step. -/
def initial : State R where
  pos := 0
  memo := .empty
  failure := none
  active := .none
  exhausted := false
  events := []

/-- The number of rule bodies being evaluated. -/
def depth (s : State R) : Nat := s.active.depth

/-- The rule whose body is being evaluated. -/
def current? (s : State R) : Option R := s.active.innermost?

/-- Puts the reading position somewhere. -/
def moveTo (s : State R) (pos : Nat) : State R := { s with pos }

/-- Takes note of a failure. -/
def record (s : State R) (r : R) (pos : Nat) : State R :=
  { s with failure := s.failure.record r pos }

/-- Charges a failure at the reading position to the rule being evaluated. -/
def miss (s : State R) : State R :=
  match s.current? with
  | some r => s.record r s.pos
  | none => s

/-- Adds a report. -/
def report (s : State R) (e : Event R) : State R := { s with events := e :: s.events }

/-- Reads one byte of a class. -/
def takeByte (s : State R) (input : String) (c : ByteClass) : Bool × State R :=
  if classAt input c s.pos then (true, s.moveTo (s.pos + 1)) else (false, s.miss)

/-- Reads a longest run of bytes of a class. Only its first byte may be missed. -/
def takeRun (s : State R) (input : String) (c : ByteClass) : Bool × State R :=
  if classAt input c s.pos then (true, s.moveTo (runEnd input c (s.pos + 1))) else (false, s.miss)

/-- Reads the given bytes. They are missed as a whole, at the first one. -/
def takeLiteral (s : State R) (input : String) (bytes : List UInt8) : Bool × State R :=
  if spelledAt input s.pos bytes then (true, s.moveTo (s.pos + bytes.length)) else (false, s.miss)

end State

end AddressGrammar.Peg
