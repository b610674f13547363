/-!
# What a rule application yields

An application either matched a span of the input or did not. A failed application covers the empty
span at its start, so every outcome says where the reading position stands afterwards.

## Main definitions

* `Span`, `Span.length`, `Span.isEmpty` — a stretch of the input
* `Outcome`, `Outcome.stop`, `Outcome.missed` — the result of an application
-/

namespace AddressGrammar.Peg

/-- The bytes of the input from `start` up to `stop`. -/
structure Span where
  /-- The offset of the first byte. -/
  start : Nat
  /-- The offset behind the last byte. -/
  stop : Nat
  deriving DecidableEq, Repr

/-- The number of bytes in the span. -/
def Span.length (s : Span) : Nat := s.stop - s.start

/-- Whether the span covers nothing. -/
def Span.isEmpty (s : Span) : Bool := s.start == s.stop

/-- The result of applying a rule. -/
structure Outcome where
  /-- Whether the rule matched. -/
  matched : Bool
  /-- What it matched, and the empty span at its start otherwise. -/
  span : Span
  deriving DecidableEq, Repr

/-- Where the reading position stands after the application. -/
def Outcome.stop (o : Outcome) : Nat := o.span.stop

/-- A failure at a position. -/
def Outcome.missed (pos : Nat) : Outcome := ⟨false, ⟨pos, pos⟩⟩

/-- A match from one position to another. -/
def Outcome.hit (start stop : Nat) : Outcome := ⟨true, ⟨start, stop⟩⟩

@[simp] theorem Outcome.stop_missed (pos : Nat) : (missed pos).stop = pos := rfl

@[simp] theorem Outcome.stop_hit (start stop : Nat) : (hit start stop).stop = stop := rfl

end AddressGrammar.Peg
