/-!
# The farthest failure

A parsing expression grammar fails in many places while it tries its alternatives. The one that
explains a rejection best is the one farthest into the input, and among those the latest. A failure
is recorded with the rule that failed.

## Main definitions

* `FarthestFailure`, `FarthestFailure.record` — the best explanation so far, and how it improves
-/

namespace AddressGrammar.Peg

/-- The farthest failure recorded so far: the rule that failed and the offset, if any. -/
abbrev FarthestFailure (R : Type) := Option (R × Nat)

namespace FarthestFailure

variable {R : Type}

/-- Takes note of a failure, unless an earlier one lies farther into the input. -/
def record (f : FarthestFailure R) (r : R) (pos : Nat) : FarthestFailure R :=
  match f with
  | some (q, offset) => if pos < offset then some (q, offset) else some (r, pos)
  | none => some (r, pos)

/-- The rule that failed farthest. -/
def rule? (f : FarthestFailure R) : Option R := f.map Prod.fst

/-- The offset of the farthest failure. -/
def offset? (f : FarthestFailure R) : Option Nat := f.map Prod.snd

/-- Recording the same failure twice is recording it once. -/
@[simp] theorem record_record (f : FarthestFailure R) (r : R) (pos : Nat) :
    (f.record r pos).record r pos = f.record r pos := by
  cases f with
  | none => simp [record]
  | some x =>
    by_cases h : pos < x.2 <;> simp [record, h]

end FarthestFailure

end AddressGrammar.Peg
