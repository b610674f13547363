import AddressGrammar.Peg.Policy
import AddressGrammar.Text.ByteClass

/-!
# Parsing expressions

The right-hand sides of a parsing expression grammar. Choice is ordered, repetition is greedy, and a
match either succeeds and moves forward or fails. A failing expression leaves the position where it
stopped, except where `attempt` or an expression built on it puts it back; a rule application always
puts it back.

## Main definitions

* `Expr` — parsing expressions over a type of rules
* `Expr.seq`, `Expr.chain`, `Expr.alt`, `Expr.choice` — lists of expressions
* `Expr.opt`, `Expr.many1`, `Expr.anyByte`, `Expr.atEnd` — the usual shorthands
* `Expr.mapRules?` — the same expression over other rules
-/

namespace AddressGrammar.Peg

open Text

/-- Parsing expressions over the rules `R`. -/
inductive Expr (R : Type) where
  /-- Matches the empty text. -/
  | succeed
  /-- Matches nothing. -/
  | fail
  /-- One byte of a class. -/
  | byte (c : ByteClass)
  /-- A longest run of bytes of a class, at least one. -/
  | run (c : ByteClass)
  /-- The given bytes, one after the other. -/
  | literal (bytes : List UInt8)
  /-- Whatever a rule matches. -/
  | apply (r : R)
  /-- One expression and then another. A failure of the second leaves the position behind the
  first. -/
  | andThen (e₁ e₂ : Expr R)
  /-- The first expression, or else the second from where the first stopped. -/
  | orElse (e₁ e₂ : Expr R)
  /-- The expression, with the position put back if it fails. -/
  | attempt (e : Expr R)
  /-- As many matches of the expression as there are. A match of the empty text is the last one. -/
  | many (e : Expr R)
  /-- Matches the empty text where the expression does not match. -/
  | notAhead (e : Expr R)
  /-- Matches the empty text where the expression matches. -/
  | ahead (e : Expr R)
  /-- The expression, reporting what it matched. -/
  | capture (e : Expr R)
  /-- The expression, if what it matches is a text that the policy accepts. -/
  | check (e : Expr R) (policy : Policy)
  /-- Matches the empty text and reports what is remembered about a rule at an offset. -/
  | inspect (r : R) (pos : Nat)

namespace Expr

variable {R S : Type}

/-- Any byte. -/
def anyByte : Expr R := byte ByteClass.all

/-- The end of the input. -/
def atEnd : Expr R := notAhead anyByte

/-- One given byte. -/
def exactly (b : UInt8) : Expr R := byte (ByteClass.single b)

/-- One given ASCII character. -/
def token (c : Char) : Expr R := exactly c.toNat.toUInt8

/-- The bytes that spell a text. -/
def literalText (s : String) : Expr R := literal s.toByteArray.data.toList

/-- One expression after the other, the position staying where a failure left it. -/
def chain : List (Expr R) → Expr R
  | [] => succeed
  | [e] => e
  | e :: es => andThen e (chain es)

/-- One expression after the other, the position put back if one of them fails. -/
def seq (es : List (Expr R)) : Expr R := attempt (chain es)

/-- The first of the expressions that matches. -/
def alt : List (Expr R) → Expr R
  | [] => fail
  | [e] => e
  | e :: es => orElse e (alt es)

/-- The first of the rules that matches. -/
def choice (rules : List R) : Expr R := alt (rules.map apply)

/-- The expression or nothing. -/
def opt (e : Expr R) : Expr R := orElse (attempt e) succeed

/-- As many matches of the expression as there are, at least one. -/
def many1 (e : Expr R) : Expr R := andThen (attempt e) (many e)

/-- The same expression over other rules, if each of its rules has a counterpart. -/
def mapRules? (f : R → Option S) : Expr R → Option (Expr S)
  | succeed => some succeed
  | fail => some fail
  | byte c => some (byte c)
  | run c => some (run c)
  | literal bytes => some (literal bytes)
  | apply r => (f r).map apply
  | andThen e₁ e₂ => return andThen (← e₁.mapRules? f) (← e₂.mapRules? f)
  | orElse e₁ e₂ => return orElse (← e₁.mapRules? f) (← e₂.mapRules? f)
  | attempt e => (e.mapRules? f).map attempt
  | many e => (e.mapRules? f).map many
  | notAhead e => (e.mapRules? f).map notAhead
  | ahead e => (e.mapRules? f).map ahead
  | capture e => (e.mapRules? f).map capture
  | check e policy => (e.mapRules? f).map (check · policy)
  | inspect r pos => (f r).map (inspect · pos)

end Expr

end AddressGrammar.Peg
