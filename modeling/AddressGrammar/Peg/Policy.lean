/-!
# Policies on matched text

Predicates on matched text are the one thing that a parsing expression cannot spell out. A policy is
such a predicate with a name, under which its answers are reported.

## Main definitions

* `Policy` — a named predicate on texts
* `TextTest.hasSize`, `TextTest.beginsWith`, `TextTest.endsWith` — simple predicates
-/

namespace AddressGrammar.Peg

/-- A predicate on texts and the name under which its answers are reported. -/
structure Policy where
  /-- Stands with every reported answer. -/
  name : String
  /-- Whether a text is acceptable. -/
  accepts : String → Bool

/-- Whether a text takes up the given number of bytes. -/
def TextTest.hasSize (bytes : Nat) (text : String) : Bool := text.utf8ByteSize == bytes

/-- Whether a text begins with another one. -/
def TextTest.beginsWith (beginning text : String) : Bool :=
  beginning.toList.isPrefixOf text.toList

/-- Whether a text ends with another one. -/
def TextTest.endsWith (ending text : String) : Bool := ending.toList.isSuffixOf text.toList

end AddressGrammar.Peg
