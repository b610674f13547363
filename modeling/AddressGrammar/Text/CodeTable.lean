/-!
# Tables of characters

Properties of characters are tabulated by code point. A table that tells which characters have a
property consists of closed ranges. A table that gives other characters for them consists of blocks,
whose characters and forms are both evenly spaced, and of runs, whose characters are neighbours and
whose forms are listed. Tables are in increasing order unless they say otherwise, and no character
occurs in a table twice.

## Main definitions

* `CodeRanges`, `CodeRanges.covers` — a set of characters
* `CodeBlock`, `CodeBlock.form?` — evenly spaced characters and their forms
* `CodeRun`, `CodeRun.form?` — neighbouring characters and their forms
-/

namespace AddressGrammar.Text

/-- A set of characters as closed ranges of code points. -/
abbrev CodeRanges := List (Nat × Nat)

/-- Whether a character lies in one of the ranges. -/
def CodeRanges.covers (ranges : CodeRanges) (c : Char) : Bool :=
  ranges.any fun r => r.1 ≤ c.toNat && c.toNat ≤ r.2

/-- Characters at a fixed distance from each other whose forms are at the same distance. -/
structure CodeBlock where
  /-- The first character. -/
  first : Nat
  /-- The last character. -/
  last : Nat
  /-- The distance between neighbours. -/
  distance : Nat
  /-- The form of the first character. -/
  form : Nat

/-- The form of a character in a block. -/
def CodeBlock.form? (b : CodeBlock) (c : Char) : Option Char :=
  if b.first ≤ c.toNat && c.toNat ≤ b.last && (c.toNat - b.first) % b.distance = 0 then
    some (Char.ofNat (b.form + (c.toNat - b.first)))
  else none

/-- Neighbouring characters and their forms. -/
structure CodeRun where
  /-- The first character. -/
  first : Nat
  /-- The forms of the first character and of those behind it. -/
  forms : List Nat

/-- The form of a character in a run. -/
def CodeRun.form? (r : CodeRun) (c : Char) : Option Char :=
  if r.first ≤ c.toNat then (r.forms[c.toNat - r.first]?).map Char.ofNat else none

end AddressGrammar.Text
