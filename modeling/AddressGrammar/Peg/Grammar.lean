import AddressGrammar.Peg.Expr

/-!
# Grammars

A grammar names its rules and gives each of them a parsing expression. The rules are a type of their
own, listed once in the order in which they are declared, so a rule outside the grammar cannot be
written down and "every rule" is a finite list.

## Main definitions

* `Grammar`, `Grammar.ruleNamed?` — a grammar, and its rules by name
* `Grammar.ofDefinitions?` — the grammar of a list of named expressions
-/

namespace AddressGrammar.Peg

/-- A parsing expression grammar with the rules `R`. -/
structure Grammar (R : Type) where
  /-- Every rule, in the order of declaration. -/
  rules : List R
  /-- The rule that a complete input has to match. -/
  root : R
  /-- The name of a rule in the defining documents. -/
  name : R → String
  /-- The identifier of a rule in the text of a run. -/
  label : R → String
  /-- The definition of a rule as diagnostics show it. -/
  production : R → String
  /-- What a rule matches. -/
  body : R → Expr R
  /-- No rule is missing from the list. -/
  mem_rules : ∀ r, r ∈ rules

namespace Grammar

variable {R : Type}

/-- The first rule of that name. -/
def ruleNamed? (g : Grammar R) (name : String) : Option R :=
  g.rules.find? fun r => g.name r == name

/-- The grammar whose rules are the definitions in their order, the first one being the root. A name
in an expression means the first definition of that name. There is no such grammar if the list is
empty or if a name has no definition. The rules have no production text. -/
def ofDefinitions? {n : Nat} (definitions : Vector (String × Expr String) n) :
    Option (Grammar (Fin n)) := do
  let rules := List.finRange n
  let ruleNamed? name := rules.find? fun r => definitions[r].1 == name
  let bodies ← definitions.mapM fun d => d.2.mapRules? ruleNamed?
  if h : 0 < n then
    return {
      rules
      root := ⟨0, h⟩
      name := fun r => definitions[r].1
      label := fun r => definitions[r].1
      production := fun _ => ""
      body := fun r => bodies[r]
      mem_rules := List.mem_finRange }
  else none

end Grammar

end AddressGrammar.Peg
