import AddressGrammar.Legacy.Grammar
import AddressGrammar.Modern.Grammar
import AddressGrammar.Proofs.Notation.Derivability

/-!
# The shapes of the address grammars

Every rule of the address grammars has two definitions, the parsing expression that is run and the
production that is shown. Both are data, so whether the first has the shape of the second is
computed, rule by rule: each byte class is compared with its spelling on all 256 bytes. Policies on
domains do not take part in this, since a check has the shape of what it checks.

## Main results

* `Modern.follows_body`, `Legacy.follows_body` — bodies have the shape of productions
-/

namespace AddressGrammar

open Peg Notation

namespace Modern

/-- **Every modern rule has the shape of its production**, under any policy on domains. -/
theorem follows_body (policy : Option Policy) (r : Rule) :
    (body policy r).follows r.production = true := by
  have hnone : (body policy r).follows r.production = (body none r).follows r.production := by
    cases policy <;> cases r <;> rfl
  rw [hnone]
  cases r <;> decide +kernel

end Modern

namespace Legacy

/-- **Every legacy rule has the shape of its production**, under any policy on domains. -/
theorem follows_body (policy : Option Policy) (r : Rule) :
    (body policy r).follows r.production = true := by
  have hnone : (body policy r).follows r.production = (body none r).follows r.production := by
    cases policy <;> cases r <;> rfl
  rw [hnone]
  cases r <;> decide +kernel

end Legacy

end AddressGrammar
