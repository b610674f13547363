import AddressGrammar.Hostname.International
import AddressGrammar.Legacy.Grammar
import AddressGrammar.Modern.Grammar
import AddressGrammar.Peg.Run
import AddressGrammar.Validation.ParseError

/-!
# Validators

A validator says which address grammar applies, what a whole input has to be in it, whether domains
have to be host names and how deeply rule bodies may nest. It is built once and checks any number of
inputs, each of them in a run of its own.

An input passes if the wanted rule matches all of it. Otherwise the farthest failure explains the
rejection, unless the rule matched and stopped behind it: then the first byte that is left over is
the place, and the rule itself is what failed.

## Main definitions

* `AddressSyntax`, `StartRule`, `Validator` — the settings
* `Validator.modern`, `Validator.legacy` — the settings to begin with
* `checkWhole` — one input against one rule of any grammar
* `Validator.check`, `Validator.checkRule` — one input against the settings
* `Validator.validate`, `Validator.validateRule` — the same, without the reason
-/

namespace AddressGrammar.Validation

open Peg

/-- Which address grammar applies. -/
inductive AddressSyntax where
  /-- RFC 822. -/
  | legacy
  /-- RFC 2822 with its obsolete forms. -/
  | modern
  deriving DecidableEq, Repr

/-- What a whole input has to be. -/
inductive StartRule where
  /-- A mailbox or a group. -/
  | address
  /-- A bare address: a local part, an at sign and a domain. -/
  | addrSpec
  /-- A list of addresses, which the legacy grammar does not have. -/
  | addressList
  deriving DecidableEq, Repr

/-- The name of the rule that a whole input has to match. -/
def StartRule.ruleName : StartRule → String
  | address => "root"
  | addrSpec => "only_addr_spec"
  | addressList => "only_address_list"

/-- The settings of a validation. -/
structure Validator where
  /-- The address grammar. -/
  syntaxKind : AddressSyntax
  /-- What a whole input has to be. -/
  startRule : StartRule
  /-- Whether domains have to be host names. -/
  validateDomain : Bool
  /-- How many rule bodies may be open inside one another. -/
  maxDepth : Nat
  deriving DecidableEq, Repr

/-- Checks that a rule of a grammar, given by its name, matches all of an input. -/
def checkWhole {R : Type} [DecidableEq R] (grammar : Grammar R) (maxDepth : Nat)
    (ruleName input : String) : Except ParseError Unit :=
  match grammar.ruleNamed? ruleName with
  | none => .error (.unknownRule ruleName)
  | some rule =>
    let (matched, run) := (Run.start grammar input maxDepth).parse rule
    if matched && run.atEnd then .ok ()
    else if run.isExhausted then .error (.tooDeep maxDepth)
    else
      let (failed, offset) :=
        match run.failure with
        | some (failed, offset) =>
          if !matched || decide (run.pos ≤ offset) then (failed, offset) else (rule, run.pos)
        | none => (rule, run.pos)
      .error (.mismatch
        (.locate input offset (grammar.name failed) (grammar.production failed)))

namespace Validator

/-- Modern addresses. -/
def modern : Validator := ⟨.modern, .address, false, defaultMaxDepth⟩

/-- Legacy addresses. -/
def legacy : Validator := { modern with syntaxKind := .legacy }

/-- Asks for a bare address or, on `false`, for a mailbox or a group. -/
def addrSpecOnly (v : Validator) (only : Bool) : Validator :=
  { v with startRule := if only then .addrSpec else .address }

/-- The policy on domains. -/
def policy (v : Validator) : Option Policy :=
  if v.validateDomain then some Hostname.policy else none

/-- Checks that the rule of that name matches all of an input. -/
def checkRule (v : Validator) (ruleName input : String) : Except ParseError Unit :=
  match v.syntaxKind with
  | .modern => checkWhole (Modern.grammar v.policy) v.maxDepth ruleName input
  | .legacy => checkWhole (Legacy.grammar v.policy) v.maxDepth ruleName input

/-- Checks an input. -/
def check (v : Validator) (input : String) : Except ParseError Unit :=
  v.checkRule v.startRule.ruleName input

/-- Whether the rule of that name matches all of an input. No input matches an unknown rule. -/
def validateRule (v : Validator) (ruleName input : String) : Bool :=
  (v.checkRule ruleName input).isOk

/-- Whether an input passes. -/
def validate (v : Validator) (input : String) : Bool := (v.check input).isOk

end Validator

end AddressGrammar.Validation
