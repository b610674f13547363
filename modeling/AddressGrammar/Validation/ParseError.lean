import AddressGrammar.Text.Escaped
import AddressGrammar.Text.Lines

/-!
# Why an input is rejected

A rejection has one of three causes: the input does not match, rule bodies nest too deeply to tell,
or the grammar has no rule of the wanted name. A mismatch is explained by a diagnostic, which points
at a place in the input and names the rule that failed there.

## Main definitions

* `Diagnostic`, `Diagnostic.locate` — a place in the input with the rule that failed at it
* `Diagnostic.caret` — the line of that place with a mark under it
* `ParseError` — the three causes
* `Diagnostic.message`, `ParseError.message` — their wording
-/

namespace AddressGrammar.Validation

open Text

/-- Where and why an input stops matching. -/
structure Diagnostic where
  /-- The line of the failure, counted from one. -/
  line : Nat
  /-- The column of the failure in characters, counted from one. -/
  column : Nat
  /-- The offset of the failure in bytes. -/
  offset : Nat
  /-- The name of the rule that failed. -/
  rule : String
  /-- The definition of that rule. -/
  production : String
  /-- The character at the failure, absent at the end of the input. -/
  found : Option Char
  /-- The line of the failure. -/
  lineText : String
  deriving DecidableEq, Repr

namespace Diagnostic

/-- The diagnostic of a rule that failed at an offset. -/
def locate (input : String) (offset : Nat) (rule production : String) : Diagnostic :=
  let (line, column) := lineColumn input offset
  { line, column, offset, rule, production
    found := (splitAtOffset offset input.toList).2.head?
    lineText := Text.lineText input line }

/-- The line of the failure and, below it, a mark under its column. -/
def caret (d : Diagnostic) : String :=
  d.lineText ++ "\n" ++ String.ofList (List.replicate (d.column - 1) ' ') ++ "^"

/-- The wording of a diagnostic. -/
def message (d : Diagnostic) : String :=
  let found :=
    match d.found with
    | some c => "'" ++ escapedChar c ++ "'"
    | none => "end of input"
  "@" ++ toString d.line ++ ":" ++ toString d.column ++ " failed rule '" ++ d.rule ++ "', got " ++
    found

end Diagnostic

/-- Why an input is rejected. -/
inductive ParseError where
  /-- The input does not match the rule. -/
  | mismatch (diagnostic : Diagnostic)
  /-- Rule bodies nest deeper than the limit. -/
  | tooDeep (limit : Nat)
  /-- The grammar has no rule of that name. -/
  | unknownRule (name : String)
  deriving DecidableEq, Repr

namespace ParseError

/-- The diagnostic of a mismatch. -/
def diagnostic? : ParseError → Option Diagnostic
  | mismatch d => some d
  | tooDeep _ => none
  | unknownRule _ => none

/-- The wording of an error. -/
def message : ParseError → String
  | mismatch d => d.message
  | tooDeep limit => "nesting deeper than " ++ toString limit ++ " rule applications"
  | unknownRule name => "unknown rule '" ++ name ++ "'"

end ParseError

end AddressGrammar.Validation
