import AddressGrammar.Settings.Json
import AddressGrammar.Validation.Validator

/-!
# Settings as text

A validator is written as a JSON object with one field per setting, without blanks and in a fixed
order. Reading is more liberal: fields may come in any order, a missing one has its default and
unknown ones are passed over. A setting may not come twice and must have a value of its kind. A
choice among names is written as a string, or as an object whose only field has that name and the
value `null`.

Instead of an object there may be an array, with the values of settings in their order and without
their names. It may end early, which leaves the other settings at their defaults, but it may not go
on behind the last setting.

## Main definitions

* `write` — the text of a validator
* `ofFields?` — the validator of the fields of an object
* `ofElements?` — the validator of the elements of an array
* `read?` — the validator of a text
-/

namespace AddressGrammar.Settings

open Validation

/-- The largest bound on nesting that can be written. -/
def maxWrittenDepth : Nat := 18446744073709551615

/-- The names of the settings, in their order. -/
def settingNames : List String := ["syntax", "start", "validate_domain", "max_depth"]

/-- The written name of a syntax. -/
def syntaxName : AddressSyntax → String
  | .legacy => "legacy"
  | .modern => "modern"

/-- The written name of a start. -/
def startName : StartRule → String
  | .address => "address"
  | .addrSpec => "addr_spec"
  | .addressList => "address_list"

/-- The text of a validator. -/
def write (v : Validator) : String :=
  "\x7b\"syntax\":\"" ++ syntaxName v.syntaxKind ++
    "\",\"start\":\"" ++ startName v.startRule ++
    "\",\"validate_domain\":" ++ toString v.validateDomain ++
    ",\"max_depth\":" ++ toString v.maxDepth ++ "\x7d"

/-- The name that is chosen. -/
def chosenName? : Json → Option String
  | .string text => text
  | .object [(key, .null)] => key
  | _ => none

/-- The syntax that is chosen. -/
def syntaxOf? (j : Json) : Option AddressSyntax :=
  (chosenName? j).bind fun name => [.legacy, .modern].find? fun s => syntaxName s == name

/-- The start that is chosen. -/
def startOf? (j : Json) : Option StartRule :=
  (chosenName? j).bind fun name =>
    [.address, .addrSpec, .addressList].find? fun s => startName s == name

/-- The truth value that is written. -/
def boolOf? : Json → Option Bool
  | .bool b => some b
  | _ => none

/-- The bound on nesting that is written. -/
def depthOf? : Json → Option Nat
  | .number (some n) => if n ≤ maxWrittenDepth then some n else none
  | _ => none

/-- The value of the field of that name: the default if there is none, and no value if there are
several or if it is not of the right kind. -/
def fieldOr {α : Type} (fields : List (Option String × Json)) (name : String)
    (decode : Json → Option α) (default : α) : Option α :=
  match fields.filter fun f => f.1 == some name with
  | [] => some default
  | [f] => decode f.2
  | _ => none

/-- The validator of the fields of an object. The name of every field has to be a text. -/
def ofFields? (fields : List (Option String × Json)) : Option Validator :=
  if fields.all (·.1.isSome) then do
    let default := Validator.modern
    let syntaxKind ← fieldOr fields "syntax" syntaxOf? default.syntaxKind
    let startRule ← fieldOr fields "start" startOf? default.startRule
    let validateDomain ← fieldOr fields "validate_domain" boolOf? default.validateDomain
    let maxDepth ← fieldOr fields "max_depth" depthOf? default.maxDepth
    return { syntaxKind, startRule, validateDomain, maxDepth }
  else none

/-- The value of the element in that place: the default if the array ends in front of it, and no
value if it is not of the right kind. -/
def elementOr {α : Type} (elements : List Json) (place : Nat) (decode : Json → Option α)
    (default : α) : Option α :=
  match elements[place]? with
  | none => some default
  | some j => decode j

/-- The validator of the elements of an array. There may not be more elements than settings. -/
def ofElements? (elements : List Json) : Option Validator :=
  if elements.length ≤ settingNames.length then do
    let default := Validator.modern
    let syntaxKind ← elementOr elements 0 syntaxOf? default.syntaxKind
    let startRule ← elementOr elements 1 startOf? default.startRule
    let validateDomain ← elementOr elements 2 boolOf? default.validateDomain
    let maxDepth ← elementOr elements 3 depthOf? default.maxDepth
    return { syntaxKind, startRule, validateDomain, maxDepth }
  else none

/-- The validator of a text, if the text is an object or an array with settings. -/
def read? (text : String) : Option Validator :=
  match Json.parse? text with
  | some (.object fields) => ofFields? fields
  | some (.array elements) => ofElements? elements
  | _ => none

end AddressGrammar.Settings
