import AddressGrammar.Settings.Token

/-!
# JSON values

The value that the tokens of a settings text make up, with as much of its leaves as the tokens keep.

## Main definitions

* `Json` — the values
* `Json.valueWithin?`, `Json.elementsWithin?`, `Json.fieldsWithin?` — reading one from tokens
* `Json.parse?` — the value of a whole text
-/

namespace AddressGrammar.Settings

/-- A value in JSON. The fields of an object are kept in their order, repeated ones included. -/
inductive Json where
  | null
  | bool (b : Bool)
  /-- A number and its value, if it is written in plain digits. -/
  | number (value : Option Nat)
  /-- A string and the text it spells, if it spells one. -/
  | string (text : Option String)
  | array (elements : List Json)
  | object (fields : List (Option String × Json))

namespace Json

mutual

/-- Reads a value in at most `n` steps. -/
def valueWithin? : Nat → List Token → Option (Json × List Token)
  | 0, _ => none
  | _ + 1, .null :: rest => some (null, rest)
  | _ + 1, .true :: rest => some (bool true, rest)
  | _ + 1, .false :: rest => some (bool false, rest)
  | _ + 1, .number value :: rest => some (number value, rest)
  | _ + 1, .string text :: rest => some (string text, rest)
  | _ + 1, .openBracket :: .closeBracket :: rest => some (array [], rest)
  | n + 1, .openBracket :: rest =>
    (elementsWithin? n rest).map fun (elements, rest) => (array elements, rest)
  | _ + 1, .openBrace :: .closeBrace :: rest => some (object [], rest)
  | n + 1, .openBrace :: rest =>
    (fieldsWithin? n rest).map fun (fields, rest) => (object fields, rest)
  | _ + 1, _ => none

/-- Reads the elements of an array and the bracket behind them in at most `n` steps. -/
def elementsWithin? : Nat → List Token → Option (List Json × List Token)
  | 0, _ => none
  | n + 1, tokens =>
    match valueWithin? n tokens with
    | some (v, .closeBracket :: rest) => some ([v], rest)
    | some (v, .comma :: rest) =>
      (elementsWithin? n rest).map fun (elements, rest) => (v :: elements, rest)
    | _ => none

/-- Reads the fields of an object and the brace behind them in at most `n` steps. -/
def fieldsWithin? : Nat → List Token → Option (List (Option String × Json) × List Token)
  | 0, _ => none
  | n + 1, .string key :: .colon :: tokens =>
    match valueWithin? n tokens with
    | some (v, .closeBrace :: rest) => some ([(key, v)], rest)
    | some (v, .comma :: rest) =>
      (fieldsWithin? n rest).map fun (fields, rest) => ((key, v) :: fields, rest)
    | _ => none
  | _ + 1, _ => none

end

/-- The value that tokens make up, if it takes all of them. Two steps per token are enough. -/
def ofTokens? (tokens : List Token) : Option Json :=
  match valueWithin? (2 * tokens.length) tokens with
  | some (v, []) => some v
  | _ => none

/-- The value of a text. -/
def parse? (text : String) : Option Json := (tokens? text).bind ofTokens?

end Json

end AddressGrammar.Settings
