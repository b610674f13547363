/-!
# Tokens of a settings text

Settings are written as JSON. This module splits such a text into tokens and drops the blanks
between them, so that everything after it is independent of how a text is laid out.

A string may spell half of a surrogate pair by an escape. Such a string has no text, but where its
text does not matter it is still a string; the token keeps its text only if it has one. Of a number
only its value matters, and that only if it is written in plain digits.

## Main definitions

* `Token` — the tokens, with what matters about them
* `StringPiece`, `stringPieces?`, `joinPieces` — the inside of a string, and the text it spells
* `number?` — a number
* `tokens?` — all tokens of a text
-/

namespace AddressGrammar.Settings

/-- A token of a settings text. -/
inductive Token where
  | openBrace | closeBrace | openBracket | closeBracket | colon | comma
  | null | true | false
  /-- A string and the text it spells, if it spells one. -/
  | string (text : Option String)
  /-- A number and its value, if it is written in plain digits. -/
  | number (value : Option Nat)
  deriving DecidableEq, Repr

/-- A piece of the inside of a string. -/
inductive StringPiece where
  /-- A character, as it stands or by its short escape. -/
  | char (c : Char)
  /-- A code unit by its number. -/
  | unit (n : Nat)

/-- Blanks may stand between any two tokens. -/
def isBlank (c : Char) : Bool := c = ' ' || c = '\t' || c = '\n' || c = '\r'

/-- The value of a hexadecimal digit. -/
def hexDigit? (c : Char) : Option Nat :=
  if c.isDigit then some (c.toNat - '0'.toNat)
  else if 'a' ≤ c ∧ c ≤ 'f' then some (c.toNat - 'a'.toNat + 10)
  else if 'A' ≤ c ∧ c ≤ 'F' then some (c.toNat - 'A'.toNat + 10)
  else none

/-- The number that four hexadecimal digits stand for. -/
def hexValue? (a b c d : Char) : Option Nat :=
  match hexDigit? a, hexDigit? b, hexDigit? c, hexDigit? d with
  | some a, some b, some c, some d => some (((a * 16 + b) * 16 + c) * 16 + d)
  | _, _, _, _ => none

/-- The character that a short escape stands for. -/
def shortEscape? (c : Char) : Option Char :=
  if c = '"' || c = '\\' || c = '/' then some c
  else if c = 'b' then some '\x08'
  else if c = 'f' then some '\x0c'
  else if c = 'n' then some '\n'
  else if c = 'r' then some '\r'
  else if c = 't' then some '\t'
  else none

/-- Reads the inside of a string up to its closing quote. Control characters have to be escaped. -/
def stringPieces? : List Char → Option (List StringPiece × List Char)
  | [] => none
  | '"' :: rest => some ([], rest)
  | '\\' :: 'u' :: a :: b :: c :: d :: rest =>
    match hexValue? a b c d, stringPieces? rest with
    | some n, some (pieces, rest) => some (.unit n :: pieces, rest)
    | _, _ => none
  | '\\' :: e :: rest =>
    match shortEscape? e, stringPieces? rest with
    | some c, some (pieces, rest) => some (.char c :: pieces, rest)
    | _, _ => none
  | c :: rest =>
    if c.toNat < 0x20 || c = '\\' then none
    else
      match stringPieces? rest with
      | some (pieces, rest) => some (.char c :: pieces, rest)
      | none => none

/-- The first half of a surrogate pair. -/
def isHighSurrogate (n : Nat) : Bool := 0xd800 ≤ n && n < 0xdc00

/-- The second half of a surrogate pair. -/
def isLowSurrogate (n : Nat) : Bool := 0xdc00 ≤ n && n < 0xe000

/-- The text that the pieces of a string spell. Code units that are halves of a surrogate pair have
to come in pairs. -/
def joinPieces : List StringPiece → Option (List Char)
  | [] => some []
  | .char c :: rest => (joinPieces rest).map (c :: ·)
  | .unit n :: .unit m :: rest =>
    if isHighSurrogate n then
      if isLowSurrogate m then
        (joinPieces rest).map (Char.ofNat (0x10000 + (n - 0xd800) * 0x400 + (m - 0xdc00)) :: ·)
      else none
    else if isLowSurrogate n then none
    else (joinPieces (.unit m :: rest)).map (Char.ofNat n :: ·)
  | .unit n :: rest =>
    if isHighSurrogate n || isLowSurrogate n then none
    else (joinPieces rest).map (Char.ofNat n :: ·)

/-- The value of digits. -/
def digitsValue (digits : List Char) : Nat :=
  digits.foldl (fun n c => n * 10 + (c.toNat - '0'.toNat)) 0

/-- Splits off digits, at least one. -/
def digits? (cs : List Char) : Option (List Char × List Char) :=
  match cs.takeWhile Char.isDigit with
  | [] => none
  | digits => some (digits, cs.dropWhile Char.isDigit)

/-- Splits off the fraction of a number, if there is one. The answer tells whether there was. -/
def fraction? : List Char → Option (Bool × List Char)
  | '.' :: rest => (digits? rest).map fun (_, rest) => (true, rest)
  | cs => some (false, cs)

/-- Splits off a sign, if there is one. -/
def dropSign : List Char → List Char
  | '+' :: rest => rest
  | '-' :: rest => rest
  | cs => cs

/-- Splits off the exponent of a number, if there is one. The answer tells whether there was. -/
def exponent? : List Char → Option (Bool × List Char)
  | 'e' :: rest => (digits? (dropSign rest)).map fun (_, rest) => (true, rest)
  | 'E' :: rest => (digits? (dropSign rest)).map fun (_, rest) => (true, rest)
  | cs => some (false, cs)

/-- Reads a number without its sign. Digits before the point may not begin with a zero, unless it is
the only one. -/
def number? (cs : List Char) : Option (Option Nat × List Char) :=
  match digits? cs with
  | none => none
  | some (digits, rest) =>
    if digits.head? = some '0' && digits.length != 1 then none
    else
      match fraction? rest with
      | none => none
      | some (hasFraction, rest) =>
        match exponent? rest with
        | none => none
        | some (hasExponent, rest) =>
          some (if hasFraction || hasExponent then none else some (digitsValue digits), rest)

/-- Reads one token. -/
def token? : List Char → Option (Token × List Char)
  | '\x7b' :: rest => some (.openBrace, rest)
  | '\x7d' :: rest => some (.closeBrace, rest)
  | '[' :: rest => some (.openBracket, rest)
  | ']' :: rest => some (.closeBracket, rest)
  | ':' :: rest => some (.colon, rest)
  | ',' :: rest => some (.comma, rest)
  | 'n' :: 'u' :: 'l' :: 'l' :: rest => some (.null, rest)
  | 't' :: 'r' :: 'u' :: 'e' :: rest => some (.true, rest)
  | 'f' :: 'a' :: 'l' :: 's' :: 'e' :: rest => some (.false, rest)
  | '"' :: rest =>
    (stringPieces? rest).map fun (pieces, rest) =>
      (.string ((joinPieces pieces).map String.ofList), rest)
  | '-' :: rest => (number? rest).map fun (_, rest) => (.number none, rest)
  | cs => (number? cs).map fun (value, rest) => (.number value, rest)

/-- Reads at most `n` characters and tokens. -/
def tokensWithin : Nat → List Char → Option (List Token)
  | _, [] => some []
  | 0, _ :: _ => none
  | n + 1, c :: cs =>
    if isBlank c then tokensWithin n cs
    else
      match token? (c :: cs) with
      | some (t, rest) => (tokensWithin n rest).map (t :: ·)
      | none => none

/-- The tokens of a text. Every step reads at least one character, so there are steps enough. -/
def tokens? (text : String) : Option (List Token) := tokensWithin text.length text.toList

end AddressGrammar.Settings
