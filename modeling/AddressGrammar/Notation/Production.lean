/-!
# Productions

The definition of a rule as diagnostics show it, kept as data: terminals, rules and the operations
of the grammar notation. Its text is computed by `Production.render`, so what the text says and what
the data mean cannot drift apart. A production is the rule's context-free skeleton; how a match is
found, in which order and with which failures, is the business of the rule's parsing expression.

Terminals have four spellings. Text stands between double quotes, a byte or a range of bytes is
called by its decimal code, and a byte class stands between slashes, in brackets unless it is one
byte. A byte in a class is shown as a character or by its hexadecimal code.

## Main definitions

* `ClassByte`, `ClassPiece` — bytes and ranges inside a byte class
* `Terminal`, `Production` — the two levels of the notation
* `Terminal.render`, `Production.render` — their text
-/

namespace AddressGrammar.Notation

/-- A byte in a byte class. -/
inductive ClassByte where
  /-- Shown as the character itself, behind a backslash if it is a bracket or a backslash. -/
  | char (c : Char)
  /-- Shown by its code with digits up to `f`. -/
  | hexLower (b : UInt8)
  /-- Shown by its code with digits up to `F`. -/
  | hexUpper (b : UInt8)

/-- A byte or a range of bytes in a byte class. -/
inductive ClassPiece where
  | one (b : ClassByte)
  | range (lo hi : ClassByte)

/-- A terminal of the notation. -/
inductive Terminal where
  /-- The given text. -/
  | text (s : String)
  /-- One byte by its decimal code. -/
  | code (b : UInt8)
  /-- The bytes between two decimal codes. -/
  | codes (lo hi : UInt8)
  /-- One byte between slashes. -/
  | slashed (b : ClassByte)
  /-- One byte of a class, or one outside it. -/
  | oneOf (negated : Bool) (pieces : List ClassPiece)
  /-- A run of at least one byte of a class, or of bytes outside it. -/
  | runOf (negated : Bool) (pieces : List ClassPiece)

/-- The definition of a rule over the rules `R`. -/
inductive Production (R : Type) where
  | terminal (t : Terminal)
  | rule (r : R)
  /-- One after the other. -/
  | seq (p q : Production R)
  /-- One or the other. -/
  | alt (p q : Production R)
  | optional (p : Production R)
  | star (p : Production R)
  | plus (p : Production R)
  /-- The end of the input. -/
  | eof
  /-- A text that the policy on domains accepts. -/
  | validDomain (p : Production R)

/-- The byte that is meant. -/
def ClassByte.toByte : ClassByte → UInt8
  | char c => c.toNat.toUInt8
  | hexLower b => b
  | hexUpper b => b

/-- Whether a piece of a class holds a byte. -/
def ClassPiece.contains : ClassPiece → UInt8 → Bool
  | one x, b => b == x.toByte
  | range lo hi, b => decide (lo.toByte ≤ b) && decide (b ≤ hi.toByte)

/-- Two hexadecimal digits. -/
def hexDigits (b : UInt8) : String :=
  String.ofList [Nat.digitChar (b.toNat / 16), Nat.digitChar (b.toNat % 16)]

/-- The text of a byte in a class. -/
def ClassByte.render : ClassByte → String
  | char c => if c = '[' || c = ']' || c = '\\' then "\\" ++ c.toString else c.toString
  | hexLower b => "\\x" ++ hexDigits b
  | hexUpper b => "\\x" ++ (hexDigits b).toUpper

/-- The text of a piece of a class. -/
def ClassPiece.render : ClassPiece → String
  | one b => b.render
  | range lo hi => lo.render ++ "-" ++ hi.render

/-- The text of a class between brackets. -/
def renderClass (negated : Bool) (pieces : List ClassPiece) : String :=
  "[" ++ (if negated then "^" else "") ++ String.join (pieces.map ClassPiece.render) ++ "]"

/-- A text between double quotes, double quotes and backslashes in it behind a backslash. -/
def renderText (s : String) : String :=
  String.ofList <| '"' :: (s.toList.flatMap fun c =>
    if c = '"' || c = '\\' then ['\\', c] else [c]) ++ ['"']

/-- The text of a terminal. -/
def Terminal.render : Terminal → String
  | text s => renderText s
  | code b => "d(" ++ toString b.toNat ++ ")"
  | codes lo hi => "d_btw(" ++ toString lo.toNat ++ "," ++ toString hi.toNat ++ ")"
  | slashed b => "/" ++ b.render ++ "/"
  | oneOf negated pieces => "/" ++ renderClass negated pieces ++ "/"
  | runOf negated pieces => "/" ++ renderClass negated pieces ++ "+/"

/-- Where a production stands, which decides about the parentheses around it. -/
inductive Place where
  /-- As a later choice of an alternative. -/
  | choice
  /-- On its own or as an item of a sequence. -/
  | item
  /-- Under an optional or repetition mark. -/
  | operand
  deriving DecidableEq

namespace Production

variable {R : Type}

/-- One production after the other. -/
def seqs : Production R → List (Production R) → Production R
  | p, [] => p
  | p, q :: rest => seq p (seqs q rest)

/-- One of the productions. -/
def alts : Production R → List (Production R) → Production R
  | p, [] => p
  | p, q :: rest => alt p (alts q rest)

/-- The text of a production at a place. Items are separated by blanks, choices by bars. A whole
alternative stands between parentheses, and so does a sequence under a mark. -/
def renderAt (name : R → String) : Place → Production R → String
  | _, terminal t => t.render
  | _, rule r => name r
  | place, seq p q =>
    let text := p.renderAt name .item ++ " " ++ q.renderAt name .item
    if place = .operand then "(" ++ text ++ ")" else text
  | place, alt p q =>
    let text := p.renderAt name .item ++ " | " ++ q.renderAt name .choice
    if place = .choice then text else "(" ++ text ++ ")"
  | _, optional p => p.renderAt name .operand ++ "?"
  | _, star p => p.renderAt name .operand ++ "*"
  | _, plus p => p.renderAt name .operand ++ "+"
  | _, eof => "!."
  | _, validDomain p => "< " ++ p.renderAt name .item ++ " > &\x7b valid_domain(text) \x7d"

/-- The text of a production. -/
def render (name : R → String) (p : Production R) : String := p.renderAt name .item

end Production

end AddressGrammar.Notation
