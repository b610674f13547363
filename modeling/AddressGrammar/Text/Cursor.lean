import AddressGrammar.Text.Bytes
import AddressGrammar.Text.Escaped

/-!
# A reading position in a text

A cursor is a text and an offset. Only the offset moves. A move that would leave the text is refused
and changes nothing, so the end of the text is one more way for a read to fail.

## Main definitions

* `Cursor`, `Cursor.start` — a position, at first the beginning of the text
* `Cursor.peek`, `Cursor.bump`, `Cursor.advanceBy`, `Cursor.eat` — reading and moving on
* `Cursor.checkpoint`, `Cursor.restore` — going back
* `Cursor.describe` — the text of a cursor
-/

namespace AddressGrammar.Text

/-- A text together with a reading position. -/
structure Cursor where
  /-- The text being read. -/
  input : String
  /-- The offset of the next byte to read. -/
  pos : Nat

namespace Cursor

/-- A cursor at the beginning of a text. -/
def start (input : String) : Cursor := ⟨input, 0⟩

/-- The length of the text in bytes. -/
def length (c : Cursor) : Nat := c.input.utf8ByteSize

/-- Whether the text is empty. -/
def isEmpty (c : Cursor) : Bool := c.length == 0

/-- Whether nothing is left to read. -/
def atEnd (c : Cursor) : Bool := decide (c.length ≤ c.pos)

/-- The position, kept for a later `restore`. -/
def checkpoint (c : Cursor) : Nat := c.pos

/-- The cursor at an earlier checkpoint. -/
def restore (c : Cursor) (pos : Nat) : Cursor := { c with pos }

/-- The next byte, without moving. -/
def peek (c : Cursor) : Option UInt8 := byteAt? c.input c.pos

/-- The next byte, and the cursor behind it. -/
def bump (c : Cursor) : Option UInt8 × Cursor :=
  match c.peek with
  | some b => (some b, c.restore (c.pos + 1))
  | none => (none, c)

/-- Moves on by `n` bytes if the text is that long. -/
def advanceBy (c : Cursor) (n : Nat) : Bool × Cursor :=
  if c.pos + n ≤ c.length then (true, c.restore (c.pos + n)) else (false, c)

/-- Moves over the given bytes if they come next. -/
def eat (c : Cursor) (bytes : List UInt8) : Bool × Cursor :=
  if spelledAt c.input c.pos bytes then (true, c.restore (c.pos + bytes.length)) else (false, c)

/-- The text between two offsets, wherever the cursor stands. -/
def textBetween (c : Cursor) (start stop : Nat) : Option String := slice? c.input start stop

/-- The text of a cursor, for people. -/
def describe (c : Cursor) : String :=
  "Cursor \x7b input: " ++ quoted c.input ++ ", pos: " ++ toString c.pos ++ " \x7d"

end Cursor

end AddressGrammar.Text
