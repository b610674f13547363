/-!
# Lines and columns

An offset is shown to people as a line and a column. Lines are the pieces between line feeds and are
counted from one; a column counts the characters of its line up to the offset, from one as well. An
offset inside a character counts as the offset of that character, one past the end as the end.

## Main definitions

* `splitAtOffset` — the characters before an offset and those from it on
* `lineColumn` — where an offset falls
* `pieces`, `lineText` — the lines of a text, and one of them without its line ending
-/

namespace AddressGrammar.Text

/-- Splits off the longest beginning of a text that takes up at most `offset` bytes. -/
def splitAtOffset : Nat → List Char → List Char × List Char
  | _, [] => ([], [])
  | offset, c :: cs =>
    if c.utf8Size ≤ offset then
      let (before, after) := splitAtOffset (offset - c.utf8Size) cs
      (c :: before, after)
    else ([], c :: cs)

/-- The two parts make up the text. -/
theorem splitAtOffset_append (offset : Nat) (cs : List Char) :
    (splitAtOffset offset cs).1 ++ (splitAtOffset offset cs).2 = cs := by
  induction cs generalizing offset with
  | nil => rfl
  | cons c cs ih =>
    rw [splitAtOffset]
    split
    · exact congrArg (c :: ·) (ih _)
    · rfl

/-- The characters behind the last line feed. -/
def lastLine (cs : List Char) : List Char :=
  (cs.reverse.takeWhile (· ≠ '\n')).reverse

/-- The line and the column of an offset, both counted from one. -/
def lineColumn (input : String) (offset : Nat) : Nat × Nat :=
  let before := (splitAtOffset offset input.toList).1
  (before.count '\n' + 1, (lastLine before).length + 1)

/-- The pieces of a text between its line feeds. A text without any is one piece. -/
def pieces : List Char → List (List Char)
  | [] => [[]]
  | c :: cs =>
    if c = '\n' then [] :: pieces cs
    else
      match pieces cs with
      | piece :: rest => (c :: piece) :: rest
      | [] => [[c]]

/-- A piece without one carriage return at its end. -/
def dropReturn (cs : List Char) : List Char :=
  if cs.getLast? = some '\r' then cs.dropLast else cs

/-- Line number `line` without its ending: the empty text when there is no such line. Line zero
counts as the first. -/
def lineText (input : String) (line : Nat) : String :=
  String.ofList (((pieces input.toList)[line - 1]?.map dropReturn).getD [])

end AddressGrammar.Text
