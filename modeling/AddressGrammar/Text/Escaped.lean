import AddressGrammar.Text.Mark
import AddressGrammar.Text.Unprintable

/-!
# Escaped text

How characters are written inside quotes in messages: the common control characters, the quote and
the backslash by a backslash, every other unprintable character and every mark by its code point in
braces, all the rest as themselves.

## Main definitions

* `escapedChar` — one character, as it stands between single quotes
* `quoted` — a text between double quotes
-/

namespace AddressGrammar.Text

/-- A code point in lower-case hexadecimal between braces. -/
def codePointEscape (c : Char) : List Char :=
  '\\' :: 'u' :: '\x7b' :: (Nat.toDigits 16 c.toNat ++ ['\x7d'])

/-- One character, escaped if it is a backslash or the quote `quote`, if it cannot be seen or if it
would change the look of its neighbour. -/
def escapedUnder (quote c : Char) : List Char :=
  if c = '\x00' then ['\\', '0']
  else if c = '\t' then ['\\', 't']
  else if c = '\r' then ['\\', 'r']
  else if c = '\n' then ['\\', 'n']
  else if c = '\\' || c = quote then ['\\', c]
  else if isUnprintable c || isExtender c then codePointEscape c
  else [c]

/-- One character as a message shows it between single quotes. Both kinds of quote are escaped. -/
def escapedChar (c : Char) : String :=
  String.ofList (if c = '"' then ['\\', '"'] else escapedUnder '\'' c)

/-- A text between double quotes. Single quotes stand as they are. -/
def quoted (text : String) : String :=
  String.ofList ('"' :: (text.toList.flatMap (escapedUnder '"') ++ ['"']))

end AddressGrammar.Text
