import AddressGrammar.Hostname.Directions
import AddressGrammar.Hostname.Form
import AddressGrammar.Hostname.Joiners
import AddressGrammar.Hostname.Labels
import AddressGrammar.Hostname.Punycode
import AddressGrammar.Peg.Policy

/-!
# Internationalized host names

A name with characters outside ASCII is brought to its form and is then converted label by label: a
label that still has characters outside ASCII is written in Punycode behind `xn--`. A label that
begins like that already stands for the text behind it, which has to be in its form. The text of a
label does not begin with a mark, its joiners change the shapes of its letters, and the directions
of all labels fit together.

The rules for host names in ASCII apply to the converted name, so a hyphen at the end of a label in
another script does no harm and its length is that of its Punycode.

## Main definitions

* `labelText?` — the text that a label stands for
* `toAscii?` — the conversion of a name
* `isHostname` — whether a text is a host name, converted if need be
* `policy` — the policy on domains that asks for a host name
-/

namespace AddressGrammar.Hostname

open Text

/-- Whether a text is in ASCII. -/
def isAscii (text : List Char) : Bool := text.all (·.toNat < 128)

/-- The labels of a name: the pieces between its dots. -/
def splitLabels : List Char → List (List Char)
  | [] => [[]]
  | c :: cs =>
    if c = '.' then [] :: splitLabels cs
    else
      match splitLabels cs with
      | label :: rest => (c :: label) :: rest
      | [] => [[c]]

/-- Marks a label that is written in Punycode. -/
def punycodeMark : List Char := ['x', 'n', '-', '-']

/-- The text that a label stands for. A label that is marked as Punycode stands for a text in its
form that could not do without Punycode. -/
def labelText? (label : List Char) : Option (List Char) :=
  if punycodeMark.isPrefixOf label then
    (Punycode.decode (label.drop punycodeMark.length)).filter fun text =>
      !isAscii text && fold? text = some text
  else some label

/-- Whether the text of a label does not begin with a mark and has joiners only where they change
the shapes of letters. -/
def isSoundText (text : List Char) : Bool := !text.head?.any isMark && joinersFit text

/-- The label for a text. -/
def labelOfText (text : List Char) : List Char :=
  if isAscii text then text else punycodeMark ++ Punycode.encode text

/-- A name in ASCII, if it has such a form. -/
def toAscii? (name : List Char) : Option (List Char) := do
  let folded ← fold? name
  let texts ← (splitLabels folded).mapM labelText?
  guard (texts.all isSoundText && directionsFit texts)
  return ['.'].intercalate (texts.map labelOfText)

/-- Whether a text is a host name. A text in ASCII is taken as it stands. -/
def isHostname (name : String) : Bool :=
  if isAscii name.toList then isAsciiHostname name.toList
  else (toAscii? name.toList).any isAsciiHostname

/-- The policy that a domain is a host name. -/
def policy : Peg.Policy := ⟨"domain", isHostname⟩

end AddressGrammar.Hostname
