import AddressGrammar.Text.CombiningClass
import AddressGrammar.Text.JoiningType

/-!
# Joiners in host names

A joiner or a non-joiner cannot be seen, so a label may have one only where it changes the shapes of
the letters beside it. Either of them does so behind a sign that silences a vowel. A non-joiner does
so too between two letters that would be joined without it.

## Main definitions

* `changesShape` — whether a joiner or a non-joiner changes the shapes of its neighbours
* `joinersFit` — whether all of those in a label do
-/

namespace AddressGrammar.Hostname

open Text

/-- Whether a joiner or a non-joiner `c` changes the shapes of its neighbours. Those before it are
given with the last one first. -/
def changesShape (before : List Char) (c : Char) (behind : List Char) : Bool :=
  before.head?.any isVirama ||
    (c = nonJoiner &&
      (before.dropWhile isTransparent).head?.any joinsNext &&
      (behind.dropWhile isTransparent).head?.any joinsPrevious)

/-- Whether all joiners and non-joiners in the rest of a label change the shapes of their
neighbours. The characters before the rest are given with the last one first. -/
def joinersFitFrom (before : List Char) : List Char → Bool
  | [] => true
  | c :: cs =>
    ((c ≠ joiner && c ≠ nonJoiner) || changesShape before c cs) && joinersFitFrom (c :: before) cs

/-- Whether all joiners and non-joiners in a label change the shapes of their neighbours. -/
def joinersFit (label : List Char) : Bool := joinersFitFrom [] label

end AddressGrammar.Hostname
