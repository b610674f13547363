/-!
# Host names in ASCII

A host name consists of labels with a dot between any two of them. A label has letters, digits and
hyphens, begins and ends with a letter or a digit and is at most 63 characters long; the whole name
is at most 255 characters long. A name is read in one pass from left to right that keeps track of
the label being read.

## Main definitions

* `maxLabelLength`, `maxHostnameLength` — the two limits
* `labelsFrom` — the pass over a name
* `isAsciiHostname` — whether a text is a host name without conversion
-/

namespace AddressGrammar.Hostname

/-- The longest label between two dots. -/
def maxLabelLength : Nat := 63

/-- The longest host name. -/
def maxHostnameLength : Nat := 255

/-- A character that may stand anywhere in a label. -/
def isLetterOrDigit (c : Char) : Bool := c.isAlphanum

/-- Reads on in a name, `n` characters into a label whose last character was a hyphen or not. -/
def labelsFrom (n : Nat) (hyphen : Bool) : List Char → Bool
  | [] => 0 < n && !hyphen
  | c :: cs =>
    if c = '.' then 0 < n && !hyphen && labelsFrom 0 false cs
    else if isLetterOrDigit c then n < maxLabelLength && labelsFrom (n + 1) false cs
    else if c = '-' then 0 < n && n < maxLabelLength && labelsFrom (n + 1) true cs
    else false

/-- Whether a text is a host name as it stands. -/
def isAsciiHostname (name : List Char) : Bool :=
  name.length ≤ maxHostnameLength && labelsFrom 0 false name

end AddressGrammar.Hostname
