import AddressGrammar.Text.BidiClass

/-!
# Writing directions in host names

A name with letters or numbers that are written from right to left could be displayed so that its
labels run into each other. Every label of such a name therefore has one direction, which its first
character decides, begins and ends with characters that keep it inside that direction, and does not
mix two kinds of numbers if it is written from right to left. The rule asks nothing of other names.

## Main definitions

* `isLeftToRightLabel`, `isRightToLeftLabel` — the two kinds of labels
* `hasRightToLeft` — whether a label makes the name one that the rule is for
* `directionsFit` — whether the labels of a name follow the rule
-/

namespace AddressGrammar.Hostname

open Text

/-- The class of the last character of a label that is no mark. -/
def lastClass? (classes : List BidiClass) : Option BidiClass :=
  (classes.reverse.dropWhile (· = .nonspacingMark)).head?

/-- Whether a class is that of signs and marks that labels of both directions may have. -/
def isNeutral : BidiClass → Bool
  | .europeanSeparator | .commonSeparator | .europeanTerminator | .otherNeutral
  | .boundaryNeutral | .nonspacingMark => true
  | _ => false

/-- Whether characters of these classes form a label that is written from left to right. -/
def isLeftToRightLabel (classes : List BidiClass) : Bool :=
  classes.head? = some .leftToRight &&
    classes.all (fun k => k = .leftToRight || k = .europeanNumber || isNeutral k) &&
    (lastClass? classes).any (fun k => k = .leftToRight || k = .europeanNumber)

/-- Whether characters of a class are written from right to left whatever surrounds them. -/
def isRightToLeft : BidiClass → Bool
  | .rightToLeft | .arabicLetter | .arabicNumber => true
  | _ => false

/-- Whether characters of these classes form a label that is written from right to left. -/
def isRightToLeftLabel (classes : List BidiClass) : Bool :=
  classes.head?.any (fun k => k = .rightToLeft || k = .arabicLetter) &&
    classes.all (fun k => isRightToLeft k || k = .europeanNumber || isNeutral k) &&
    (lastClass? classes).any (fun k => isRightToLeft k || k = .europeanNumber) &&
    !(classes.contains .europeanNumber && classes.contains .arabicNumber)

/-- Whether a label has a character that is written from right to left. -/
def hasRightToLeft (label : List Char) : Bool := label.any fun c => isRightToLeft (.ofChar c)

/-- Whether a label has one direction. An empty label has any. -/
def hasOneDirection (label : List Char) : Bool :=
  let classes := label.map .ofChar
  label.isEmpty || isLeftToRightLabel classes || isRightToLeftLabel classes

/-- Whether every label of a name has one direction, unless all of the name is written from left to
right. -/
def directionsFit (labels : List (List Char)) : Bool :=
  !labels.any hasRightToLeft || labels.all hasOneDirection

end AddressGrammar.Hostname
