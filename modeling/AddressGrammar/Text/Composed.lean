import AddressGrammar.Text.CombiningClass
import AddressGrammar.Text.Composition

/-!
# Composed text

One text can be spelled in several ways: with a composed character or with its parts, and with the
marks of different combining classes behind a letter in any order. The composed form is the same
for all of them. It is made in three steps. Every character is taken apart; the marks behind a
letter are put into the order of their classes; then every letter is composed with what stands
behind it, as far as that is possible. A mark reaches the letter only if no mark that stays between
the two has its class or a higher one.

A Hangul syllable is composed of a leading consonant, a vowel and perhaps a trailing consonant. The
syllables are numbered by their parts, of which the trailing consonant counts fastest.

## Main definitions

* `syllableParts?`, `composeSyllable?` — Hangul syllables and their parts
* `decomposed` — a text whose characters are taken apart and whose marks are in order
* `composed` — the composed form of a text
-/

namespace AddressGrammar.Text

/-! ### Hangul syllables -/

/-- The first syllable. -/
def firstSyllable : Nat := 0xac00

/-- The first leading consonant. -/
def firstLead : Nat := 0x1100

/-- The number of leading consonants. -/
def leadCount : Nat := 19

/-- The first vowel. -/
def firstVowel : Nat := 0x1161

/-- The number of vowels. -/
def vowelCount : Nat := 21

/-- What a syllable without a trailing consonant has instead of one. -/
def noTail : Nat := 0x11a7

/-- The number of ways to end a syllable: without a trailing consonant or with one. -/
def tailCount : Nat := 28

/-- Whether a code point is one of `count` code points from `first` on. -/
def isAmong (first count n : Nat) : Bool := first ≤ n && n < first + count

/-- The parts of a syllable. -/
def syllableParts? (c : Char) : Option (List Char) :=
  if isAmong firstSyllable (leadCount * vowelCount * tailCount) c.toNat then
    let s := c.toNat - firstSyllable
    let lead := firstLead + s / tailCount / vowelCount
    let vowel := firstVowel + s / tailCount % vowelCount
    let tail := if s % tailCount = 0 then [] else [noTail + s % tailCount]
    some ((lead :: vowel :: tail).map Char.ofNat)
  else none

/-- The syllable that is composed of two characters: of a leading consonant and a vowel, or of a
syllable without a trailing consonant and such a consonant. -/
def composeSyllable? (first second : Char) : Option Char :=
  let a := first.toNat
  let b := second.toNat
  if isAmong firstLead leadCount a && isAmong firstVowel vowelCount b then
    some (Char.ofNat
      (firstSyllable + ((a - firstLead) * vowelCount + (b - firstVowel)) * tailCount))
  else if isAmong firstSyllable (leadCount * vowelCount * tailCount) a &&
      (a - firstSyllable) % tailCount = 0 && isAmong (noTail + 1) (tailCount - 1) b then
    some (Char.ofNat (a + (b - noTail)))
  else none

/-! ### Taking apart -/

/-- Puts a character in front of a text whose marks are in order. -/
def insertMark (c : Char) : List Char → List Char
  | [] => [c]
  | d :: ds =>
    if 0 < combiningClass d && combiningClass d < combiningClass c then d :: insertMark c ds
    else c :: d :: ds

/-- Puts the marks behind every letter into the order of their classes. Marks of one class keep
their order. -/
def orderMarks (text : List Char) : List Char := text.foldr insertMark []

/-- A text whose characters are taken apart and whose marks are in order. -/
def decomposed (text : List Char) : List Char :=
  orderMarks (text.flatMap fun c => (syllableParts? c).getD (partsOf c))

/-! ### Composing -/

/-- Whether a mark is in reach of the letter behind which the marks `between` stay, the last one
first. -/
def isInReach (between : List Char) (c : Char) : Bool :=
  between.head?.all fun d => combiningClass d < combiningClass c

/-- Composes a text that begins with the letter `letter`, behind which the marks `between` stay, the
last one first. -/
def composeFrom (letter : Char) (between : List Char) : List Char → List Char
  | [] => letter :: between.reverse
  | c :: cs =>
    match if isInReach between c then composeSyllable? letter c <|> compose? letter c else none with
    | some d => composeFrom d between cs
    | none =>
      if combiningClass c = 0 then letter :: (between.reverse ++ composeFrom c [] cs)
      else composeFrom letter (c :: between) cs

/-- The composed form of a text. -/
def composed (text : List Char) : List Char :=
  match decomposed text with
  | [] => []
  | c :: cs => composeFrom c [] cs

end AddressGrammar.Text
