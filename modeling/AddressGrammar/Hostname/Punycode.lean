/-!
# Punycode

A text in any script is written in letters, digits and hyphens: first its ASCII characters in their
order and a hyphen behind them, then one number per remaining character. The remaining characters
are taken in increasing order of their code points, and each number tells how many insertions that
would be possible in that order are passed over before the next one. A number is written in digits
to the base 36, least significant first, whose thresholds adapt to the numbers before it.

## Main definitions

* `threshold`, `adapt` — where a digit ends a number, and how that adapts
* `writeNumber` — a number in variable-length digits
* `encode`, `decode` — a text in Punycode, and back
-/

namespace AddressGrammar.Hostname.Punycode

/-- The bias before the first number. -/
def firstBias : Nat := 72

/-- The value below which the digit number `k` ends a number. -/
def threshold (bias k : Nat) : Nat := max 1 (min 26 (36 * (k + 1) - bias))

theorem threshold_pos (bias k : Nat) : 1 ≤ threshold bias k := Nat.le_max_left ..

/-- Scales a number down and counts the divisions. -/
def scaleDown (delta : Nat) : Nat × Nat :=
  if 455 < delta then
    let (rest, n) := scaleDown (delta / 35)
    (rest, n + 1)
  else (delta, 0)
termination_by delta
decreasing_by exact Nat.div_lt_self (by omega) (by decide)

/-- The bias behind a number `delta` that was the first or not, when `points` characters are in
place. -/
def adapt (delta points : Nat) (first : Bool) : Nat :=
  let delta := if first then delta / 700 else delta / 2
  let (rest, n) := scaleDown (delta + delta / points)
  36 * n + 36 * rest / (rest + 38)

/-- The character of a digit. -/
def digit (d : Nat) : Char := Char.ofNat (if d < 26 then 'a'.toNat + d else '0'.toNat + d - 26)

/-- The value of a digit. -/
def digitValue? (c : Char) : Option Nat :=
  if c.isLower then some (c.toNat - 'a'.toNat)
  else if c.isUpper then some (c.toNat - 'A'.toNat)
  else if c.isDigit then some (c.toNat - '0'.toNat + 26)
  else none

/-- A number in digits from digit number `k` on. -/
def writeNumber (bias k n : Nat) : List Char :=
  if n < threshold bias k then [digit n]
  else
    let base := 36 - threshold bias k
    let rest := n - threshold bias k
    digit (threshold bias k + rest % base) :: writeNumber bias (k + 1) (rest / base)
termination_by n
decreasing_by
  have h := threshold_pos bias k
  exact Nat.lt_of_le_of_lt (Nat.div_le_self ..) (by omega)

/-- How far the encoding of a text has come. -/
structure Encoding where
  /-- What is written, the last character first. -/
  written : List Char
  /-- The number of characters in place. -/
  points : Nat
  /-- Insertions passed over since the last number. -/
  delta : Nat
  /-- The bias for the next number. -/
  bias : Nat
  /-- Whether no number is written yet. -/
  first : Bool

/-- Passes one character of the text while those with the code point `code` are put in place. -/
def Encoding.pass (code : Nat) (e : Encoding) (c : Char) : Encoding :=
  if c.toNat < code then { e with delta := e.delta + 1 }
  else if c.toNat = code then
    { written := (writeNumber e.bias 0 e.delta).reverse ++ e.written
      points := e.points + 1
      delta := 0
      bias := adapt e.delta (e.points + 1) e.first
      first := false }
  else e

/-- Puts all characters in place whose code points are listed, in increasing order, the next one to
try being `next`. -/
def Encoding.place (text : List Char) : Nat → List Nat → Encoding → Encoding
  | _, [], e => e
  | next, code :: codes, e =>
    let e := { e with delta := e.delta + (code - next) * (e.points + 1) }
    let e := text.foldl (Encoding.pass code) e
    place text (code + 1) codes { e with delta := e.delta + 1 }

/-- A text in Punycode. -/
def encode (text : List Char) : List Char :=
  let ascii := text.filter (·.toNat < 128)
  let codes := ((text.filter (128 ≤ ·.toNat)).map Char.toNat).mergeSort.eraseReps
  let start : Encoding :=
    { written := if ascii.isEmpty then [] else '-' :: ascii.reverse
      points := ascii.length
      delta := 0
      bias := firstBias
      first := true }
  (Encoding.place text 128 codes start).written.reverse

/-- How far the decoding of a text has come. -/
structure Decoding where
  /-- The characters in place. -/
  text : List Char
  /-- The code point of the next insertion. -/
  code : Nat
  /-- The offset of the next insertion. -/
  offset : Nat
  /-- The bias of the number being read. -/
  bias : Nat
  /-- The value of its digits so far. -/
  number : Nat
  /-- The weight of its next digit. -/
  weight : Nat
  /-- The number of its digits so far. -/
  digits : Nat
  /-- Whether it is the first number. -/
  first : Bool

/-- The insertion that a complete number stands for. -/
def Decoding.insert? (d : Decoding) (number : Nat) : Option Decoding :=
  let points := d.text.length + 1
  let code := d.code + (d.offset + number) / points
  let offset := (d.offset + number) % points
  if code.isValidChar then
    some {
      text := d.text.insertIdx offset (Char.ofNat code)
      code
      offset := offset + 1
      bias := adapt number points d.first
      number := 0
      weight := 1
      digits := 0
      first := false }
  else none

/-- Reads the digits of all numbers. -/
def Decoding.read? (d : Decoding) : List Char → Option (List Char)
  | [] => if d.digits = 0 then some d.text else none
  | c :: cs =>
    match digitValue? c with
    | none => none
    | some v =>
      let number := d.number + v * d.weight
      let t := threshold d.bias d.digits
      if v < t then
        match d.insert? number with
        | some d => d.read? cs
        | none => none
      else { d with number, weight := d.weight * (36 - t), digits := d.digits + 1 }.read? cs

/-- The text that is written in Punycode, if the numbers in it make sense. The last hyphen ends its
ASCII characters, of which there is at least one then. -/
def decode (written : List Char) : Option (List Char) :=
  let tail := (written.reverse.takeWhile (· ≠ '-')).reverse
  let ascii := written.take (written.length - tail.length - 1)
  if ascii.all (·.toNat < 128) && (ascii.isEmpty → tail = written) then
    Decoding.read?
      { text := ascii, code := 128, offset := 0, bias := firstBias, number := 0, weight := 1,
        digits := 0, first := true } tail
  else none

end AddressGrammar.Hostname.Punycode
