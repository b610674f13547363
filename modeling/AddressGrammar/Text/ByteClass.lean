/-!
# Classes of bytes

A byte class is a finite list of closed intervals. Every set of bytes has such a list, and a class
stays data: it can be compared, printed and searched, which a predicate cannot.

## Main definitions

* `ByteClass`, `ByteClass.contains` — a class and its members
* `ByteClass.single`, `ByteClass.range`, `ByteClass.all`, `ByteClass.ofText` — the classes in use
-/

namespace AddressGrammar.Text

/-- A set of bytes, listed as closed intervals. The intervals may overlap and may be empty. -/
structure ByteClass where
  /-- The first and the last byte of each interval. -/
  intervals : List (UInt8 × UInt8)
  deriving DecidableEq

namespace ByteClass

/-- Whether one of the intervals holds the byte. -/
def contains (c : ByteClass) (b : UInt8) : Bool :=
  c.intervals.any fun i => decide (i.1 ≤ b) && decide (b ≤ i.2)

/-- The class of one byte. -/
def single (b : UInt8) : ByteClass := ⟨[(b, b)]⟩

/-- The bytes from `lo` to `hi`, none when `hi < lo`. -/
def range (lo hi : UInt8) : ByteClass := ⟨[(lo, hi)]⟩

/-- Every byte. -/
def all : ByteClass := range 0 255

/-- The bytes below 128. -/
def ascii : ByteClass := range 0 127

/-- The bytes that spell the text. -/
def ofText (text : String) : ByteClass :=
  ⟨text.toByteArray.data.toList.map fun b => (b, b)⟩

@[simp] theorem contains_single (a b : UInt8) : (single a).contains b = decide (b = a) := by
  have h : (a ≤ b ∧ b ≤ a) ↔ b = a :=
    ⟨fun ⟨h₁, h₂⟩ => UInt8.le_antisymm h₂ h₁, fun h => h ▸ ⟨UInt8.le_refl _, UInt8.le_refl _⟩⟩
  simp [single, contains, h, ← Bool.decide_and]

@[simp] theorem contains_range (lo hi b : UInt8) :
    (range lo hi).contains b = (decide (lo ≤ b) && decide (b ≤ hi)) := by
  simp [range, contains]

end ByteClass

end AddressGrammar.Text
