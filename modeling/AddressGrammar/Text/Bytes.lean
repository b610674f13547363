import AddressGrammar.Text.ByteClass

/-!
# The bytes of a text

Grammars read a text one byte at a time, by offset. A text is kept as a `String`, so an offset may
fall inside a character: reading a byte there is fine, taking the text between two such offsets is
not. Every read of the recognizer goes through the four functions of this module, so what a run can
learn about its input is what they tell.

## Main definitions

* `byteAt?` — the byte at an offset
* `slice?` — the text between two offsets
* `spelledAt` — whether given bytes stand at an offset
* `runEnd` — where a run of bytes of one class ends
-/

namespace AddressGrammar.Text

/-- The byte at offset `i`, absent from the end of the text on. -/
def byteAt? (s : String) (i : Nat) : Option UInt8 :=
  if h : i < s.utf8ByteSize then some (s.getUTF8Byte ⟨i⟩ h) else none

/-- The text between two offsets. It is absent when the offsets are out of order or out of range
and when one of them falls inside a character. -/
def slice? (s : String) (start stop : Nat) : Option String :=
  match s.pos? ⟨start⟩, s.pos? ⟨stop⟩ with
  | some a, some b => if start ≤ stop then some (s.extract a b) else none
  | _, _ => none

/-- Whether the given bytes stand at offset `i`, one after the other. -/
def spelledAt (s : String) (i : Nat) : List UInt8 → Bool
  | [] => true
  | b :: rest => byteAt? s i == some b && spelledAt s (i + 1) rest

/-- Whether the byte at offset `i` exists and belongs to the class. -/
def classAt (s : String) (c : ByteClass) (i : Nat) : Bool :=
  (byteAt? s i).any c.contains

/-- Passes over at most `n` bytes of the class and returns the offset behind them. -/
def skipAtMost (s : String) (c : ByteClass) : Nat → Nat → Nat
  | 0, i => i
  | n + 1, i => if classAt s c i then skipAtMost s c n (i + 1) else i

/-- The offset behind the longest run of bytes of the class that starts at `i`. -/
def runEnd (s : String) (c : ByteClass) (i : Nat) : Nat :=
  skipAtMost s c (s.utf8ByteSize - i) i

theorem byteAt?_eq_none_iff {s : String} {i : Nat} : byteAt? s i = none ↔ s.utf8ByteSize ≤ i := by
  simp [byteAt?]

theorem lt_of_byteAt?_eq_some {s : String} {i : Nat} {b : UInt8} (h : byteAt? s i = some b) :
    i < s.utf8ByteSize := by
  refine Nat.lt_of_not_le fun hle => ?_
  simp [byteAt?_eq_none_iff.2 hle] at h

theorem lt_of_classAt {s : String} {c : ByteClass} {i : Nat} (h : classAt s c i = true) :
    i < s.utf8ByteSize := by
  obtain ⟨b, hb, _⟩ := Option.any_eq_true _ _ |>.1 h
  exact lt_of_byteAt?_eq_some hb

theorem classAt_of_byteAt? {s : String} {c : ByteClass} {i : Nat} {b : UInt8}
    (hb : byteAt? s i = some b) (hmem : c.contains b = true) : classAt s c i = true := by
  rw [classAt, hb, Option.any_some, hmem]

theorem byteAt?_ne_of_classAt {s : String} {c : ByteClass} {i : Nat} {a : UInt8}
    (h : classAt s c i = true) (ha : c.contains a = false) : byteAt? s i ≠ some a := by
  intro hb
  rw [classAt, hb, Option.any_some, ha] at h
  cases h

/-- Every byte of a text belongs to the class of all bytes. -/
theorem classAt_all {s : String} {i : Nat} (h : i < s.utf8ByteSize) :
    classAt s ByteClass.all i = true := by
  have hbyte : (s.getUTF8Byte ⟨i⟩ h).toNat ≤ 255 := Nat.le_of_lt_succ (UInt8.toNat_lt _)
  simpa [classAt, byteAt?, h, ByteClass.all, UInt8.le_iff_toNat_le] using hbyte

/-- Passing over bytes never moves back. -/
theorem le_skipAtMost (s : String) (c : ByteClass) (n i : Nat) : i ≤ skipAtMost s c n i := by
  induction n generalizing i with
  | zero => exact Nat.le_refl i
  | succ n ih =>
    rw [skipAtMost]
    split
    · exact Nat.le_trans (Nat.le_succ i) (ih (i + 1))
    · exact Nat.le_refl i

/-- Passing over bytes never leaves the text. -/
theorem skipAtMost_le (s : String) (c : ByteClass) (n i : Nat) (h : i ≤ s.utf8ByteSize) :
    skipAtMost s c n i ≤ s.utf8ByteSize := by
  induction n generalizing i with
  | zero => exact h
  | succ n ih =>
    rw [skipAtMost]
    split
    · next hc => exact ih (i + 1) (lt_of_classAt hc)
    · exact h

/-- Bytes that are spelled out lie inside the text. -/
theorem add_length_le_of_spelledAt {s : String} {i : Nat} {bytes : List UInt8}
    (h : spelledAt s i bytes = true) (hi : i ≤ s.utf8ByteSize) :
    i + bytes.length ≤ s.utf8ByteSize := by
  induction bytes generalizing i with
  | nil => exact hi
  | cons b rest ih =>
    simp only [spelledAt, Bool.and_eq_true, beq_iff_eq] at h
    have := ih h.2 (lt_of_byteAt?_eq_some h.1)
    rw [List.length_cons]
    omega

end AddressGrammar.Text
