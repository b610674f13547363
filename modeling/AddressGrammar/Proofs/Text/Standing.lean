import AddressGrammar.Proofs.Text.Placement

/-!
# Texts that stand at an offset

A text that is put together from parts is read part by part. Where one part stands is where the one
before it ends, so a reader that is followed through such a text needs to know of an offset only which
text stands there. What stands behind that text is not asked about.

## Main definitions

* `StandsAt` — at that offset the input goes on with a text

## Main results

* `standsAt_append` — two texts, one behind the other
-/

namespace AddressGrammar.Text

/-- At that offset the input goes on with the text. -/
def StandsAt (input : String) (p : Nat) (text : String) : Prop :=
  spelledAt input p (bytes text) = true

variable {input s t : String} {p : Nat}

theorem spelledAt_cons {b : UInt8} {l : List UInt8} :
    spelledAt input p (b :: l) = true ↔ byteAt? input p = some b ∧ spelledAt input (p + 1) l = true := by
  rw [spelledAt, Bool.and_eq_true, beq_iff_eq]

theorem spelledAt_concat {l l' : List UInt8} :
    spelledAt input p (l ++ l') = true ↔
      spelledAt input p l = true ∧ spelledAt input (p + l.length) l' = true := by
  induction l generalizing p with
  | nil => exact (and_iff_right rfl).symm
  | cons b l ih =>
    rw [List.cons_append, spelledAt_cons, spelledAt_cons, ih, List.length_cons, Nat.add_right_comm,
      and_assoc, Nat.add_assoc]

/-- Where bytes of a class are spelled, there are bytes of that class. -/
theorem classAt_of_spelledAt {c : ByteClass} {l : List UInt8} (hl : spelledAt input p l = true)
    (hc : ∀ b ∈ l, c.contains b = true) {i : Nat} (hi : p ≤ i) (hi' : i < p + l.length) :
    classAt input c i = true := by
  induction l generalizing p with
  | nil => exact absurd hi' (Nat.not_lt_of_le hi)
  | cons b l ih =>
    obtain ⟨hp, hl⟩ := spelledAt_cons.mp hl
    obtain ⟨hb, hc⟩ := List.forall_mem_cons.mp hc
    rcases Nat.eq_or_lt_of_le hi with rfl | hlt
    · exact classAt_of_byteAt? hp hb
    · rw [List.length_cons] at hi'
      exact ih hl hc hlt (by omega)

/-- **Two texts stand at an offset, one behind the other.** -/
theorem standsAt_append : StandsAt input p (s ++ t) ↔
    StandsAt input p s ∧ StandsAt input (p + s.utf8ByteSize) t := by
  rw [StandsAt, bytes_append, spelledAt_concat, length_bytes]
  rfl

/-- Where a text of two parts ends. -/
theorem add_size_append (p : Nat) (s t : String) :
    p + (s ++ t).utf8ByteSize = p + s.utf8ByteSize + t.utf8ByteSize := by
  rw [String.utf8ByteSize_append, Nat.add_assoc]

theorem standsAt_empty : StandsAt input p "" := rfl

/-- What the bytes from an offset on begin with is spelled there. -/
theorem spelledAt_of_prefix {w : List UInt8} (h : w <+: (bytes s).drop p) :
    spelledAt s p w = true := by
  induction w generalizing p with
  | nil => rfl
  | cons b w ih =>
    have hlt : p < (bytes s).length := by
      refine Nat.lt_of_not_le fun hle => ?_
      rw [List.drop_eq_nil_of_le hle, List.prefix_nil] at h
      cases h
    rw [List.drop_eq_getElem_cons hlt] at h
    obtain ⟨hb, hw⟩ := List.cons_prefix_cons.mp h
    refine spelledAt_cons.mpr ⟨?_, ih hw⟩
    rw [byteAt?_eq_getElem?, List.getElem?_eq_getElem hlt, ← hb]

/-- A text stands at its beginning. -/
theorem standsAt_self (s : String) : StandsAt s 0 s :=
  spelledAt_of_prefix List.prefix_rfl

/-- A stretch of a text is spelled where it begins. -/
theorem spelledAt_bytesBetween (s : String) (p q : Nat) :
    spelledAt s p (bytesBetween s p q) = true :=
  spelledAt_of_prefix (List.take_prefix ..)

/-- A stretch inside a text is as long as it says. -/
theorem length_bytesBetween {q : Nat} (p : Nat) (hq : q ≤ s.utf8ByteSize) :
    (bytesBetween s p q).length = q - p := by
  rw [bytesBetween, List.length_take, List.length_drop, length_bytes]
  omega

/-- Where a text stands whose bytes are of a class, there are bytes of that class. -/
theorem StandsAt.classAt (h : StandsAt input p s) {c : ByteClass}
    (hc : ∀ b ∈ bytes s, c.contains b = true) {i : Nat} (hi : p ≤ i)
    (hi' : i < p + s.utf8ByteSize) : Text.classAt input c i = true :=
  classAt_of_spelledAt h hc hi (by rwa [length_bytes])

/-- The first byte of a text is the byte at its offset. -/
theorem StandsAt.byteAt? (h : StandsAt input p s) {b : UInt8} {l : List UInt8}
    (hs : bytes s = b :: l) : Text.byteAt? input p = some b := by
  rw [StandsAt, hs] at h
  exact (spelledAt_cons.mp h).1

end AddressGrammar.Text
