import AddressGrammar.Proofs.Text.Agreement
import AddressGrammar.Proofs.Text.Spans

/-!
# Texts inside texts

A text that stands inside another one looks the same from there as it does on its own, as long as
nothing behind its end is read: it has the same bytes, characters begin at the same places in it, and
the text between two of its offsets is the same. What is read at its end differs, since there it goes
on with whatever follows it.

## Main definitions

* `Placed` — a text stands inside another one, at an offset

## Main results

* `Placed.byteAt?_eq`, `Placed.classAt_eq`, `Placed.slice?_eq` — reading inside it
-/

namespace AddressGrammar.Text

/-- At that offset of the second text stands the first one. -/
def Placed (s t : String) (off : Nat) : Prop :=
  ∃ before behind, t = before ++ s ++ behind ∧ before.utf8ByteSize = off

/-- All of a text lies between its two ends. -/
theorem slice?_all (s : String) : slice? s 0 s.utf8ByteSize = some s := by
  rw [slice?_eq_dite, dif_pos ⟨String.Pos.Raw.isValid_zero, String.Pos.Raw.isValid_rawEndPos,
    Nat.zero_le _⟩, Option.some.injEq, ← String.toByteArray_inj, String.toByteArray_extract]
  exact ByteArray.extract_zero_size

namespace Placed

variable {s t : String} {off i start stop : Nat}

theorem byteAt?_eq (h : Placed s t off) (hi : i < s.utf8ByteSize) :
    byteAt? t (off + i) = byteAt? s i := by
  obtain ⟨before, behind, rfl, rfl⟩ := h
  rw [byteAt?_eq_getElem?, byteAt?_eq_getElem?, bytes_append, bytes_append,
    List.append_assoc, List.getElem?_append_right (by simp), length_bytes,
    Nat.add_sub_cancel_left, List.getElem?_append_left (by simpa using hi)]

theorem classAt_eq (h : Placed s t off) (hi : i < s.utf8ByteSize) (c : ByteClass) :
    classAt t c (off + i) = classAt s c i := by
  rw [classAt, classAt, h.byteAt?_eq hi]

theorem size_le (h : Placed s t off) : off + s.utf8ByteSize ≤ t.utf8ByteSize := by
  obtain ⟨before, behind, rfl, rfl⟩ := h
  simp only [String.utf8ByteSize_append]
  omega

/-- Characters begin at the same places. -/
theorem isValid_iff (h : Placed s t off) (hi : i ≤ s.utf8ByteSize) :
    (⟨off + i⟩ : String.Pos.Raw).IsValid t ↔ (⟨i⟩ : String.Pos.Raw).IsValid s := by
  constructor
  · intro hv
    rcases Nat.lt_or_eq_of_le hi with hlt | rfl
    · have hsize := h.size_le
      rw [isValid_iff_byteAt? (by omega), h.byteAt?_eq hlt] at hv
      exact (isValid_iff_byteAt? hlt).mpr hv
    · exact String.Pos.Raw.isValid_rawEndPos
  · intro hv
    obtain ⟨before, behind, rfl, rfl⟩ := h
    obtain ⟨s₁, s₂, rfl, hp⟩ := String.Pos.Raw.isValid_iff_exists_append.mp hv
    obtain rfl : i = s₁.utf8ByteSize := congrArg String.Pos.Raw.byteIdx hp
    refine String.Pos.Raw.isValid_iff_exists_append.mpr
      ⟨before ++ s₁, s₂ ++ behind, by simp only [String.append_assoc], ?_⟩
    ext
    simp

theorem extract_eq (h : Placed s t off) (hstop : stop ≤ s.utf8ByteSize) :
    t.toByteArray.extract (off + start) (off + stop) = s.toByteArray.extract start stop := by
  have hsize := h.size_le
  refine ByteArray.ext_getElem ?_ fun i hi hi' => ?_
  · simp only [ByteArray.size_extract, String.size_toByteArray]
    omega
  · simp only [ByteArray.size_extract, String.size_toByteArray] at hi hi'
    have hbyte := h.byteAt?_eq (i := start + i) (by omega)
    rw [byteAt?, byteAt?, dif_pos (by omega), dif_pos (by omega)] at hbyte
    rw [ByteArray.getElem_extract, ByteArray.getElem_extract]
    simp only [Nat.add_assoc]
    exact Option.some.inj hbyte

theorem slice?_eq (h : Placed s t off) (hstart : start ≤ s.utf8ByteSize)
    (hstop : stop ≤ s.utf8ByteSize) : slice? t (off + start) (off + stop) = slice? s start stop := by
  have hv := h.isValid_iff hstart
  have hv' := h.isValid_iff hstop
  rw [slice?_eq_dite, slice?_eq_dite]
  split
  · next hc =>
    have hle : start ≤ stop := Nat.le_of_add_le_add_left hc.2.2
    rw [dif_pos ⟨hv.mp hc.1, hv'.mp hc.2.1, hle⟩, Option.some.injEq, ← String.toByteArray_inj,
      String.toByteArray_extract, String.toByteArray_extract]
    exact h.extract_eq hstop
  · next hc =>
    rw [dif_neg fun hc' => hc ⟨hv.mpr hc'.1, hv'.mpr hc'.2.1, Nat.add_le_add_left hc'.2.2 _⟩]

/-- The text itself is found there. -/
theorem slice?_self (h : Placed s t off) : slice? t off (off + s.utf8ByteSize) = some s :=
  (h.slice?_eq (Nat.zero_le _) (Nat.le_refl _)).trans (slice?_all s)

end Placed

end AddressGrammar.Text
