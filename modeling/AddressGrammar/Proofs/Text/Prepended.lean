import AddressGrammar.Proofs.Text.Placement

/-!
# Texts behind other texts

A text that stands at the end of another one looks the same from there as it does on its own: not
only inside it, as everywhere where one text stands in another one, but also at its end and behind
it, since both are over there. So whatever is read from a text, it does not matter what stands before
it, apart from the offsets.

## Main results

* `byteAt?_append`, `classAt_append`, `spelledAt_append`, `runEnd_append`, `slice?_append` — every
  way of reading a text, behind another one
-/

namespace AddressGrammar.Text

variable {u v : String} {i : Nat}

theorem placed_append (u v : String) : Placed v (u ++ v) u.utf8ByteSize :=
  ⟨u, "", by rw [String.append_empty], rfl⟩

theorem byteAt?_append (u v : String) (i : Nat) :
    byteAt? (u ++ v) (u.utf8ByteSize + i) = byteAt? v i := by
  rw [byteAt?_eq_getElem?, byteAt?_eq_getElem?, bytes_append,
    List.getElem?_append_right (by simp), length_bytes, Nat.add_sub_cancel_left]

theorem classAt_append (u v : String) (c : ByteClass) (i : Nat) :
    classAt (u ++ v) c (u.utf8ByteSize + i) = classAt v c i := by
  rw [classAt, classAt, byteAt?_append]

theorem spelledAt_append (u v : String) (i : Nat) (bytes : List UInt8) :
    spelledAt (u ++ v) (u.utf8ByteSize + i) bytes = spelledAt v i bytes := by
  induction bytes generalizing i with
  | nil => rfl
  | cons b rest ih => rw [spelledAt, spelledAt, byteAt?_append, Nat.add_assoc, ih]

theorem skipAtMost_append (u v : String) (c : ByteClass) (n i : Nat) :
    skipAtMost (u ++ v) c n (u.utf8ByteSize + i) = u.utf8ByteSize + skipAtMost v c n i := by
  induction n generalizing i with
  | zero => rfl
  | succ n ih =>
    rw [skipAtMost, skipAtMost, classAt_append, Nat.add_assoc, ih]
    split <;> rfl

theorem runEnd_append (u v : String) (c : ByteClass) (i : Nat) :
    runEnd (u ++ v) c (u.utf8ByteSize + i) = u.utf8ByteSize + runEnd v c i := by
  rw [runEnd, runEnd, skipAtMost_append, String.utf8ByteSize_append, Nat.add_sub_add_left]

/-- Characters begin at the same places, and there are none behind the end. -/
theorem isValid_append :
    (⟨u.utf8ByteSize + i⟩ : String.Pos.Raw).IsValid (u ++ v) ↔ (⟨i⟩ : String.Pos.Raw).IsValid v := by
  refine ⟨fun h => ?_, fun h => ?_⟩
  · have hle : u.utf8ByteSize + i ≤ (u ++ v).utf8ByteSize := h.le_rawEndPos
    rw [String.utf8ByteSize_append] at hle
    exact ((placed_append u v).isValid_iff (by omega)).mp h
  · exact ((placed_append u v).isValid_iff h.le_rawEndPos).mpr h

theorem slice?_append (u v : String) (start stop : Nat) :
    slice? (u ++ v) (u.utf8ByteSize + start) (u.utf8ByteSize + stop) = slice? v start stop := by
  by_cases h : start ≤ v.utf8ByteSize ∧ stop ≤ v.utf8ByteSize
  · exact (placed_append u v).slice?_eq h.1 h.2
  · rw [slice?_eq_dite, slice?_eq_dite, dif_neg, dif_neg]
    · exact fun hc => h ⟨hc.1.le_rawEndPos, hc.2.1.le_rawEndPos⟩
    · exact fun hc =>
        h ⟨(isValid_append.mp hc.1).le_rawEndPos, (isValid_append.mp hc.2.1).le_rawEndPos⟩

end AddressGrammar.Text
