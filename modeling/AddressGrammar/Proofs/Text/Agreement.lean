import AddressGrammar.Text.Bytes
import AddressGrammar.Text.Lines

/-!
# Texts that begin alike

Two texts whose bytes are the same up to some offset, and that both go on at least to that byte,
cannot be told apart by reading no further. That holds for single bytes and for runs of bytes, but
also for what looks at characters: whether a character begins at an offset shows in the byte there,
and a text between two offsets, a line and a column are made of the characters that end before.

## Main definitions

* `Agree` — two texts have the same bytes up to an offset

## Main results

* `Agree.classAt_eq`, `Agree.runEnd_eq`, `Agree.slice?_eq` — reading up to that offset
* `Agree.lineColumn_eq` — the line and the column of the offset
-/

namespace AddressGrammar.Text

/-- The bytes of two texts are the same up to the one at an offset, which both texts have. -/
structure Agree (s t : String) (n : Nat) : Prop where
  lt : n < s.utf8ByteSize
  byteAt?_eq : ∀ i ≤ n, byteAt? t i = byteAt? s i

namespace Agree

variable {s t : String} {n i : Nat}

theorem lt_right (h : Agree s t n) : n < t.utf8ByteSize := by
  refine Nat.lt_of_not_le fun hle => ?_
  have hnone := h.byteAt?_eq n (Nat.le_refl n)
  rw [byteAt?_eq_none_iff.mpr hle] at hnone
  exact Nat.not_le_of_lt h.lt (byteAt?_eq_none_iff.mp hnone.symm)

theorem symm (h : Agree s t n) : Agree t s n :=
  ⟨h.lt_right, fun i hi => (h.byteAt?_eq i hi).symm⟩

/-! ### Bytes -/

theorem classAt_eq (h : Agree s t n) (hi : i ≤ n) (c : ByteClass) :
    classAt t c i = classAt s c i := by
  rw [classAt, classAt, h.byteAt?_eq i hi]

/-- A run that ends by the offset ends at the same place, however far the texts go on. -/
theorem skipAtMost_eq (h : Agree s t n) {c : ByteClass} {k m : Nat}
    (hs : s.utf8ByteSize - i ≤ k) (ht : t.utf8ByteSize - i ≤ m) (he : skipAtMost s c k i ≤ n) :
    skipAtMost t c m i = skipAtMost s c k i := by
  have hlt := h.lt
  have hlt' := h.lt_right
  induction k generalizing i m with
  | zero =>
    have hi : i ≤ n := he
    omega
  | succ k ih =>
    have hi : i ≤ n := Nat.le_trans (le_skipAtMost s c (k + 1) i) he
    obtain ⟨m, rfl⟩ : ∃ j, m = j + 1 := ⟨m - 1, by omega⟩
    rw [skipAtMost, skipAtMost, h.classAt_eq hi]
    rw [skipAtMost] at he
    by_cases hc : classAt s c i = true
    · rw [if_pos hc] at he ⊢
      rw [if_pos hc]
      exact ih (by omega) (by omega) he
    · rw [if_neg hc, if_neg hc]

theorem runEnd_eq (h : Agree s t n) {c : ByteClass} (he : runEnd s c i ≤ n) :
    runEnd t c i = runEnd s c i :=
  h.skipAtMost_eq (Nat.le_refl _) (Nat.le_refl _) he

/-! ### Characters -/

theorem extract_eq (h : Agree s t n) {a b : Nat} (hb : b ≤ n + 1) :
    t.toByteArray.extract a b = s.toByteArray.extract a b := by
  have hs : n < s.utf8ByteSize := h.lt
  have ht : n < t.utf8ByteSize := h.lt_right
  refine ByteArray.ext_getElem ?_ fun i hi hi' => ?_
  · simp only [ByteArray.size_extract, String.size_toByteArray]
    omega
  · simp only [ByteArray.size_extract, String.size_toByteArray] at hi hi'
    have hbyte := h.byteAt?_eq (a + i) (by omega)
    rw [byteAt?, byteAt?, dif_pos (by omega), dif_pos (by omega)] at hbyte
    rw [ByteArray.getElem_extract, ByteArray.getElem_extract]
    exact Option.some.inj hbyte

end Agree

/-- A character begins where there is a byte that begins one. -/
theorem isValid_iff_byteAt? {s : String} {i : Nat} (hi : i < s.utf8ByteSize) :
    (⟨i⟩ : String.Pos.Raw).IsValid s ↔ ∃ b, byteAt? s i = some b ∧ b.IsUTF8FirstByte := by
  have hend : (⟨i⟩ : String.Pos.Raw) ≠ s.rawEndPos :=
    fun heq => Nat.ne_of_lt hi (congrArg String.Pos.Raw.byteIdx heq)
  rw [String.Pos.Raw.isValid_iff_isUTF8FirstByte, or_iff_right hend, byteAt?, dif_pos hi]
  constructor
  · rintro ⟨_, hb⟩
    exact ⟨_, rfl, hb⟩
  · rintro ⟨b, hb, hfirst⟩
    cases hb
    exact ⟨hi, hfirst⟩

theorem pos?_eq {s : String} {i : Nat} :
    s.pos? ⟨i⟩ = if h : (⟨i⟩ : String.Pos.Raw).IsValid s then some (s.pos ⟨i⟩ h) else none := by
  by_cases h : (⟨i⟩ : String.Pos.Raw).IsValid s
  · rw [dif_pos h, String.pos?, String.Slice.pos?, dif_pos (by simpa using h)]
    rfl
  · rw [dif_neg h, String.pos?, String.Slice.pos?, dif_neg (by simpa using h)]
    rfl

/-- A text lies between two offsets in order where characters begin. -/
theorem slice?_eq_dite {s : String} {start stop : Nat} :
    slice? s start stop =
      if h : (⟨start⟩ : String.Pos.Raw).IsValid s ∧ (⟨stop⟩ : String.Pos.Raw).IsValid s ∧ start ≤ stop then
        some (s.extract (s.pos ⟨start⟩ h.1) (s.pos ⟨stop⟩ h.2.1))
      else none := by
  rw [slice?, pos?_eq, pos?_eq]
  by_cases ha : (⟨start⟩ : String.Pos.Raw).IsValid s
  · by_cases hb : (⟨stop⟩ : String.Pos.Raw).IsValid s
    · by_cases hle : start ≤ stop <;> simp [ha, hb, hle]
    · simp [ha, hb]
  · simp [ha]

namespace Agree

variable {s t : String} {n i : Nat}

/-- Whether a character begins at an offset shows in the byte there. -/
theorem isValid_iff (h : Agree s t n) (hi : i ≤ n) :
    (⟨i⟩ : String.Pos.Raw).IsValid t ↔ (⟨i⟩ : String.Pos.Raw).IsValid s := by
  rw [isValid_iff_byteAt? (Nat.lt_of_le_of_lt hi h.lt_right),
    isValid_iff_byteAt? (Nat.lt_of_le_of_lt hi h.lt), h.byteAt?_eq i hi]

theorem slice?_eq (h : Agree s t n) {start stop : Nat} (hstop : stop ≤ n) :
    slice? t start stop = slice? s start stop := by
  rw [slice?_eq_dite, slice?_eq_dite]
  by_cases hle : start ≤ stop
  · have hstart := h.isValid_iff (Nat.le_trans hle hstop)
    have hstop' := h.isValid_iff hstop
    split
    · next hv =>
      rw [dif_pos ⟨hstart.mp hv.1, hstop'.mp hv.2.1, hle⟩, Option.some.injEq,
        ← String.toByteArray_inj, String.toByteArray_extract, String.toByteArray_extract]
      exact h.extract_eq (by simpa using Nat.le_succ_of_le hstop)
    · next hv =>
      rw [dif_neg fun hv' => hv ⟨hstart.mpr hv'.1, hstop'.mpr hv'.2.1, hle⟩]
  · rw [dif_neg fun hv => hle hv.2.2, dif_neg fun hv => hle hv.2.2]

end Agree

/-! ### Lines and columns -/

theorem size_utf8Encode_cons (c : Char) (cs : List Char) :
    (c :: cs).utf8Encode.size = c.utf8Size + cs.utf8Encode.size := by
  rw [List.utf8Encode_cons, ByteArray.size_append]
  simp [List.utf8Encode_singleton]

theorem size_splitAtOffset (n : Nat) (cs : List Char) :
    (splitAtOffset n cs).1.utf8Encode.size ≤ n := by
  induction cs generalizing n with
  | nil => simp [splitAtOffset]
  | cons c cs ih =>
    rw [splitAtOffset]
    split
    · next hc =>
      have := ih (n - c.utf8Size)
      rw [size_utf8Encode_cons]
      omega
    · simp

/-- Every beginning that short is a beginning of the part that is split off. -/
theorem isPrefix_splitAtOffset {n : Nat} {p cs : List Char} (hp : p <+: cs)
    (hn : p.utf8Encode.size ≤ n) : p <+: (splitAtOffset n cs).1 := by
  induction p generalizing n cs with
  | nil => exact List.nil_prefix
  | cons c p ih =>
    obtain ⟨rest, rfl⟩ := hp
    rw [size_utf8Encode_cons] at hn
    rw [List.cons_append, splitAtOffset, if_pos (by omega)]
    exact List.cons_prefix_cons.mpr ⟨rfl, ih ⟨rest, rfl⟩ (by omega)⟩

namespace Agree

variable {s t : String} {n : Nat}

/-- A beginning that ends by the offset is a beginning of both texts. -/
theorem isPrefix (h : Agree s t n) {p : List Char} (hp : p <+: s.toList)
    (hn : p.utf8Encode.size ≤ n + 1) : p <+: t.toList := by
  obtain ⟨rest, hrest⟩ := hp
  have hs : s.toByteArray = p.utf8Encode ++ rest.utf8Encode := by
    rw [← List.utf8Encode_append, hrest, String.utf8Encode_toList]
  have hbegin : t.toByteArray.extract 0 p.utf8Encode.size = p.utf8Encode := by
    rw [h.extract_eq hn, hs]
    exact ByteArray.extract_append_eq_left rfl
  have hsize : p.utf8Encode.size ≤ t.toByteArray.size := by
    have := h.lt_right
    rw [String.size_toByteArray]
    omega
  refine List.isPrefix_of_utf8Encode_append_eq_utf8Encode
    (t.toByteArray.extract p.utf8Encode.size t.toByteArray.size) ?_
  calc p.utf8Encode ++ t.toByteArray.extract p.utf8Encode.size t.toByteArray.size
      = t.toByteArray.extract 0 p.utf8Encode.size ++
          t.toByteArray.extract p.utf8Encode.size t.toByteArray.size := by rw [hbegin]
    _ = t.toByteArray.extract 0 t.toByteArray.size :=
        (ByteArray.extract_eq_extract_append_extract _ (Nat.zero_le _) hsize).symm
    _ = t.toList.utf8Encode := by rw [ByteArray.extract_zero_size, String.utf8Encode_toList]

/-- The characters before the offset are the same. -/
theorem splitAtOffset_eq (h : Agree s t n) :
    (splitAtOffset n t.toList).1 = (splitAtOffset n s.toList).1 := by
  have hle : ∀ {s t : String}, Agree s t n →
      (splitAtOffset n s.toList).1 <+: (splitAtOffset n t.toList).1 := by
    intro s t h
    have hsize := size_splitAtOffset n s.toList
    exact isPrefix_splitAtOffset (h.isPrefix ⟨_, splitAtOffset_append n s.toList⟩ (by omega)) hsize
  exact (hle h.symm).eq_of_length_le (hle h).length_le

theorem lineColumn_eq (h : Agree s t n) : lineColumn t n = lineColumn s n := by
  rw [lineColumn, lineColumn, h.splitAtOffset_eq]

end Agree

end AddressGrammar.Text
