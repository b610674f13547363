import AddressGrammar.Text.Bytes

/-!
# Stretches of bytes

What a rule matches is the stretch of the input between two offsets. It is a list of bytes and need
not be a text, since an offset may fall inside a character. Two facts make up for that. Stretches
that follow one another are appended, so a property of words can be followed through a grammar. And
a stretch of bytes below 128 consists of whole characters: if a character begins where it begins, one
begins where it ends, or the text is over.

## Main definitions

* `bytes`, `bytesBetween` — the bytes of a text, and those between two offsets
* `ByteClass.includes` — a class holds the bytes of another one
* `holdsAscii`, `AsciiBetween` — classes and stretches of bytes below 128

## Main results

* `bytesBetween_append` — stretches that follow one another
* `AsciiBetween.isValid` — a stretch of bytes below 128 ends where a character ends
* `toNat_lt_of_ascii` — a text of such bytes is a text of such characters
-/

namespace AddressGrammar.Text

variable {s : String} {p q i : Nat}

/-- The bytes of a text. -/
def bytes (s : String) : List UInt8 := s.toByteArray.data.toList

/-- The bytes of a text between two offsets. -/
def bytesBetween (s : String) (p q : Nat) : List UInt8 := ((bytes s).drop p).take (q - p)

@[simp] theorem length_bytes (s : String) : (bytes s).length = s.utf8ByteSize := by
  simp [bytes]

theorem byteAt?_eq_getElem? (s : String) (i : Nat) : byteAt? s i = (bytes s)[i]? := by
  by_cases h : i < s.utf8ByteSize
  · rw [byteAt?, dif_pos h, List.getElem?_eq_getElem (by simpa using h)]
    rfl
  · rw [byteAt?, dif_neg h, List.getElem?_eq_none (by simpa using h)]

@[simp] theorem bytes_append (s t : String) : bytes (s ++ t) = bytes s ++ bytes t := by
  simp [bytes]

theorem byteAt?_size_append (s t : String) : byteAt? (s ++ t) s.utf8ByteSize = byteAt? t 0 := by
  rw [byteAt?_eq_getElem?, bytes_append, List.getElem?_append_right (by simp), length_bytes,
    Nat.sub_self, ← byteAt?_eq_getElem?]

/-- The bytes of a text are those of its characters. -/
theorem bytes_eq_flatMap (s : String) : bytes s = s.toList.flatMap String.utf8EncodeChar := by
  rw [bytes, ← String.utf8Encode_toList, List.utf8Encode]
  simp

/-! ### Stretches -/

@[simp] theorem bytesBetween_self (s : String) (p : Nat) : bytesBetween s p p = [] := by
  simp [bytesBetween]

/-- All of a text is a stretch of it. -/
@[simp] theorem bytesBetween_all (s : String) : bytesBetween s 0 s.utf8ByteSize = bytes s := by
  rw [bytesBetween, List.drop_zero, Nat.sub_zero, ← length_bytes, List.take_length]

/-- Stretches that follow one another are appended. -/
theorem bytesBetween_append (h : p ≤ i) (h' : i ≤ q) :
    bytesBetween s p i ++ bytesBetween s i q = bytesBetween s p q := by
  have hdrop : (bytes s).drop i = ((bytes s).drop p).drop (i - p) := by
    rw [List.drop_drop, Nat.add_sub_cancel' h]
  rw [bytesBetween, bytesBetween, bytesBetween, hdrop, ← List.take_add]
  congr 1
  omega

theorem bytesBetween_succ {b : UInt8} (h : byteAt? s p = some b) :
    bytesBetween s p (p + 1) = [b] := by
  rw [byteAt?_eq_getElem?] at h
  obtain ⟨hlt, rfl⟩ := List.getElem?_eq_some_iff.mp h
  rw [bytesBetween, Nat.add_sub_cancel_left, List.drop_eq_getElem_cons hlt]
  rfl

/-! ### Larger classes -/

/-- Whether every interval of the second class lies in one of the first class. -/
def ByteClass.includes (d c : ByteClass) : Bool :=
  c.intervals.all fun i => d.intervals.any fun j => decide (j.1 ≤ i.1) && decide (i.2 ≤ j.2)

theorem classAt_of_includes {s : String} {c d : ByteClass} {i : Nat} (hdc : d.includes c = true)
    (hc : classAt s c i = true) : classAt s d i = true := by
  obtain ⟨b, hb, hmem⟩ := (Option.any_eq_true _ _).mp hc
  obtain ⟨j, hj, hin⟩ := List.any_eq_true.mp hmem
  obtain ⟨k, hk, hjk⟩ := List.any_eq_true.mp (List.all_eq_true.mp hdc j hj)
  simp only [Bool.and_eq_true, decide_eq_true_eq] at hin hjk
  refine (Option.any_eq_true _ _).mpr ⟨b, hb, List.any_eq_true.mpr ⟨k, hk, ?_⟩⟩
  simp only [Bool.and_eq_true, decide_eq_true_eq]
  exact ⟨UInt8.le_trans hjk.1 hin.1, UInt8.le_trans hin.2 hjk.2⟩

/-! ### Bytes below 128 -/

/-- Whether a class holds bytes below 128 only. -/
def holdsAscii (c : ByteClass) : Bool := c.intervals.all fun i => decide (i.2 < 128)

/-- The bytes between two positions are below 128. -/
def AsciiBetween (input : String) (p q : Nat) : Prop :=
  ∀ i b, p ≤ i → i < q → byteAt? input i = some b → b < 128

theorem AsciiBetween.refl (p : Nat) : AsciiBetween s p p := fun _ _ hpi hip =>
  absurd hip (Nat.not_lt.mpr hpi)

theorem AsciiBetween.trans (h : AsciiBetween s p i) (h' : AsciiBetween s i q) :
    AsciiBetween s p q := by
  intro k b hpk hkq hb
  rcases Nat.lt_or_ge k i with hlt | hle
  · exact h k b hpk hlt hb
  · exact h' k b hle hkq hb

theorem asciiBetween_of_classAt {c : ByteClass} (hc : holdsAscii c = true)
    (h : classAt s c p = true) : AsciiBetween s p (p + 1) := by
  intro i b hpi hi hb
  obtain rfl : i = p := by omega
  obtain ⟨b', hb', hmem⟩ := (Option.any_eq_true _ _).mp h
  cases hb.symm.trans hb'
  obtain ⟨j, hj, hjb⟩ := List.any_eq_true.mp hmem
  simp only [Bool.and_eq_true, decide_eq_true_eq] at hjb
  exact UInt8.lt_of_le_of_lt hjb.2 (of_decide_eq_true (List.all_eq_true.mp hc j hj))

/-! ### Characters -/

/-- ASCII letters and digits are three ranges of code points. -/
theorem toNat_of_isAlphanum {c : Char} (h : c.isAlphanum = true) :
    65 ≤ c.toNat ∧ c.toNat ≤ 90 ∨ 97 ≤ c.toNat ∧ c.toNat ≤ 122 ∨ 48 ≤ c.toNat ∧ c.toNat ≤ 57 := by
  have hbounds : ∀ a b : UInt32, a ≤ c.val → c.val ≤ b → a.toNat ≤ c.toNat ∧ c.toNat ≤ b.toNat :=
    fun a b ha hb => ⟨UInt32.le_iff_toNat_le.mp ha, UInt32.le_iff_toNat_le.mp hb⟩
  rcases Bool.or_eq_true_iff.mp h with halpha | hdigit
  · rcases Bool.or_eq_true_iff.mp halpha with hupper | hlower
    · obtain ⟨ha, hb⟩ := of_decide_eq_true hupper
      exact .inl (hbounds 65 90 ha hb)
    · obtain ⟨ha, hb⟩ := Bool.and_eq_true_iff.mp hlower
      exact .inr (.inl (hbounds 97 122 (of_decide_eq_true ha) (of_decide_eq_true hb)))
  · obtain ⟨ha, hb⟩ := Bool.and_eq_true_iff.mp hdigit
    exact .inr (.inr (hbounds 48 57 (of_decide_eq_true ha) (of_decide_eq_true hb)))

/-- A character whose first byte is below 128 has no other byte. -/
theorem utf8Size_of_head {c : Char} {b : UInt8} (h : (String.utf8EncodeChar c)[0]? = some b)
    (hb : b < 128) : c.utf8Size = 1 := by
  have hhead : ∀ n, 192 ≤ n → n < 256 → ¬UInt8.ofNat n < 128 := by
    intro n hn hn' hlt
    rw [UInt8.lt_iff_toNat_lt] at hlt
    simp only [UInt8.toNat_ofNat', UInt8.reduceToNat] at hlt
    omega
  rw [← String.length_utf8EncodeChar]
  rw [String.utf8EncodeChar] at h ⊢
  split at h
  · next hc =>
    rw [if_pos hc]
    rfl
  · split at h
    · cases h
      exact absurd hb (hhead _ (by omega) (by omega))
    · split at h
      · cases h
        exact absurd hb (hhead _ (by omega) (by omega))
      · cases h
        exact absurd hb (hhead _ (by omega) (by omega))

/-- A text that begins with a byte below 128 begins with the character of that byte. -/
theorem exists_singleton_append {b : UInt8} (hbyte : byteAt? s 0 = some b) (hb : b < 128) :
    ∃ c rest, s = String.singleton c ++ rest ∧ String.utf8EncodeChar c = [b] := by
  rw [byteAt?_eq_getElem?, bytes_eq_flatMap] at hbyte
  cases hchars : s.toList with
  | nil => simp [hchars] at hbyte
  | cons c cs =>
    rw [hchars, List.flatMap_cons, List.getElem?_append_left
      (by rw [String.length_utf8EncodeChar]; exact c.utf8Size_pos)] at hbyte
    have hlength : (String.utf8EncodeChar c).length = 1 := by
      rw [String.length_utf8EncodeChar, utf8Size_of_head hbyte hb]
    obtain ⟨b', hb'⟩ := List.length_eq_one_iff.mp hlength
    rw [hb', List.getElem?_cons_zero, Option.some.injEq] at hbyte
    refine ⟨c, String.ofList cs, ?_, hbyte ▸ hb'⟩
    rw [← String.toList_inj]
    simp [hchars]

/-- Behind a character of a byte below 128 the next one begins, or the text is over. -/
theorem isValid_succ {b : UInt8} (hv : (⟨p⟩ : String.Pos.Raw).IsValid s)
    (hbyte : byteAt? s p = some b) (hb : b < 128) : (⟨p + 1⟩ : String.Pos.Raw).IsValid s := by
  obtain ⟨s₁, s₂, rfl, hp⟩ := String.Pos.Raw.isValid_iff_exists_append.mp hv
  obtain rfl : p = s₁.utf8ByteSize := congrArg String.Pos.Raw.byteIdx hp
  rw [byteAt?_size_append] at hbyte
  obtain ⟨c, rest, rfl, hc⟩ := exists_singleton_append hbyte hb
  have hsize : c.utf8Size = 1 := by rw [← String.length_utf8EncodeChar, hc, List.length_singleton]
  refine String.Pos.Raw.isValid_iff_exists_append.mpr
    ⟨s₁ ++ String.singleton c, rest, by rw [String.append_assoc], ?_⟩
  ext
  simp [hsize]

/-- **A stretch of bytes below 128 ends where a character ends**, if it begins where one begins. -/
theorem AsciiBetween.isValid (h : AsciiBetween s p q) (hpq : p ≤ q) (hq : q ≤ s.utf8ByteSize)
    (hv : (⟨p⟩ : String.Pos.Raw).IsValid s) : (⟨q⟩ : String.Pos.Raw).IsValid s := by
  induction hpq with
  | refl => exact hv
  | @step q hpq ih =>
    have hlt : q < s.utf8ByteSize := hq
    obtain ⟨b, hb⟩ : ∃ b, byteAt? s q = some b := ⟨_, dif_pos hlt⟩
    have hq' := ih (fun i b hpi hiq => h i b hpi (Nat.lt_succ_of_lt hiq)) (Nat.le_of_lt hlt)
    exact isValid_succ hq' hb (h q b hpq (Nat.lt_succ_self q) hb)

/-- A character whose bytes are all below 128 is a single byte, since the last byte of any other is
not. -/
theorem utf8EncodeChar_of_lt {c : Char} (h : ∀ b ∈ String.utf8EncodeChar c, b < 128) :
    c.toNat < 128 ∧ String.utf8EncodeChar c = [UInt8.ofNat c.toNat] := by
  have hlast : ∀ n, ¬UInt8.ofNat (n % 64 + 128) < 128 := by
    intro n hn
    rw [UInt8.lt_iff_toNat_lt] at hn
    simp only [UInt8.toNat_ofNat', UInt8.reduceToNat] at hn
    omega
  rw [String.utf8EncodeChar] at h ⊢
  split at h
  · next hc =>
    rw [if_pos hc]
    exact ⟨Nat.lt_succ_of_le hc, rfl⟩
  · split at h
    · exact absurd (h _ (by simp)) (hlast c.val.toNat)
    · split at h
      · exact absurd (h _ (by simp)) (hlast c.val.toNat)
      · exact absurd (h _ (by simp)) (hlast c.val.toNat)

/-- The bytes of a text are those of its characters, wherever they stand. -/
theorem exists_byteAt?_iff {b : UInt8} :
    (∃ i, byteAt? s i = some b) ↔ ∃ c ∈ s.toList, b ∈ String.utf8EncodeChar c := by
  simp only [byteAt?_eq_getElem?]
  rw [← List.mem_iff_getElem?, bytes_eq_flatMap, List.mem_flatMap]

/-- **A text of bytes below 128 is a text of characters below 128.** -/
theorem toNat_lt_of_ascii (h : AsciiBetween s 0 s.utf8ByteSize) : ∀ c ∈ s.toList, c.toNat < 128 := by
  refine fun c hc => (utf8EncodeChar_of_lt fun b hb => ?_).1
  obtain ⟨i, hi⟩ := exists_byteAt?_iff.mpr ⟨c, hc, hb⟩
  exact h i b (Nat.zero_le i) (lt_of_byteAt?_eq_some hi) hi

end AddressGrammar.Text
