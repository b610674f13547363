import AddressGrammar.Hostname.International
import AddressGrammar.Proofs.Text.Agreement
import AddressGrammar.Proofs.Text.Spans

/-!
# The bytes of a host name

The policy on domains is asked about characters, the grammar reads bytes. For text in ASCII both are
the same: every byte is a character. Such a text is taken as it stands, so a host name in ASCII
consists of letters, digits, hyphens and dots. In particular nothing in it can be a comment, white
space or a line end.

Text outside ASCII is another matter, and no grammar hands it to a policy.

## Main definitions

* `hostBytes` — the bytes of host names in ASCII

## Main results

* `byteAt?_slice` — a part of a text has the bytes that stand there
* `hostBytes_of_isHostname` — a host name in ASCII consists of these bytes
-/

namespace AddressGrammar

namespace Text

/-- The text between two offsets has the bytes that stand there. -/
theorem byteAt?_slice {s text : String} {start stop : Nat} (h : slice? s start stop = some text)
    (i : Nat) : byteAt? text i = if start + i < stop then byteAt? s (start + i) else none := by
  rw [slice?_eq_dite] at h
  split at h
  · next hv =>
    have hstop : stop ≤ s.utf8ByteSize := hv.2.1.le_rawEndPos
    have hbytes : text.toByteArray = s.toByteArray.extract start stop := by
      rw [← Option.some.inj h, String.toByteArray_extract]
      rfl
    have hsize : text.utf8ByteSize = stop - start := by
      rw [← String.size_toByteArray, hbytes, ByteArray.size_extract, String.size_toByteArray]
      omega
    split
    · next hlt =>
      rw [byteAt?, byteAt?, dif_pos (by omega), dif_pos (by omega)]
      simp only [String.getUTF8Byte, hbytes]
      rw [ByteArray.getElem_extract]
    · rw [byteAt?_eq_none_iff]
      omega
  · cases h

end Text

namespace Hostname

open Text

/-- The bytes of host names in ASCII: hyphens, dots, digits and letters. -/
def hostBytes : ByteClass := ⟨[(45, 46), (48, 57), (65, 90), (97, 122)]⟩

/-- What a name consists of. -/
theorem mem_of_labelsFrom {name : List Char} {n : Nat} {hyphen : Bool}
    (h : labelsFrom n hyphen name = true) :
    ∀ c ∈ name, c = '.' ∨ c = '-' ∨ isLetterOrDigit c = true := by
  induction name generalizing n hyphen with
  | nil => simp
  | cons c cs ih =>
    rw [labelsFrom] at h
    refine List.forall_mem_cons.mpr ?_
    split at h
    · next hc =>
      simp only [Bool.and_eq_true] at h
      exact ⟨.inl hc, ih h.2⟩
    · split at h
      · next hc =>
        simp only [Bool.and_eq_true] at h
        exact ⟨.inr (.inr hc), ih h.2⟩
      · split at h
        · next hc =>
          simp only [Bool.and_eq_true] at h
          exact ⟨.inr (.inl hc), ih h.2⟩
        · cases h

theorem hostBytes_ofNat {c : Char} (h : c = '.' ∨ c = '-' ∨ isLetterOrDigit c = true) :
    hostBytes.contains (UInt8.ofNat c.toNat) = true := by
  rcases h with rfl | rfl | h
  · decide
  · decide
  · have hrange := toNat_of_isAlphanum h
    simp only [hostBytes, ByteClass.contains, List.any_cons, List.any_nil, Bool.or_false,
      Bool.or_eq_true, Bool.and_eq_true, decide_eq_true_eq, UInt8.le_iff_toNat_le,
      UInt8.toNat_ofNat']
    simp only [UInt8.reduceToNat]
    omega

/-- **A host name in ASCII has no other bytes.** -/
theorem hostBytes_of_isHostname {name : String} (h : isHostname name = true)
    (hascii : ∀ i b, byteAt? name i = some b → b < 128) {i : Nat} {b : UInt8}
    (hb : byteAt? name i = some b) : hostBytes.contains b = true := by
  have hbytes : ∀ c ∈ name.toList, ∀ b ∈ String.utf8EncodeChar c, b < 128 := by
    intro c hc b hb
    obtain ⟨i, hi⟩ := exists_byteAt?_iff.mpr ⟨c, hc, hb⟩
    exact hascii i b hi
  have hall : isAscii name.toList = true := by
    rw [isAscii, List.all_eq_true]
    exact fun c hc => decide_eq_true (utf8EncodeChar_of_lt (hbytes c hc)).1
  rw [isHostname, if_pos hall, isAsciiHostname, Bool.and_eq_true] at h
  obtain ⟨c, hc, hbc⟩ := exists_byteAt?_iff.mp ⟨i, hb⟩
  rw [(utf8EncodeChar_of_lt (hbytes c hc)).2, List.mem_singleton] at hbc
  rw [hbc]
  exact hostBytes_ofNat (mem_of_labelsFrom h.2 c hc)

end Hostname

end AddressGrammar
