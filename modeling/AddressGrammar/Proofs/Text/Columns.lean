import AddressGrammar.Proofs.Text.Agreement
import Mathlib.Data.List.Infix
import Mathlib.Data.List.TakeWhile

/-!
# The character at a line and a column

An offset between two characters splits its text into what is before it and what is behind it. The
line of the offset is then found by counting the line feeds before it, and its column by counting the
characters behind the last of them. Both counts are taken from the text before the offset alone,
while the line is cut out of the whole text. That the character at the offset stands in that line at
that column is what has to be proved. The line also loses a carriage return at its end, which is
behind the character unless it is the character.

## Main results

* `splitAtOffset_size` — the characters before an offset and those behind it
* `getElem?_pieces_count` — the line of an offset
* `getElem?_lineText` — the character at its column
* `pieces_lineText_append` — a line and another one below it
-/

namespace AddressGrammar.Text

variable {cs ds : List Char} {c : Char}

/-! ### Splitting -/

theorem splitAtOffset_size_append (cs ds : List Char) :
    splitAtOffset cs.utf8Encode.size (cs ++ ds) = (cs, ds) := by
  induction cs with
  | nil =>
    cases ds with
    | nil => simp [splitAtOffset]
    | cons d ds =>
      have hpos := d.utf8Size_pos
      simp [splitAtOffset, Nat.not_le_of_lt hpos]
  | cons c cs ih =>
    rw [List.cons_append, splitAtOffset, size_utf8Encode_cons, if_pos (Nat.le_add_right ..),
      Nat.add_sub_cancel_left, ih]

/-- A text is split behind its beginning. -/
theorem splitAtOffset_size (s t : String) :
    splitAtOffset s.utf8ByteSize (s ++ t).toList = (s.toList, t.toList) := by
  have hsize : s.utf8ByteSize = s.toList.utf8Encode.size := by
    rw [String.utf8Encode_toList, String.size_toByteArray]
  rw [hsize, String.toList_append, splitAtOffset_size_append]

/-! ### Lines -/

theorem pieces_cons_newline : pieces ('\n' :: cs) = [] :: pieces cs := by
  simp [pieces]

/-- A character other than a line feed belongs to the first piece. -/
theorem exists_pieces_cons (cs : List Char) (hc : c ≠ '\n') :
    ∃ piece rest, pieces cs = piece :: rest ∧ pieces (c :: cs) = (c :: piece) :: rest := by
  have hne : pieces cs ≠ [] := by
    cases cs with
    | nil => simp [pieces]
    | cons d ds =>
      rw [pieces]
      split
      · simp
      · split <;> simp
  obtain ⟨piece, rest, hpieces⟩ := List.exists_cons_of_ne_nil hne
  exact ⟨piece, rest, hpieces, by simp [pieces, hc, hpieces]⟩

theorem getElem?_pieces_zero (cs : List Char) :
    (pieces cs)[0]? = some (cs.takeWhile (· ≠ '\n')) := by
  induction cs with
  | nil => rfl
  | cons c cs ih =>
    by_cases hc : c = '\n'
    · subst hc
      simp [pieces_cons_newline]
    · obtain ⟨piece, rest, hpieces, hcons⟩ := exists_pieces_cons cs hc
      rw [hpieces, List.getElem?_cons_zero, Option.some.injEq] at ih
      simp [hcons, hc, ih]

/-- A line goes on to the left as long as there is no line feed. -/
theorem lastLine_cons : lastLine (c :: cs) =
    if c ≠ '\n' ∧ '\n' ∉ cs then c :: lastLine cs else lastLine cs := by
  have hwhole : (cs.reverse.takeWhile (· ≠ '\n')).length = cs.reverse.length ↔ '\n' ∉ cs := by
    rw [← List.mem_reverse]
    constructor
    · intro hlength hmem
      have hall := List.IsPrefix.eq_of_length (List.takeWhile_prefix _) hlength
      have hne := List.mem_takeWhile_imp (hall ▸ hmem)
      simp at hne
    · intro hmem
      rw [List.takeWhile_eq_self_iff.mpr]
      intro d hd
      simpa using fun heq : d = '\n' => hmem (heq ▸ hd)
  rw [lastLine, lastLine, List.reverse_cons, List.takeWhile_append]
  by_cases hmem : '\n' ∈ cs
  · rw [if_neg (fun h => hwhole.mp h hmem), if_neg (fun h => h.2 hmem)]
  · have hall := List.IsPrefix.eq_of_length (List.takeWhile_prefix _) (hwhole.mpr hmem)
    rw [if_pos (hwhole.mpr hmem), hall]
    by_cases hc : c = '\n'
    · simp [hc]
    · simp [hc, hmem]

/-- **The line of an offset.** As many line feeds stand before the line as before the offset, and it
consists of what stands on both sides of the offset up to the next line feeds. -/
theorem getElem?_pieces_count (cs ds : List Char) :
    (pieces (cs ++ ds))[cs.count '\n']? = some (lastLine cs ++ ds.takeWhile (· ≠ '\n')) := by
  induction cs with
  | nil => simp [getElem?_pieces_zero, lastLine]
  | cons c cs ih =>
    rw [List.cons_append, lastLine_cons]
    by_cases hc : c = '\n'
    · subst hc
      rw [pieces_cons_newline, List.count_cons_self, List.getElem?_cons_succ, ih, if_neg (by simp)]
    · obtain ⟨piece, rest, hpieces, hcons⟩ := exists_pieces_cons (cs ++ ds) hc
      rw [hcons, List.count_cons_of_ne hc]
      rw [hpieces] at ih
      by_cases hmem : '\n' ∈ cs
      · obtain ⟨n, hn⟩ := Nat.exists_eq_succ_of_ne_zero (List.count_pos_iff.mpr hmem).ne'
        rw [hn, List.getElem?_cons_succ] at ih ⊢
        rw [ih, if_neg fun h => h.2 hmem]
      · rw [List.count_eq_zero.mpr hmem, List.getElem?_cons_zero] at ih ⊢
        rw [if_pos ⟨hc, hmem⟩, Option.some.inj ih]
        rfl

/-! ### Columns -/

/-- A carriage return at the end of a line is not the character in front of it. -/
theorem getElem?_dropReturn (hc : c ≠ '\r') : (dropReturn (cs ++ c :: ds))[cs.length]? = some c := by
  unfold dropReturn
  split
  · next hlast =>
    have hds : ds ≠ [] := by
      rintro rfl
      rw [List.getLast?_append_cons] at hlast
      exact hc (by simpa using hlast)
    rw [List.dropLast_append_cons, List.dropLast_cons_of_ne_nil hds, List.getElem?_append_right
      (Nat.le_refl _)]
    simp
  · simp

/-- **The character at an offset stands in its line at its column.** -/
theorem getElem?_lineText {s t : String} (hcr : c ≠ '\r') (hlf : c ≠ '\n')
    (ht : t.toList.head? = some c) :
    (lineText (s ++ t) (lineColumn (s ++ t) s.utf8ByteSize).1).toList[
      (lineColumn (s ++ t) s.utf8ByteSize).2 - 1]? = some c := by
  obtain ⟨cs, hcs⟩ : ∃ cs, t.toList = c :: cs := by
    cases h : t.toList with
    | nil => simp [h] at ht
    | cons d ds =>
      obtain rfl : d = c := by simpa [h] using ht
      exact ⟨ds, rfl⟩
  have hline : t.toList.takeWhile (· ≠ '\n') = c :: cs.takeWhile (· ≠ '\n') := by
    simp [hcs, hlf]
  rw [lineColumn, splitAtOffset_size, lineText]
  simp only [Nat.add_sub_cancel]
  rw [String.toList_append, getElem?_pieces_count, hline, Option.map_some, Option.getD_some,
    String.toList_ofList]
  exact getElem?_dropReturn hcr

/-! ### A line and another one below it -/

theorem not_mem_of_mem_pieces {piece : List Char} (h : piece ∈ pieces cs) : '\n' ∉ piece := by
  induction cs generalizing piece with
  | nil =>
    obtain rfl : piece = [] := by simpa [pieces] using h
    simp
  | cons c cs ih =>
    by_cases hc : c = '\n'
    · subst hc
      rw [pieces_cons_newline, List.mem_cons] at h
      rcases h with rfl | h
      · simp
      · exact ih h
    · obtain ⟨first, rest, hpieces, hcons⟩ := exists_pieces_cons cs hc
      rw [hcons, List.mem_cons] at h
      rcases h with rfl | h
      · have hfirst := ih (hpieces ▸ List.mem_cons_self ..)
        simpa [Ne.symm hc] using hfirst
      · exact ih (hpieces ▸ List.mem_cons_of_mem _ h)

theorem pieces_of_not_mem (h : '\n' ∉ cs) : pieces cs = [cs] := by
  induction cs with
  | nil => rfl
  | cons c cs ih =>
    obtain ⟨hc, hcs⟩ := List.ne_and_not_mem_of_not_mem_cons h
    simp [pieces, Ne.symm hc, ih hcs]

theorem pieces_append_newline (h : '\n' ∉ cs) : pieces (cs ++ '\n' :: ds) = cs :: pieces ds := by
  induction cs with
  | nil => exact pieces_cons_newline
  | cons c cs ih =>
    obtain ⟨hc, hcs⟩ := List.ne_and_not_mem_of_not_mem_cons h
    simp [pieces, Ne.symm hc, ih hcs]

/-- A line has no line feed in it. -/
theorem not_mem_lineText (input : String) (line : Nat) : '\n' ∉ (lineText input line).toList := by
  rw [lineText, String.toList_ofList]
  cases hpiece : (pieces input.toList)[line - 1]? with
  | none => simp
  | some piece =>
    have hnot := not_mem_of_mem_pieces (List.mem_of_getElem? hpiece)
    rw [Option.map_some, Option.getD_some, dropReturn]
    split
    · exact fun h => hnot (List.mem_of_mem_dropLast h)
    · exact hnot

/-- So a line and something without line feeds below it are two lines. -/
theorem pieces_lineText_append (input : String) (line : Nat) (h : '\n' ∉ cs) :
    pieces ((lineText input line).toList ++ '\n' :: cs) = [(lineText input line).toList, cs] := by
  rw [pieces_append_newline (not_mem_lineText input line), pieces_of_not_mem h]

end AddressGrammar.Text
