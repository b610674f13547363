import AddressGrammar.Proofs.Text.Columns
import AddressGrammar.Proofs.Text.Placement
import Mathlib.Order.Bounds.Defs

/-!
# Lines and columns, read back

A line and a column are counted in the text before an offset: line feeds for the line, characters
behind the last of them for the column. Lines are cut out of the whole text. The two have to fit
together, and the test is to go back: the lines above, each with its line feed, and the characters of
the line in front of the column are the text before the offset. So a place determines its offset, and
where characters begin, a later offset has a later place.

An offset inside a character has the place of that character, and one behind the end has the place of
the end. Going back from there leads to the largest offset below at which a character begins.

## Main definitions

* `Locates` — a line and a column spell out the text before an offset

## Main results

* `pieces_eq_splitOn` — the lines of a text are its parts between line feeds
* `lines_above_append_lastLine` — the lines above and a part of the line are the text before
* `lineColumn_lt_lineColumn` — places are in the order of their offsets
* `lines_and_columns` — all of it for a text, with what is shown of a line
-/

namespace AddressGrammar.Text

variable {cs ds : List Char} {input : String} {offset b : Nat}

/-- A line and a column, both counted from one, spell out the text before an offset: the lines above,
each with its line feed, and the characters of the line in front of the column. -/
structure Locates (input : String) (place : Nat × Nat) (b : Nat) : Prop where
  line_pos : 1 ≤ place.1
  column_pos : 1 ≤ place.2
  spells : ∃ line, (input.toList.splitOn '\n')[place.1 - 1]? = some line ∧
    place.2 - 1 ≤ line.length ∧
    slice? input 0 b = some (.ofList
      (((input.toList.splitOn '\n').take (place.1 - 1)).flatMap (· ++ ['\n']) ++
        line.take (place.2 - 1)))

/-! ### Lines -/

/-- The lines of a text are its parts between line feeds. -/
theorem pieces_eq_splitOn (cs : List Char) : pieces cs = cs.splitOn '\n' := by
  induction cs with
  | nil => rw [List.splitOn_nil, pieces]
  | cons c cs ih =>
    by_cases hc : c = '\n'
    · rw [hc, pieces_cons_newline, ih, List.splitOn_cons_eq_if_modifyHead, if_pos (beq_self_eq_true _)]
    · obtain ⟨line, rest, hpieces, hcons⟩ := exists_pieces_cons cs hc
      rw [hcons, List.splitOn_cons_eq_if_modifyHead, if_neg (by simpa using hc), ← ih, hpieces,
        List.modifyHead_cons]

/-- **The lines above and a part of the line are the text before.** There are as many lines above as
line feeds before. -/
theorem lines_above_append_lastLine (cs ds : List Char) :
    ((pieces (cs ++ ds)).take (cs.count '\n')).flatMap (· ++ ['\n']) ++ lastLine cs = cs := by
  induction cs with
  | nil => rfl
  | cons c cs ih =>
    rw [List.cons_append, lastLine_cons]
    by_cases hc : c = '\n'
    · subst hc
      rw [pieces_cons_newline, List.count_cons_self, List.take_succ_cons, List.flatMap_cons,
        if_neg (by simp), List.append_assoc, ih, List.nil_append, List.singleton_append]
    · obtain ⟨line, rest, hpieces, hcons⟩ := exists_pieces_cons (cs ++ ds) hc
      rw [hcons, List.count_cons_of_ne hc]
      rw [hpieces] at ih
      by_cases hmem : '\n' ∈ cs
      · obtain ⟨n, hn⟩ := Nat.exists_eq_succ_of_ne_zero (List.count_pos_iff.mpr hmem).ne'
        rw [hn, List.take_succ_cons, List.flatMap_cons] at ih ⊢
        rw [if_neg fun h => h.2 hmem, List.cons_append, List.cons_append, List.cons_append, ih]
      · rw [List.count_eq_zero.mpr hmem, List.take_zero] at ih ⊢
        rw [if_pos ⟨hc, hmem⟩, List.flatMap_nil, List.nil_append]
        rw [List.flatMap_nil, List.nil_append] at ih
        rw [ih]

/-- A line goes on to the right as long as there is no line feed. -/
theorem lastLine_append_of_not_mem (h : '\n' ∉ ds) : lastLine (cs ++ ds) = lastLine cs ++ ds := by
  have hall : ∀ d ∈ ds.reverse, decide (d ≠ '\n') = true := by
    intro d hd
    rw [decide_eq_true_eq]
    exact fun heq => h (heq ▸ List.mem_reverse.mp hd)
  rw [lastLine, List.reverse_append, List.takeWhile_append_of_pos hall, List.reverse_append,
    List.reverse_reverse, lastLine]

/-- What is shown of a line is the line up to a carriage return at its end. -/
theorem dropReturn_cases (cs : List Char) :
    cs = dropReturn cs ++ ['\r'] ∨ cs = dropReturn cs ∧ cs.getLast? ≠ some '\r' := by
  by_cases hlast : cs.getLast? = some '\r'
  · obtain ⟨ds, rfl⟩ := List.getLast?_eq_some_iff.mp hlast
    rw [dropReturn, if_pos hlast, List.dropLast_concat]
    exact .inl rfl
  · rw [dropReturn, if_neg hlast]
    exact .inr ⟨rfl, hlast⟩

/-! ### Offsets -/

/-- The text before an offset, and what is behind. -/
theorem exists_splitAtOffset (input : String) (offset : Nat) :
    ∃ s t, input = s ++ t ∧ (splitAtOffset offset input.toList).1 = s.toList := by
  refine ⟨.ofList (splitAtOffset offset input.toList).1,
    .ofList (splitAtOffset offset input.toList).2, ?_, String.toList_ofList.symm⟩
  rw [← String.toList_inj, String.toList_append, String.toList_ofList, String.toList_ofList,
    splitAtOffset_append]

theorem size_utf8Encode_toList (s : String) : s.toList.utf8Encode.size = s.utf8ByteSize := by
  rw [String.utf8Encode_toList, String.size_toByteArray]

/-- A beginning of a text is not longer than the text. -/
theorem utf8ByteSize_le_of_isPrefix {s t : String} (h : s.toList <+: t.toList) :
    s.utf8ByteSize ≤ t.utf8ByteSize := by
  obtain ⟨rest, hrest⟩ := h
  rw [← size_utf8Encode_toList, ← size_utf8Encode_toList, ← hrest, List.utf8Encode_append,
    ByteArray.size_append]
  exact Nat.le_add_right ..

/-- **The text before an offset ends at the last place at or before it where a character begins** or
the text ends. -/
theorem isGreatest_splitAtOffset {s t : String}
    (hs : (splitAtOffset offset (s ++ t).toList).1 = s.toList) :
    IsGreatest {b | (⟨b⟩ : String.Pos.Raw).IsValid (s ++ t) ∧ b ≤ min offset (s ++ t).utf8ByteSize}
      s.utf8ByteSize := by
  constructor
  · have hle := size_splitAtOffset offset (s ++ t).toList
    rw [hs, size_utf8Encode_toList] at hle
    refine ⟨String.Pos.Raw.isValid_iff_exists_append.mpr ⟨s, t, rfl, rfl⟩, Nat.le_min.mpr ⟨hle, ?_⟩⟩
    rw [String.utf8ByteSize_append]
    exact Nat.le_add_right ..
  · rintro b ⟨hv, hb⟩
    obtain ⟨s', t', happend, hsize⟩ := String.Pos.Raw.isValid_iff_exists_append.mp hv
    obtain rfl : b = s'.utf8ByteSize := congrArg String.Pos.Raw.byteIdx hsize
    have hshort : s'.toList.utf8Encode.size ≤ offset := by
      rw [size_utf8Encode_toList]
      exact (Nat.le_min.mp hb).1
    have hbegin : s'.toList <+: (s ++ t).toList := by
      rw [happend, String.toList_append]
      exact List.prefix_append ..
    exact utf8ByteSize_le_of_isPrefix (hs ▸ isPrefix_splitAtOffset hbegin hshort)

/-! ### Places -/

/-- **The place of an offset spells out the text before it.** -/
theorem locates_lineColumn {s t : String}
    (hs : (splitAtOffset offset (s ++ t).toList).1 = s.toList) :
    Locates (s ++ t) (lineColumn (s ++ t) offset) s.utf8ByteSize := by
  rw [lineColumn, hs]
  refine ⟨Nat.le_add_left .., Nat.le_add_left ..,
    lastLine s.toList ++ t.toList.takeWhile (· ≠ '\n'), ?_, ?_, ?_⟩
  · rw [Nat.add_sub_cancel, ← pieces_eq_splitOn, String.toList_append]
    exact getElem?_pieces_count s.toList t.toList
  · rw [Nat.add_sub_cancel, List.length_append]
    exact Nat.le_add_right ..
  · have hplaced : Placed s (s ++ t) 0 := ⟨"", t, by rw [String.empty_append], rfl⟩
    have hslice := hplaced.slice?_self
    rw [Nat.zero_add] at hslice
    rw [hslice, Nat.add_sub_cancel, Nat.add_sub_cancel, List.take_left, ← pieces_eq_splitOn,
      String.toList_append, lines_above_append_lastLine, String.ofList_toList]

/-- **A later offset has a later place**, where characters begin. -/
theorem lineColumn_lt_lineColumn {b₁ b₂ : Nat} (h₁ : (⟨b₁⟩ : String.Pos.Raw).IsValid input)
    (h₂ : (⟨b₂⟩ : String.Pos.Raw).IsValid input) (hlt : b₁ < b₂) :
    Prod.Lex (· < ·) (· < ·) (lineColumn input b₁) (lineColumn input b₂) := by
  obtain ⟨s₁, t₁, happend₁, hsize₁⟩ := String.Pos.Raw.isValid_iff_exists_append.mp h₁
  obtain ⟨s₂, t₂, happend₂, hsize₂⟩ := String.Pos.Raw.isValid_iff_exists_append.mp h₂
  obtain rfl : b₁ = s₁.utf8ByteSize := congrArg String.Pos.Raw.byteIdx hsize₁
  obtain rfl : b₂ = s₂.utf8ByteSize := congrArg String.Pos.Raw.byteIdx hsize₂
  have hsplit₁ : (splitAtOffset s₁.utf8ByteSize input.toList).1 = s₁.toList := by
    rw [happend₁, splitAtOffset_size]
  have hsplit₂ : (splitAtOffset s₂.utf8ByteSize input.toList).1 = s₂.toList := by
    rw [happend₂, splitAtOffset_size]
  have hbegin : s₁.toList <+: input.toList := by
    rw [happend₁, String.toList_append]
    exact List.prefix_append ..
  -- The earlier text is a beginning of the later one, and what is between them is not empty.
  obtain ⟨between, hbetween⟩ : s₁.toList <+: s₂.toList := by
    rw [← hsplit₂]
    refine isPrefix_splitAtOffset hbegin ?_
    rw [size_utf8Encode_toList]
    exact Nat.le_of_lt hlt
  have hne : between ≠ [] := by
    rintro rfl
    rw [List.append_nil, String.toList_inj] at hbetween
    exact Nat.lt_irrefl _ (hbetween ▸ hlt)
  rw [lineColumn, lineColumn, hsplit₁, hsplit₂, ← hbetween]
  by_cases hmem : '\n' ∈ between
  · refine .left _ _ ?_
    have hcount := List.count_pos_iff.mpr hmem
    rw [List.count_append]
    omega
  · rw [List.count_append, List.count_eq_zero.mpr hmem, lastLine_append_of_not_mem hmem]
    refine .right _ ?_
    have hlength := List.length_pos_of_ne_nil hne
    rw [List.length_append]
    omega

/-! ### The text of a line -/

theorem toList_lineText {line : List Char} {n : Nat}
    (h : (input.toList.splitOn '\n')[n]? = some line) :
    (lineText input (n + 1)).toList = dropReturn line := by
  rw [lineText, Nat.add_sub_cancel, pieces_eq_splitOn, h, Option.map_some, Option.getD_some,
    String.toList_ofList]

theorem lineText_of_length_lt {n : Nat} (h : (input.toList.splitOn '\n').length < n) :
    lineText input n = "" := by
  rw [lineText, pieces_eq_splitOn, List.getElem?_eq_none (Nat.le_sub_one_of_lt h), Option.map_none,
    Option.getD_none, String.ofList_nil]

/-- **Lines and columns fit the lines of a text.** The line and the column of an offset spell out the
text before the last place at or before it where a character begins or the text ends. Such places
have lines and columns in their own order. The text of a line, counted from one, is the line without
one carriage return at its end, and there is none behind the last line. -/
theorem lines_and_columns (input : String) :
    (∀ offset, ∃ b, IsGreatest {b | (⟨b⟩ : String.Pos.Raw).IsValid input ∧
        b ≤ min offset input.utf8ByteSize} b ∧ Locates input (lineColumn input offset) b) ∧
      (∀ b₁ b₂, (⟨b₁⟩ : String.Pos.Raw).IsValid input → (⟨b₂⟩ : String.Pos.Raw).IsValid input →
        b₁ < b₂ → Prod.Lex (· < ·) (· < ·) (lineColumn input b₁) (lineColumn input b₂)) ∧
      (∀ n line, (input.toList.splitOn '\n')[n]? = some line →
        line = (lineText input (n + 1)).toList ++ ['\r'] ∨
          line = (lineText input (n + 1)).toList ∧ line.getLast? ≠ some '\r') ∧
      ∀ n, (input.toList.splitOn '\n').length < n → lineText input n = "" := by
  refine ⟨fun offset => ?_, fun b₁ b₂ => lineColumn_lt_lineColumn, fun n line hline => ?_,
    fun n => lineText_of_length_lt⟩
  · obtain ⟨s, t, rfl, hs⟩ := exists_splitAtOffset input offset
    exact ⟨s.utf8ByteSize, isGreatest_splitAtOffset hs, locates_lineColumn hs⟩
  · rw [toList_lineText hline]
    exact dropReturn_cases line

/-- Three lines, of which the first ends with a carriage return and the last is empty. The offset 2
lies inside the accented letter and has its place. -/
theorem lines_and_columns_accent :
    (∃ b, IsGreatest {b | (⟨b⟩ : String.Pos.Raw).IsValid "aé\r\nb\n" ∧ b ≤ min 2 7} b ∧
      Locates "aé\r\nb\n" (1, 2) b) ∧
    Prod.Lex (· < ·) (· < ·) (lineColumn "aé\r\nb\n" 3) (lineColumn "aé\r\nb\n" 5) ∧
    (['a', 'é', '\r'] = (lineText "aé\r\nb\n" 1).toList ++ ['\r'] ∨
      ['a', 'é', '\r'] = (lineText "aé\r\nb\n" 1).toList ∧
        ['a', 'é', '\r'].getLast? ≠ some '\r') ∧
    lineText "aé\r\nb\n" 4 = "" := by
  obtain ⟨hplaces, horder, hlines, hbehind⟩ := lines_and_columns "aé\r\nb\n"
  have hplace : lineColumn "aé\r\nb\n" 2 = (1, 2) := by decide +kernel
  refine ⟨hplace ▸ hplaces 2, horder 3 5 (by decide +kernel) (by decide +kernel) (by decide),
    hlines 0 _ (by decide +kernel), hbehind 4 (by decide +kernel)⟩

end AddressGrammar.Text
