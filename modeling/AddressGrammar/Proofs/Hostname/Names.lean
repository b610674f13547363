import AddressGrammar.Hostname.International
import AddressGrammar.Proofs.Text.DottedText
import Mathlib.Data.List.TakeWhile

/-!
# Host names by their labels

A host name is read in one pass that never looks at a label as a whole: it counts the characters and
remembers whether the last one was a hyphen. What it accepts can be said without reading anything.
Split the name at every dot; each piece is a label. An empty piece is no label, so no dot begins or
ends a name and no two dots stand side by side.

What carries the induction is the part of a label that has been read. It is the beginning of the
first piece of what remains to be split, and it stays a possible beginning of a label for as long as
the pass goes on.

The same names are those that are read in stages: the longest run of label characters is taken first
and only then looked at, and a dot is given back if no label follows it. A run that is refused is
never shortened, and a dot that is given back is left over at the end, so neither can help a name.

## Main definitions

* `BeginsLabel`, `IsLabel` — what a label can begin with, and labels
* `labelRest?`, `furtherRest`, `readInStages` — a name read label by label

## Main results

* `labelsFrom_iff` — the pass accepts a text if every piece between dots is a label
* `readInStages_eq_labelsFrom` — reading in stages makes no difference
* `isHostname_iff_labels` — which texts in ASCII are host names
-/

namespace AddressGrammar.Hostname

open Text List

variable {c : Char} {read label rest cs : List Char}

/-! ### Labels -/

/-- Whether a character may stand in a label. -/
def isLabelChar (c : Char) : Bool := isLetterOrDigit c || c = '-'

/-- What a label can begin with: at most 63 letters, digits and hyphens, no hyphen in front. -/
structure BeginsLabel (read : List Char) : Prop where
  chars : ∀ c ∈ read, isLabelChar c = true
  short : read.length ≤ 63
  first : read.head? ≠ some '-'

/-- A label: 1 to 63 letters, digits and hyphens, with a hyphen neither in front nor at the end. -/
structure IsLabel (label : List Char) : Prop extends BeginsLabel label where
  nonempty : 1 ≤ label.length
  last : label.getLast? ≠ some '-'

instance : DecidablePred IsLabel := fun label =>
  decidable_of_iff ((label.all isLabelChar = true ∧ label.length ≤ 63 ∧ label.head? ≠ some '-') ∧
      1 ≤ label.length ∧ label.getLast? ≠ some '-')
    ⟨fun ⟨⟨hchars, hshort, hfirst⟩, hne, hlast⟩ =>
      ⟨⟨List.all_eq_true.mp hchars, hshort, hfirst⟩, hne, hlast⟩,
      fun h => ⟨⟨List.all_eq_true.mpr h.chars, h.short, h.first⟩, h.nonempty, h.last⟩⟩

theorem BeginsLabel.nil : BeginsLabel [] := ⟨by simp, by simp, by simp⟩

theorem BeginsLabel.of_prefix (h : BeginsLabel label) (hread : read <+: label) :
    BeginsLabel read where
  chars c hc := h.chars c (hread.subset hc)
  short := Nat.le_trans hread.length_le h.short
  first hfirst := by
    obtain ⟨more, rfl⟩ := hread
    exact h.first (by simp [List.head?_append, hfirst])

/-- There is no dot in a label. -/
theorem BeginsLabel.dot_notMem (h : BeginsLabel read) : '.' ∉ read := fun hdot =>
  absurd (h.chars '.' hdot) (by decide)

theorem BeginsLabel.isLabel_iff (h : BeginsLabel read) :
    IsLabel read ↔ 0 < read.length ∧ read.getLast? ≠ some '-' :=
  ⟨fun h => ⟨h.nonempty, h.last⟩, fun hlabel => ⟨h, hlabel.1, hlabel.2⟩⟩

/-- One more character, put behind the beginning of a label. -/
theorem BeginsLabel.concat_iff (h : BeginsLabel read) : BeginsLabel (read ++ [c]) ↔
    isLabelChar c = true ∧ read.length < 63 ∧ (c = '-' → 0 < read.length) := by
  constructor
  · intro hc
    have hshort : read.length + 1 ≤ 63 := by simpa using hc.short
    refine ⟨hc.chars c (by simp), hshort, fun hyphen => ?_⟩
    rcases read with - | ⟨d, ds⟩
    · exact absurd (by simp [hyphen]) hc.first
    · simp
  · rintro ⟨hchar, hshort, hyphen⟩
    refine ⟨?_, by rw [List.length_append]; exact hshort, ?_⟩
    · simpa [or_imp, forall_and] using ⟨h.chars, hchar⟩
    · rcases read with - | ⟨d, ds⟩
      · exact fun hfirst => absurd (hyphen (by simpa using hfirst)) (by simp)
      · simpa using h.first

/-! ### The pass over a name -/

/-- The pass takes a character into the label if that leaves the beginning of a label. -/
theorem labelsFrom_cons_iff (hread : BeginsLabel read) (hc : c ≠ '.') (hyphen : Bool) :
    labelsFrom read.length hyphen (c :: cs) = true ↔ BeginsLabel (read ++ [c]) ∧
      labelsFrom (read.length + 1) (decide (c = '-')) cs = true := by
  rw [labelsFrom, if_neg hc, hread.concat_iff, isLabelChar]
  have hlimit : maxLabelLength = 63 := rfl
  by_cases hhyphen : c = '-'
  · subst hhyphen
    have halnum : isLetterOrDigit '-' = false := by decide
    simp [halnum, hlimit, and_comm, and_assoc]
  · by_cases halnum : isLetterOrDigit c = true <;> simp [halnum, hhyphen, hlimit]

/-- The pieces of a text, with the beginning of a label in front: the first piece begins with it. -/
theorem exists_mem_splitOn_prefix (hread : '.' ∉ read) (cs : List Char) :
    ∃ label ∈ (read ++ cs).splitOn '.', read <+: label := by
  induction cs generalizing read with
  | nil => exact ⟨read, by simp [splitOn_eq_singleton hread], List.prefix_refl _⟩
  | cons c cs ih =>
    by_cases hc : c = '.'
    · subst hc
      exact ⟨read, by simp [splitOn_append_cons_self_of_not_mem hread], List.prefix_refl _⟩
    · have hnext : '.' ∉ read ++ [c] := by simp [hread, Ne.symm hc]
      obtain ⟨label, hmem, hprefix⟩ := ih hnext
      exact ⟨label, by simpa using hmem, (List.prefix_append _ _).trans hprefix⟩

/-- **The pass in the middle of a label.** With the beginning of a label behind it, it accepts the
rest of a text if that beginning and the rest split into labels. -/
theorem labelsFrom_iff (hread : BeginsLabel read) (cs : List Char) :
    labelsFrom read.length (decide (read.getLast? = some '-')) cs = true ↔
      ∀ label ∈ (read ++ cs).splitOn '.', IsLabel label := by
  induction cs generalizing read with
  | nil =>
    rw [List.append_nil, splitOn_eq_singleton hread.dot_notMem]
    simp [labelsFrom, hread.isLabel_iff]
  | cons c cs ih =>
    by_cases hc : c = '.'
    · subst hc
      rw [splitOn_append_cons_self_of_not_mem hread.dot_notMem, List.forall_mem_cons,
        hread.isLabel_iff]
      have hrest := ih BeginsLabel.nil
      simp only [List.length_nil, List.getLast?_nil, List.nil_append] at hrest
      rw [← hrest]
      simp [labelsFrom]
    · have hsplit : read ++ c :: cs = (read ++ [c]) ++ cs := by simp
      rw [labelsFrom_cons_iff hread hc, hsplit]
      constructor
      · rintro ⟨hbegins, hrest⟩
        exact (ih hbegins).mp (by simpa using hrest)
      · intro hlabels
        have hdot : '.' ∉ read ++ [c] := by simp [hread.dot_notMem, Ne.symm hc]
        obtain ⟨label, hmem, hprefix⟩ := exists_mem_splitOn_prefix hdot cs
        have hbegins := (hlabels label hmem).toBeginsLabel.of_prefix hprefix
        exact ⟨hbegins, by simpa using (ih hbegins).mpr hlabels⟩

/-- The pass over a whole name. -/
theorem labelsFrom_zero_iff (cs : List Char) :
    labelsFrom 0 false cs = true ↔ ∀ label ∈ cs.splitOn '.', IsLabel label := by
  simpa using labelsFrom_iff BeginsLabel.nil cs

/-! ### Reading in stages -/

/-- What is left behind a label. The run of label characters is as long as it can be, and is looked
at when it is complete. -/
def labelRest? (cs : List Char) : Option (List Char) :=
  if IsLabel (cs.takeWhile isLabelChar) then some (cs.dropWhile isLabelChar) else none

theorem length_labelRest? (h : labelRest? cs = some rest) : rest.length ≤ cs.length := by
  rw [labelRest?, Option.ite_none_right_eq_some] at h
  obtain ⟨-, h⟩ := h
  exact Option.some.inj h ▸ List.length_dropWhile_le _ _

/-- What is left behind further labels, each with a dot in front. A dot without a label behind it is
given back. -/
def furtherRest : List Char → List Char
  | [] => []
  | c :: cs =>
    if c = '.' then
      match h : labelRest? cs with
      | some rest =>
        have := length_labelRest? h
        furtherRest rest
      | none => c :: cs
    else c :: cs
termination_by cs => cs.length

/-- Reads a name label by label: nothing is left at the end. -/
def readInStages (cs : List Char) : Bool :=
  match labelRest? cs with
  | some rest => (furtherRest rest).isEmpty
  | none => false

/-- A label is read if it is there and the run of label characters ends with it. -/
theorem labelRest?_eq_some_iff : labelRest? cs = some rest ↔
    ∃ label, cs = label ++ rest ∧ IsLabel label ∧ ∀ c ∈ rest.head?, isLabelChar c = false := by
  rw [labelRest?, Option.ite_none_right_eq_some, Option.some.injEq]
  constructor
  · rintro ⟨hlabel, rfl⟩
    refine ⟨_, List.takeWhile_append_dropWhile.symm, hlabel, fun c hc => ?_⟩
    have := List.head?_dropWhile_not isLabelChar cs
    rwa [hc] at this
  · rintro ⟨label, rfl, hlabel, hend⟩
    have hstop : rest.takeWhile isLabelChar = [] ∧ rest.dropWhile isLabelChar = rest := by
      rcases rest with - | ⟨c, rest⟩
      · simp
      · simp [hend c rfl]
    rw [List.takeWhile_append_of_pos hlabel.chars, List.dropWhile_append_of_pos hlabel.chars,
      hstop.1, hstop.2, List.append_nil]
    exact ⟨hlabel, rfl⟩

theorem readInStages_eq_true_iff : readInStages cs = true ↔
    ∃ rest, labelRest? cs = some rest ∧ furtherRest rest = [] := by
  rw [readInStages]
  cases labelRest? cs <;> simp

theorem furtherRest_eq_nil_iff : furtherRest rest = [] ↔
    rest = [] ∨ ∃ more, rest = '.' :: more ∧ readInStages more = true := by
  rcases rest with - | ⟨c, more⟩
  · simp [furtherRest]
  · rw [furtherRest]
    split
    · next hc =>
      subst hc
      split <;> next hrest => simp [readInStages, hrest]
    · next hc => simp [hc]

/-- What a name is, one label at a time. -/
theorem forall_isLabel_iff : (∀ label ∈ cs.splitOn '.', IsLabel label) ↔
    ∃ label rest, cs = label ++ rest ∧ IsLabel label ∧
      (rest = [] ∨ ∃ more, rest = '.' :: more ∧ ∀ label ∈ more.splitOn '.', IsLabel label) := by
  constructor
  · intro h
    have hdot : '.' ∉ cs.takeWhile (· ≠ '.') := fun hmem =>
      absurd (List.mem_takeWhile_imp hmem) (by simp)
    have hsplit : cs.takeWhile (· ≠ '.') ++ cs.dropWhile (· ≠ '.') = cs :=
      List.takeWhile_append_dropWhile
    have hstop := List.head?_dropWhile_not (· ≠ '.') cs
    rcases hrest : cs.dropWhile (· ≠ '.') with - | ⟨c, more⟩
    · rw [hrest, List.append_nil] at hsplit
      rw [← hsplit, splitOn_eq_singleton hdot] at h
      exact ⟨cs.takeWhile (· ≠ '.'), [], by rw [List.append_nil, hsplit],
        h _ (List.mem_singleton_self _), .inl rfl⟩
    · rw [hrest] at hsplit hstop
      obtain rfl : c = '.' := by simpa using hstop
      rw [← hsplit, splitOn_append_cons_self_of_not_mem hdot, List.forall_mem_cons] at h
      exact ⟨_, _, hsplit.symm, h.1, .inr ⟨more, rfl, h.2⟩⟩
  · rintro ⟨label, rest, rfl, hlabel, rfl | ⟨more, rfl, hmore⟩⟩
    · rw [List.append_nil, splitOn_eq_singleton hlabel.dot_notMem]
      simpa using hlabel
    · rw [splitOn_append_cons_self_of_not_mem hlabel.dot_notMem]
      exact List.forall_mem_cons.mpr ⟨hlabel, hmore⟩

/-- Reading in stages accepts a text if every piece between dots is a label. -/
theorem readInStages_iff (cs : List Char) :
    readInStages cs = true ↔ ∀ label ∈ cs.splitOn '.', IsLabel label := by
  induction hn : cs.length using Nat.strongRecOn generalizing cs with
  | ind n ih =>
    subst hn
    rw [forall_isLabel_iff, readInStages_eq_true_iff]
    constructor
    · rintro ⟨rest, hrest, hnil⟩
      obtain ⟨label, rfl, hlabel, -⟩ := labelRest?_eq_some_iff.mp hrest
      refine ⟨label, rest, rfl, hlabel, ?_⟩
      rcases furtherRest_eq_nil_iff.mp hnil with rfl | ⟨more, rfl, hmore⟩
      · exact .inl rfl
      · exact .inr ⟨more, rfl, (ih _ (by simp; omega) more rfl).mp hmore⟩
    · rintro ⟨label, rest, rfl, hlabel, hrest⟩
      refine ⟨rest, labelRest?_eq_some_iff.mpr ⟨label, rfl, hlabel, ?_⟩,
        furtherRest_eq_nil_iff.mpr ?_⟩
      · rcases hrest with rfl | ⟨more, rfl, -⟩
        · simp
        · simp [isLabelChar, isLetterOrDigit]
      · rcases hrest with rfl | ⟨more, rfl, hmore⟩
        · exact .inl rfl
        · exact .inr ⟨more, rfl, (ih _ (by simp; omega) more rfl).mpr hmore⟩

/-- **Reading in stages makes no difference.** -/
theorem readInStages_eq_labelsFrom (cs : List Char) : readInStages cs = labelsFrom 0 false cs := by
  rw [Bool.eq_iff_iff, readInStages_iff, labelsFrom_zero_iff]

/-! ### Host names -/

/-- A text in ASCII has as many bytes as it has characters. -/
theorem length_toList_of_isAscii {name : String} (h : isAscii name.toList = true) :
    name.toList.length = name.utf8ByteSize := by
  have hone : ∀ c ∈ name.toList, (String.utf8EncodeChar c).length = 1 := by
    intro c hc
    rw [utf8EncodeChar_of_toNat_lt (of_decide_eq_true (List.all_eq_true.mp h c hc))]
    rfl
  rw [← length_bytes, bytes_eq_flatMap, List.length_flatMap, List.map_congr_left hone,
    List.map_const', List.sum_replicate_nat, Nat.mul_one]

/-- **Host names in ASCII.** A text in ASCII is a host name if it has at most 255 bytes and is split
by its dots into pieces of 1 to 63 letters, digits and hyphens, none of which begins or ends with a
hyphen. -/
theorem isHostname_iff_labels {name : String} (h : isAscii name.toList = true) :
    isHostname name = true ↔
      name.utf8ByteSize ≤ 255 ∧ ∀ label ∈ name.toList.splitOn '.', IsLabel label := by
  rw [isHostname, if_pos h, isAsciiHostname, Bool.and_eq_true, decide_eq_true_eq,
    labelsFrom_zero_iff, length_toList_of_isAscii h]
  rfl

/-- A name with hyphens inside its labels, and one whose first label ends with a hyphen. -/
theorem isHostname_iff_labels_hyphens :
    isHostname "3foo-4bar.com" = true ∧ isHostname "foo-.com" = false := by
  have hascii : isAscii "3foo-4bar.com".toList = true ∧ isAscii "foo-.com".toList = true := by
    decide +kernel
  refine ⟨(isHostname_iff_labels hascii.1).mpr ⟨by decide +kernel, by decide +kernel⟩, ?_⟩
  rw [← Bool.not_eq_true, isHostname_iff_labels hascii.2]
  exact fun h => absurd h.2 (by decide +kernel)

end AddressGrammar.Hostname
