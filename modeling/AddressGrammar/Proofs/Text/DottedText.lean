import AddressGrammar.Proofs.Text.Placement

/-!
# Runs with dots between them

An address without comments, quotes and brackets is made of runs of atom characters. As a text it is
these runs joined by dots. A grammar reads it from the left, one run at a time, and takes all there
is of a run, so that what it reads is given by positions and by the byte behind each run. The two
descriptions say the same of a text that stands inside another one, provided that no further atom
character follows it there.

## Main definitions

* `isAtext`, `IsRun`, `IsDotted` — the characters of an atom, runs of them, and runs joined by dots
* `RunBetween`, `DottedBetween` — longest runs, with dots between them, by position
* `ByteClass.HoldsAtext` — a class of bytes that holds the characters of an atom

## Main results

* `isRun_iff` — a run consists of bytes of such a class
* `dottedBetween_iff` — runs joined by dots, as a text and by position
-/

namespace AddressGrammar.Text

variable {s t : String} {c : ByteClass} {p q i off : Nat}

/-! ### Texts -/

/-- The characters of an atom: ASCII letters and digits, and some marks. -/
def isAtext (c : Char) : Bool := c.isAlphanum || "!#$%&'*+-/=?^_`\x7b|\x7d~".toList.contains c

/-- A text of atom characters that is not empty. -/
def IsRun (text : String) : Prop := text ≠ "" ∧ ∀ c ∈ text.toList, isAtext c = true

instance : DecidablePred IsRun := fun text =>
  decidable_of_iff (text ≠ "" ∧ text.toList.all isAtext = true) (by rw [IsRun, List.all_eq_true])

/-- Runs of atom characters with single dots between them, at least one run. -/
def IsDotted (text : String) : Prop :=
  ∃ runs : List String, runs ≠ [] ∧ (∀ run ∈ runs, IsRun run) ∧ text = ".".intercalate runs

theorem IsDotted.cons {run rest : String} (hrun : IsRun run) (hrest : IsDotted rest) :
    IsDotted (run ++ "." ++ rest) := by
  obtain ⟨runs, hne, hruns, rfl⟩ := hrest
  exact ⟨run :: runs, List.cons_ne_nil _ _, List.forall_mem_cons.mpr ⟨hrun, hruns⟩,
    (String.intercalate_cons_of_ne_nil hne).symm⟩

/-- **Induction on the runs** of a text. -/
theorem IsDotted.runInduction {P : String → Prop} (hone : ∀ run, IsRun run → P run)
    (hmore : ∀ run rest, IsRun run → IsDotted rest → P rest → P (run ++ "." ++ rest))
    (h : IsDotted s) : P s := by
  obtain ⟨runs, hne, hruns, rfl⟩ := h
  induction runs with
  | nil => exact absurd rfl hne
  | cons run runs ih =>
    obtain ⟨hrun, hruns⟩ := List.forall_mem_cons.mp hruns
    cases runs with
    | nil => simpa using hone run hrun
    | cons next runs =>
      rw [String.intercalate_cons_cons]
      have hne := List.cons_ne_nil next runs
      exact hmore run _ hrun ⟨_, hne, hruns, rfl⟩ (ih hne hruns)

/-- There are dots between runs and nothing else. -/
theorem IsDotted.isAtext_or_dot (h : IsDotted s) : ∀ c ∈ s.toList, isAtext c = true ∨ c = '.' := by
  refine h.runInduction (P := fun s => ∀ c ∈ s.toList, isAtext c = true ∨ c = '.')
    (fun run hrun c hc => .inl (hrun.2 c hc)) fun run rest hrun _ ih c hc => ?_
  simp only [String.toList_append, List.mem_append] at hc
  rcases hc with (hc | hc) | hc
  · exact .inl (hrun.2 c hc)
  · exact .inr (List.mem_singleton.mp hc)
  · exact ih c hc

theorem toNat_lt_of_isAtext {a : Char} (h : isAtext a = true) : a.toNat < 128 := by
  rcases Bool.or_eq_true_iff.mp h with halnum | hmark
  · have := toNat_of_isAlphanum halnum
    omega
  · have hmarks : "!#$%&'*+-/=?^_`\x7b|\x7d~".toList.all (·.toNat < 128) = true := by decide
    exact of_decide_eq_true (List.all_eq_true.mp hmarks a (by simpa using hmark))

theorem IsDotted.toNat_lt (h : IsDotted s) : ∀ c ∈ s.toList, c.toNat < 128 := by
  intro c hc
  rcases h.isAtext_or_dot c hc with hatext | rfl
  · exact toNat_lt_of_isAtext hatext
  · decide

/-! ### Bytes -/

/-- A class holds the bytes of the characters of an atom and no others. -/
def ByteClass.HoldsAtext (c : ByteClass) : Prop :=
  holdsAscii c = true ∧ ∀ n < 128, c.contains (UInt8.ofNat n) = isAtext (Char.ofNat n)

theorem ByteClass.HoldsAtext.contains_eq (hc : c.HoldsAtext) {a : Char} (h : a.toNat < 128) :
    c.contains (UInt8.ofNat a.toNat) = isAtext a := by
  rw [hc.2 a.toNat h, Char.ofNat_toNat]

theorem ByteClass.HoldsAtext.not_dot (hc : c.HoldsAtext) : c.contains 46 = false :=
  hc.2 46 (by decide)

theorem ByteClass.HoldsAtext.not_at (hc : c.HoldsAtext) : c.contains 64 = false :=
  hc.2 64 (by decide)

/-- A character below 128 is a single byte. -/
theorem utf8EncodeChar_of_toNat_lt {a : Char} (h : a.toNat < 128) :
    String.utf8EncodeChar a = [UInt8.ofNat a.toNat] := by
  rw [String.utf8EncodeChar, if_pos (show a.val.toNat ≤ 127 from Nat.le_of_lt_succ h)]
  rfl

/-- Characters below 128 differ in their bytes. -/
theorem eq_of_ofNat_toNat {a a' : Char} (h : a.toNat < 128) (h' : a'.toNat < 128)
    (heq : UInt8.ofNat a.toNat = UInt8.ofNat a'.toNat) : a = a' := by
  have hmod : a.toNat % 256 = a'.toNat % 256 := congrArg UInt8.toNat heq
  rw [← Char.ofNat_toNat a, ← Char.ofNat_toNat a']
  congr 1
  omega

/-- Where all characters are below 128, a byte is one of them. -/
theorem exists_mem_of_byteAt? {b : UInt8} (hs : ∀ a ∈ s.toList, a.toNat < 128)
    (hi : byteAt? s i = some b) : ∃ a ∈ s.toList, b = UInt8.ofNat a.toNat := by
  obtain ⟨a, hch, hb⟩ := exists_byteAt?_iff.mp ⟨i, hi⟩
  rw [utf8EncodeChar_of_toNat_lt (hs a hch), List.mem_singleton] at hb
  exact ⟨a, hch, hb⟩

theorem mem_toList_iff {a : Char} (hs : ∀ a ∈ s.toList, a.toNat < 128) (hch : a.toNat < 128) :
    a ∈ s.toList ↔ ∃ i, byteAt? s i = some (UInt8.ofNat a.toNat) := by
  constructor
  · intro hmem
    refine exists_byteAt?_iff.mpr ⟨a, hmem, ?_⟩
    rw [utf8EncodeChar_of_toNat_lt hch]
    exact List.mem_singleton_self _
  · rintro ⟨i, hi⟩
    obtain ⟨a', hmem, heq⟩ := exists_mem_of_byteAt? hs hi
    exact eq_of_ofNat_toNat hch (hs a' hmem) heq ▸ hmem

/-- **A run consists of the bytes of atom characters.** -/
theorem isRun_iff (hc : c.HoldsAtext) :
    IsRun s ↔ 0 < s.utf8ByteSize ∧ ∀ i < s.utf8ByteSize, classAt s c i = true := by
  have hempty : s ≠ "" ↔ 0 < s.utf8ByteSize := by
    rw [Nat.pos_iff_ne_zero, Ne, Ne, String.utf8ByteSize_eq_zero_iff]
  rw [IsRun, hempty]
  refine and_congr_right fun _ => ⟨fun h i hi => ?_, fun h a hch => ?_⟩
  · obtain ⟨b, hb⟩ : ∃ b, byteAt? s i = some b := ⟨_, dif_pos hi⟩
    obtain ⟨a, hch, rfl⟩ := exists_mem_of_byteAt? (fun a hch => toNat_lt_of_isAtext (h a hch)) hb
    refine classAt_of_byteAt? hb ?_
    rw [hc.contains_eq (toNat_lt_of_isAtext (h a hch)), h a hch]
  · have hbytes : ∀ b ∈ String.utf8EncodeChar a, c.contains b = true ∧ b < 128 := by
      intro b hb
      obtain ⟨i, hi⟩ := exists_byteAt?_iff.mpr ⟨a, hch, hb⟩
      have hclass := h i (lt_of_byteAt?_eq_some hi)
      refine ⟨?_, asciiBetween_of_classAt hc.1 hclass i b (Nat.le_refl i) (Nat.lt_succ_self i) hi⟩
      rwa [classAt, hi] at hclass
    obtain ⟨hlt, hsingle⟩ := utf8EncodeChar_of_lt fun b hb => (hbytes b hb).2
    rw [← hc.contains_eq hlt]
    exact (hbytes _ (by rw [hsingle]; exact List.mem_singleton_self _)).1

/-- A text is cut in three where a byte is a given character and the bytes in front of it are below
128. -/
theorem exists_append_of_byteAt? {a : Char} (hascii : AsciiBetween s 0 i) (hch : a.toNat < 128)
    (hi : byteAt? s i = some (UInt8.ofNat a.toNat)) :
    ∃ front back, s = front ++ String.singleton a ++ back ∧ front.utf8ByteSize = i := by
  have hv := hascii.isValid (Nat.zero_le i) (Nat.le_of_lt (lt_of_byteAt?_eq_some hi))
    String.Pos.Raw.isValid_zero
  obtain ⟨front, s₂, rfl, hfront⟩ := String.Pos.Raw.isValid_iff_exists_append.mp hv
  obtain rfl : i = front.utf8ByteSize := congrArg String.Pos.Raw.byteIdx hfront
  rw [byteAt?_size_append] at hi
  have hlt : UInt8.ofNat a.toNat < 128 := by
    rw [UInt8.lt_iff_toNat_lt, UInt8.toNat_ofNat']
    simp only [UInt8.reduceToNat]
    omega
  obtain ⟨c, back, rfl, hc⟩ := exists_singleton_append hi hlt
  obtain ⟨hclt, hc'⟩ := utf8EncodeChar_of_lt (c := c) fun b hb => by
    rw [hc, List.mem_singleton] at hb
    exact hb ▸ hlt
  obtain rfl := eq_of_ofNat_toNat hclt hch (List.singleton_inj.mp (hc'.symm.trans hc))
  exact ⟨front, back, by rw [String.append_assoc], rfl⟩

/-! ### Positions -/

/-- A longest run of bytes of a class, at least one, between two positions. -/
structure RunBetween (s : String) (c : ByteClass) (p q : Nat) : Prop where
  lt : p < q
  inside : ∀ i, p ≤ i → i < q → classAt s c i = true
  ends : ¬classAt s c q = true

/-- Longest runs with single dots between them, at least one run. -/
inductive DottedBetween (s : String) (c : ByteClass) : Nat → Nat → Prop
  | run {p q : Nat} (h : RunBetween s c p q) : DottedBetween s c p q
  | dot {p i q : Nat} (h : RunBetween s c p i) (hdot : byteAt? s i = some 46)
      (hrest : DottedBetween s c (i + 1) q) : DottedBetween s c p q

/-- There is a dot between two positions. -/
def DotBetween (s : String) (p q : Nat) : Prop := ∃ i, p ≤ i ∧ i < q ∧ byteAt? s i = some 46

namespace RunBetween

theorem head (h : RunBetween s c p q) : classAt s c p = true := h.inside p (Nat.le_refl p) h.lt

theorem le_size (h : RunBetween s c p q) : q ≤ s.utf8ByteSize := by
  have := lt_of_classAt (h.inside (q - 1) (Nat.le_sub_one_of_lt h.lt) (by have := h.lt; omega))
  omega

/-- One longest run begins at a position. -/
theorem unique (h : RunBetween s c p q) (h' : RunBetween s c p i) : i = q := by
  rcases Nat.lt_trichotomy i q with hlt | heq | hlt
  · exact absurd (h.inside i (Nat.le_of_lt h'.lt) hlt) h'.ends
  · exact heq
  · exact absurd (h'.inside q (Nat.le_of_lt h.lt) hlt) h.ends

end RunBetween

namespace DottedBetween

theorem lt (h : DottedBetween s c p q) : p < q := by
  induction h with
  | run h => exact h.lt
  | dot h _ _ ih =>
    have := h.lt
    omega

theorem le_size (h : DottedBetween s c p q) : q ≤ s.utf8ByteSize := by
  induction h with
  | run h => exact h.le_size
  | dot _ _ _ ih => exact ih

theorem ends (h : DottedBetween s c p q) : ¬classAt s c q = true := by
  induction h with
  | run h => exact h.ends
  | dot _ _ _ ih => exact ih

/-- With a dot in it, there is more behind the first run. -/
theorem exists_rest (h : DottedBetween s c p q) (hc : c.contains 46 = false)
    (hdot : DotBetween s p q) :
    ∃ i, RunBetween s c p i ∧ byteAt? s i = some 46 ∧ DottedBetween s c (i + 1) q := by
  cases h with
  | run h =>
    obtain ⟨i, hp, hq, hi⟩ := hdot
    exact absurd hi (byteAt?_ne_of_classAt (h.inside i hp hq) hc)
  | dot h hdot hrest => exact ⟨_, h, hdot, hrest⟩

/-- Runs of bytes below 128 and dots are in ASCII. -/
theorem ascii (h : DottedBetween s c p q) (hc : holdsAscii c = true) : AsciiBetween s p q := by
  have hrun : ∀ {p q}, RunBetween s c p q → AsciiBetween s p q := fun h i b hp hq hi =>
    asciiBetween_of_classAt hc (h.inside i hp hq) i b (Nat.le_refl i) (Nat.lt_succ_self i) hi
  induction h with
  | run h => exact hrun h
  | dot h hdot _ ih =>
    have hbyte := asciiBetween_of_classAt (c := .single 46) rfl (classAt_of_byteAt? hdot (by decide))
    exact ((hrun h).trans hbyte).trans ih

end DottedBetween

/-! ### Texts by position -/

theorem Placed.trans {u : String} {off' : Nat} (h : Placed s t off) (h' : Placed t u off') :
    Placed s u (off' + off) := by
  obtain ⟨before, behind, rfl, rfl⟩ := h
  obtain ⟨before', behind', rfl, rfl⟩ := h'
  exact ⟨before' ++ before, behind ++ behind', by simp only [String.append_assoc],
    String.utf8ByteSize_append⟩

/-- A run that stands inside a text. -/
theorem Placed.isRun_iff (h : Placed s t off) (hc : c.HoldsAtext)
    (hend : ¬classAt t c (off + s.utf8ByteSize) = true) :
    IsRun s ↔ RunBetween t c off (off + s.utf8ByteSize) := by
  rw [Text.isRun_iff hc]
  constructor
  · rintro ⟨hpos, hclass⟩
    refine ⟨by omega, fun i hi hi' => ?_, hend⟩
    obtain ⟨k, rfl⟩ := Nat.exists_eq_add_of_le hi
    rw [h.classAt_eq (by omega)]
    exact hclass k (by omega)
  · intro hrun
    refine ⟨by have := hrun.lt; omega, fun i hi => ?_⟩
    rw [← h.classAt_eq hi]
    exact hrun.inside (off + i) (Nat.le_add_right off i) (by omega)

theorem utf8ByteSize_singleton {a : Char} (hch : a.toNat < 128) :
    (String.singleton a).utf8ByteSize = 1 := by
  rw [String.utf8ByteSize_singleton, ← String.length_utf8EncodeChar,
    utf8EncodeChar_of_toNat_lt hch, List.length_singleton]

/-- The parts of a text on both sides of a character below 128, inside another text. -/
theorem Placed.parts {front back : String} {a : Char} (hch : a.toNat < 128)
    (h : Placed (front ++ String.singleton a ++ back) t off) :
    Placed front t off ∧ byteAt? t (off + front.utf8ByteSize) = some (UInt8.ofNat a.toNat) ∧
      Placed back t (off + front.utf8ByteSize + 1) := by
  have hone := utf8ByteSize_singleton hch
  have hfront : Placed front (front ++ String.singleton a ++ back) 0 :=
    ⟨"", String.singleton a ++ back, by rw [String.empty_append, String.append_assoc], rfl⟩
  have hback : Placed back (front ++ String.singleton a ++ back) (front.utf8ByteSize + 1) :=
    ⟨front ++ String.singleton a, "", by simp, by rw [String.utf8ByteSize_append, hone]⟩
  refine ⟨by simpa using hfront.trans h, ?_, hback.trans h⟩
  rw [h.byteAt?_eq (by simp only [String.utf8ByteSize_append]; omega), String.append_assoc,
    byteAt?_size_append, byteAt?_eq_getElem?, bytes_append, bytes_eq_flatMap]
  simp [utf8EncodeChar_of_toNat_lt hch]

/-- Runs joined by dots are read one after the other. -/
theorem IsDotted.between (hc : c.HoldsAtext) (h : IsDotted s) : ∀ off, Placed s t off →
    ¬classAt t c (off + s.utf8ByteSize) = true → DottedBetween t c off (off + s.utf8ByteSize) := by
  refine h.runInduction (P := fun s => ∀ off, Placed s t off →
    ¬classAt t c (off + s.utf8ByteSize) = true → DottedBetween t c off (off + s.utf8ByteSize))
    (fun run hrun off h hend => .run ((h.isRun_iff hc hend).mp hrun))
    fun run rest hrun _ ih off h => ?_
  obtain ⟨hfront, hdot, hback⟩ := h.parts (a := '.') (by decide)
  have hsize : off + (run ++ "." ++ rest).utf8ByteSize =
      off + run.utf8ByteSize + 1 + rest.utf8ByteSize := by
    rw [String.utf8ByteSize_append, String.utf8ByteSize_append, ← Nat.add_assoc, ← Nat.add_assoc]
    rfl
  have hstop : ¬classAt t c (off + run.utf8ByteSize) = true := fun hclass =>
    byteAt?_ne_of_classAt hclass hc.not_dot hdot
  intro hend
  rw [hsize] at hend ⊢
  exact .dot ((hfront.isRun_iff hc hstop).mp hrun) hdot (ih _ hback hend)

/-- Runs that are read one after the other are joined by dots. -/
theorem DottedBetween.isDotted (hc : c.HoldsAtext) (h : DottedBetween t c p q) :
    ∀ s, Placed s t p → p + s.utf8ByteSize = q → IsDotted s := by
  induction h with
  | run h =>
    rintro s hs rfl
    refine ⟨[s], List.cons_ne_nil _ _, fun run hrun => ?_, String.intercalate_singleton.symm⟩
    obtain rfl := List.mem_singleton.mp hrun
    exact (hs.isRun_iff hc h.ends).mpr h
  | @dot p i q h hdot hrest ih =>
    -- The text is cut where the first run ends, which is between two characters.
    rintro s hs rfl
    have hi := h.lt
    have hq := hrest.lt
    obtain ⟨k, rfl⟩ := Nat.exists_eq_add_of_le (Nat.le_of_lt hi)
    have hascii : AsciiBetween s 0 k := by
      intro j b _ hj hb
      refine (DottedBetween.run h).ascii hc.1 (p + j) b (Nat.le_add_right p j) (by omega) ?_
      rw [hs.byteAt?_eq (by omega), hb]
    have hbyte : byteAt? s k = some (UInt8.ofNat '.'.toNat) := by
      rw [← hs.byteAt?_eq (by omega), hdot]
      rfl
    obtain ⟨front, back, rfl, rfl⟩ := exists_append_of_byteAt? hascii (by decide) hbyte
    obtain ⟨hfront, -, hback⟩ := hs.parts (by decide)
    refine .cons ((hfront.isRun_iff hc h.ends).mpr h) (ih back hback ?_)
    rw [String.utf8ByteSize_append, String.utf8ByteSize_append, utf8ByteSize_singleton (by decide)]
    omega

/-- **Runs joined by dots, as a text and by position.** -/
theorem dottedBetween_iff (hc : c.HoldsAtext) (h : Placed s t off)
    (hend : ¬classAt t c (off + s.utf8ByteSize) = true) :
    DottedBetween t c off (off + s.utf8ByteSize) ↔ IsDotted s :=
  ⟨fun hd => hd.isDotted hc s h rfl, fun hd => hd.between hc off h hend⟩

/-- Dots in a text inside another one. -/
theorem Placed.dotBetween_iff (h : Placed s t off) (hs : ∀ a ∈ s.toList, a.toNat < 128) :
    DotBetween t off (off + s.utf8ByteSize) ↔ '.' ∈ s.toList := by
  rw [mem_toList_iff hs (by decide)]
  constructor
  · rintro ⟨i, hi, hi', hdot⟩
    obtain ⟨k, rfl⟩ := Nat.exists_eq_add_of_le hi
    exact ⟨k, (h.byteAt?_eq (by omega)).symm.trans hdot⟩
  · rintro ⟨k, hdot⟩
    have hk := lt_of_byteAt?_eq_some hdot
    exact ⟨off + k, by omega, by omega, (h.byteAt?_eq hk).trans hdot⟩

/-! ### Plain texts -/

/-- A text of atom characters, dots and at signs. -/
def IsPlain (text : String) : Prop := ∀ c ∈ text.toList, isAtext c = true ∨ c = '.' ∨ c = '@'

instance : DecidablePred IsPlain := fun text =>
  decidable_of_iff (text.toList.all (fun c => isAtext c || c == '.' || c == '@') = true)
    (by simp [IsPlain, or_assoc])

/-- The bytes of plain texts. -/
def bareBytes : ByteClass :=
  ⟨[(33, 33), (35, 39), (42, 43), (45, 57), (61, 61), (63, 90), (94, 126)]⟩

namespace IsPlain

variable (h : IsPlain s)
include h

theorem toNat_lt : ∀ a ∈ s.toList, a.toNat < 128 := by
  intro a hch
  rcases h a hch with hatext | rfl | rfl
  · exact toNat_lt_of_isAtext hatext
  · decide
  · decide

theorem classAt (hi : i < s.utf8ByteSize) : classAt s bareBytes i = true := by
  have hbytes : ∀ n < 128, bareBytes.contains (UInt8.ofNat n) =
      (isAtext (Char.ofNat n) || Char.ofNat n == '.' || Char.ofNat n == '@') := by
    decide +kernel
  obtain ⟨b, hb⟩ : ∃ b, byteAt? s i = some b := ⟨_, dif_pos hi⟩
  obtain ⟨a, ha, rfl⟩ := exists_mem_of_byteAt? h.toNat_lt hb
  refine classAt_of_byteAt? hb ?_
  rw [hbytes a.toNat (h.toNat_lt a ha), Char.ofNat_toNat]
  simpa [or_assoc] using h a ha

theorem byteAt?_ne {b : UInt8} (hb : bareBytes.contains b = false) : byteAt? s i ≠ some b :=
  fun hi => byteAt?_ne_of_classAt (h.classAt (lt_of_byteAt?_eq_some hi)) hb hi

end IsPlain

end AddressGrammar.Text
