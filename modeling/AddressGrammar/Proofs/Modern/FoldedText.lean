import AddressGrammar.Proofs.Peg.Segments
import AddressGrammar.Proofs.Text.Spans
import AddressGrammar.Proofs.Validation.PlainCheck

/-!
# Folded text

Text that may stand in a message header holds no NUL, and no line end except in front of white
space. The modern grammar has rules that take anything else as well: obsolete text runs over stray
line ends and NUL, and comments, quoted strings and literals reach it behind a backslash. Such a
rule is greedy, however. It stops only where no rule can go on, at the end of the input, in front of
a line feed or of a character outside ASCII, so the comment, string or literal around it never gets
to its closing mark.

## Main definitions

* `Folded` — a stretch of text with nothing stray in it
* `Solid` — a position where some rule other than obsolete text can go on
* `Taken`, `Missed` — what the rules promise of what they take, and of where they fail

## Main results

* `Folded.headerSafe` — folded text injects nothing into a header
* `promised` — the rules keep their promises
* `Validation.headerSafe_of_validate` — neither does what a modern validator accepts
-/

namespace AddressGrammar.Modern

open Text Peg Peg.Expr

/-- The bytes of ASCII other than NUL and the two that end lines. -/
def ordinary : ByteClass := ⟨[(1, 9), (11, 12), (14, 127)]⟩

/-- A space or a tab stands at the position. -/
def Blank (input : String) (p : Nat) : Prop :=
  byteAt? input p = some 32 ∨ byteAt? input p = some 9

/-- From one position to another there are ordinary bytes, and line ends in front of white space. -/
inductive Folded (input : String) : Nat → Nat → Prop where
  | nil {p} : Folded input p p
  | byte {p q} (hb : classAt input ordinary p = true) (h : Folded input (p + 1) q) :
      Folded input p q
  | fold {p q} (hcr : byteAt? input p = some 13) (hlf : byteAt? input (p + 1) = some 10)
      (hb : Blank input (p + 2)) (h : Folded input (p + 2) q) : Folded input p q

/-- Nothing in a text ends a header: there is no NUL, carriage returns and line feeds come in
pairs, and each pair stands in front of white space. -/
structure HeaderSafe (input : String) : Prop where
  no_nul : ∀ i, byteAt? input i ≠ some 0
  lf_after_cr : ∀ i, byteAt? input i = some 13 → byteAt? input (i + 1) = some 10
  cr_before_lf : ∀ i, byteAt? input i = some 10 → ∃ j, i = j + 1 ∧ byteAt? input j = some 13
  blank_after : ∀ i, byteAt? input i = some 13 → byteAt? input (i + 1) = some 10 →
    byteAt? input (i + 2) = some 32 ∨ byteAt? input (i + 2) = some 9

/-- A byte of ASCII other than a line feed stands at the position. -/
def Solid (input : String) (p : Nat) : Prop := ∃ b, byteAt? input p = some b ∧ b ≠ 10 ∧ b < 128

variable {input : String} {p i q : Nat}

theorem ordinary_iff {b : UInt8} :
    ordinary.contains b = true ↔ b ≠ 0 ∧ b ≠ 10 ∧ b ≠ 13 ∧ b < 128 := by
  simp only [ByteClass.contains, ordinary, List.any_cons, List.any_nil, Bool.or_false,
    Bool.or_eq_true, Bool.and_eq_true, decide_eq_true_eq, UInt8.le_iff_toNat_le,
    UInt8.lt_iff_toNat_lt, ne_eq, ← UInt8.toNat_inj]
  simp
  omega

theorem obsChar_iff {b : UInt8} :
    (⟨[(0, 9), (11, 11), (12, 12), (14, 127)]⟩ : ByteClass).contains b = true ↔
      b ≠ 10 ∧ b ≠ 13 ∧ b < 128 := by
  simp only [ByteClass.contains, List.any_cons, List.any_nil, Bool.or_false, Bool.or_eq_true,
    Bool.and_eq_true, decide_eq_true_eq, UInt8.le_iff_toNat_le, UInt8.lt_iff_toNat_lt, ne_eq,
    ← UInt8.toNat_inj]
  simp
  omega

theorem classAt_ordinary : classAt input ordinary p = true ↔
    ∃ b, byteAt? input p = some b ∧ b ≠ 0 ∧ b ≠ 10 ∧ b ≠ 13 ∧ b < 128 := by
  rw [classAt, Option.any_eq_true]
  simp only [ordinary_iff]

/-! ### Folded stretches -/

theorem Blank.ordinary (h : Blank input p) : classAt input ordinary p = true := by
  rw [classAt_ordinary]
  rcases h with h | h
  · exact ⟨32, h, by decide⟩
  · exact ⟨9, h, by decide⟩

theorem solid_of_byteAt? {b : UInt8} (h : byteAt? input p = some b) (hlf : b ≠ 10) (hlt : b < 128) :
    Solid input p := ⟨b, h, hlf, hlt⟩

namespace Folded

theorem trans (h : Folded input p i) (h' : Folded input i q) : Folded input p q := by
  induction h with
  | nil => exact h'
  | byte hb _ ih => exact .byte hb (ih h')
  | fold hcr hlf hb _ ih => exact .fold hcr hlf hb (ih h')

theorem single (h : classAt input ordinary p = true) : Folded input p (p + 1) := .byte h .nil

/-- Where nothing can go on, only the empty stretch is folded. -/
theorem eq_of_not_solid (h : Folded input p q) (hp : ¬Solid input p) : q = p := by
  cases h with
  | nil => rfl
  | byte hb =>
    obtain ⟨b, hb, -, hlf, -, hlt⟩ := classAt_ordinary.mp hb
    exact absurd (solid_of_byteAt? hb hlf hlt) hp
  | fold hcr => exact absurd (solid_of_byteAt? hcr (by decide) (by decide)) hp

/-- A byte of folded text is an ordinary one or belongs to a line end in front of white space. -/
theorem byte_cases (h : Folded input p q) (hi : p ≤ i) (hq : i < q) :
    classAt input ordinary i = true ∨
      (byteAt? input i = some 13 ∧ byteAt? input (i + 1) = some 10 ∧ Blank input (i + 2)) ∨
        ∃ j, i = j + 1 ∧ byteAt? input j = some 13 ∧ byteAt? input i = some 10 := by
  induction h with
  | nil => omega
  | @byte p q hb _ ih =>
    rcases Nat.eq_or_lt_of_le hi with rfl | hlt
    · exact .inl hb
    · exact ih hlt hq
  | @fold p q hcr hlf hblank _ ih =>
    rcases Nat.eq_or_lt_of_le hi with rfl | hlt
    · exact .inr (.inl ⟨hcr, hlf, hblank⟩)
    · rcases Nat.eq_or_lt_of_le hlt with rfl | hlt
      · exact .inr (.inr ⟨p, rfl, hcr, hlf⟩)
      · exact ih hlt hq

/-- **A text that is folded from end to end is safe in a header.** -/
theorem headerSafe (h : Folded input 0 input.utf8ByteSize) : HeaderSafe input := by
  have hcases : ∀ {i b}, byteAt? input i = some b →
      (b ≠ 0 ∧ b ≠ 10 ∧ b ≠ 13) ∨
        (b = 13 ∧ byteAt? input (i + 1) = some 10 ∧ Blank input (i + 2)) ∨
          b = 10 ∧ ∃ j, i = j + 1 ∧ byteAt? input j = some 13 := by
    intro i b hb
    rcases h.byte_cases (Nat.zero_le i) (lt_of_byteAt?_eq_some hb) with
      hord | ⟨hcr, hlf, hblank⟩ | ⟨j, hj, hcr, hlf⟩
    · obtain ⟨b', hb', hnul, hlf, hcr, -⟩ := classAt_ordinary.mp hord
      cases hb.symm.trans hb'
      exact .inl ⟨hnul, hlf, hcr⟩
    · cases hb.symm.trans hcr
      exact .inr (.inl ⟨rfl, hlf, hblank⟩)
    · cases hb.symm.trans hlf
      exact .inr (.inr ⟨rfl, j, hj, hcr⟩)
  refine ⟨fun i hb => ?_, fun i hb => ?_, fun i hb => ?_, fun i hb _ => ?_⟩
  · rcases hcases hb with ⟨hne, -⟩ | ⟨heq, -⟩ | ⟨heq, -⟩
    · exact hne rfl
    · cases heq
    · cases heq
  · rcases hcases hb with ⟨-, -, hne⟩ | ⟨-, hlf, -⟩ | ⟨heq, -⟩
    · exact absurd rfl hne
    · exact hlf
    · cases heq
  · rcases hcases hb with ⟨-, hne, -⟩ | ⟨heq, -⟩ | ⟨-, hj⟩
    · exact absurd rfl hne
    · cases heq
    · exact hj
  · rcases hcases hb with ⟨-, -, hne⟩ | ⟨-, -, hblank⟩ | ⟨heq, -⟩
    · exact absurd rfl hne
    · exact hblank
    · cases heq

end Folded

/-! ### What the rules promise -/

/-- The rules that take folded text only. -/
def takesFolded : Rule → Bool
  | .lf | .cr | .crlf | .text | .quotedPair | .ccontent | .qcontent | .dcontent | .obsQp | .obsText
  | .obsChar | .obsUtext | .utext | .unstructured => false
  | _ => true

/-- What a rule takes from one position to another. Obsolete text ends where nothing can go on, and
what may contain it either is folded or ends there too. -/
def Taken (input : String) (p q : Nat) : Rule → Prop
  | .wsp => Blank input p ∧ q = p + 1
  | .lf => byteAt? input p = some 10 ∧ q = p + 1
  | .cr => byteAt? input p = some 13 ∧ q = p + 1
  | .crlf => byteAt? input p = some 13 ∧ byteAt? input (p + 1) = some 10 ∧ q = p + 2
  | .obsChar => q = p + 1
  | .obsQp => byteAt? input p = some 92
  | .obsText => ¬Solid input q
  | .text => Folded input p q ∨ ¬Solid input q
  | .quotedPair | .ccontent | .qcontent | .dcontent =>
    Folded input p q ∨ Solid input p ∧ ¬Solid input q
  | .obsUtext | .utext | .unstructured => True
  | _ => Folded input p q

/-- Where a rule fails. -/
def Missed (input : String) (p : Nat) : Rule → Prop
  | .cr => byteAt? input p ≠ some 13
  | .obsChar => byteAt? input p ≠ some 13 → ¬Solid input p
  | .text | .obsText => False
  | _ => True

/-- The rules that an expression applies keep their promises. -/
structure Promised (input : String) (call : Rule → Nat → Bool → Nat → Prop) : Prop where
  le : ∀ r p b q, call r p b q → p ≤ q
  taken : ∀ {r p q}, call r p true q → Taken input p q r
  missed : ∀ {r p q}, call r p false q → Missed input p r
  eq_of_missed : ∀ r p q, call r p false q → q = p

/-! ### Every rule keeps its promise -/

variable {call : Rule → Nat → Bool → Nat → Prop}

theorem folded_of_taken {r : Rule} (hr : takesFolded r = true) (h : Taken input p q r) :
    Folded input p q := by
  cases r
  case wsp =>
    obtain ⟨hb, rfl⟩ := h
    exact .single hb.ordinary
  all_goals first
    | exact h
    | cases hr

/-- Whether a class holds ordinary bytes only. -/
def holdsOrdinary (c : ByteClass) : Bool :=
  c.intervals.all fun i => ordinary.intervals.any fun j => decide (j.1 ≤ i.1) && decide (i.2 ≤ j.2)

theorem ordinary_of_holdsOrdinary {c : ByteClass} (hc : holdsOrdinary c = true)
    (h : classAt input c p = true) : classAt input ordinary p = true :=
  classAt_of_includes hc h

/-- An expression that is made of ordinary bytes and of rules that take folded text takes folded
text. -/
theorem folded_of_covered (hk : Promised input call) {e : Expr Rule}
    (he : e.covered holdsOrdinary takesFolded = true) (h : e.Matches input call p true q) :
    Folded input p q :=
  h.covered (fun _ => .nil) .trans (fun hc h => .single (ordinary_of_holdsOrdinary hc h))
    hk.eq_of_missed (fun hr h => folded_of_taken hr (hk.taken h)) rfl he

theorem covered_body (policy : Option Policy) (r : Rule) :
    (body policy r).covered holdsOrdinary takesFolded =
      (body none r).covered holdsOrdinary takesFolded := by
  cases policy <;> cases r <;> rfl

/-! #### White space and line ends -/

variable {policy : Option Policy}

theorem taken_wsp (h : (orElse (exactly 32) (exactly 9)).Matches input call p true q) :
    Blank input p ∧ q = p + 1 := by
  rcases matches_orElse.mp h with h₁ | ⟨i, hi, h₂⟩
  · obtain ⟨hb, hq⟩ := matches_exactly.mp h₁
    exact ⟨.inl hb, hq⟩
  · obtain ⟨-, rfl⟩ := misses_exactly.mp hi
    obtain ⟨hb, hq⟩ := matches_exactly.mp h₂
    exact ⟨.inr hb, hq⟩

theorem taken_crlf (hk : Promised input call)
    (h : (attempt (andThen (apply .cr) (apply .lf))).Matches input call p true q) :
    byteAt? input p = some 13 ∧ byteAt? input (p + 1) = some 10 ∧ q = p + 2 := by
  obtain ⟨i, hi, h⟩ := matches_andThen.mp (matches_attempt.mp h)
  obtain ⟨hcr, rfl⟩ := hk.taken (matches_apply.mp hi)
  obtain ⟨hlf, rfl⟩ := hk.taken (matches_apply.mp h)
  exact ⟨hcr, hlf, rfl⟩

/-- White space behind a position starts there. -/
theorem folded_blanks (hk : Promised input call)
    (h : (many1 (apply .wsp)).Matches input call p true q) : Blank input p ∧ Folded input p q := by
  refine ⟨?_, folded_of_covered hk (by decide) h⟩
  obtain ⟨i, hi, -⟩ := matches_many1.mp h
  exact (hk.taken (matches_apply.mp hi)).1

/-- A line end in front of white space is folded together with it. -/
theorem folded_line (hk : Promised input call) (hi : call .crlf p true i)
    (h : (many1 (apply .wsp)).Matches input call i true q) : Folded input p q := by
  obtain ⟨hcr, hlf, rfl⟩ := hk.taken hi
  obtain ⟨hb, hf⟩ := folded_blanks hk h
  exact .fold hcr hlf hb hf

theorem taken_obsFws (hk : Promised input call)
    (h : (attempt (andThen (many1 (apply .wsp))
      (many (andThen (apply .crlf) (many1 (apply .wsp)))))).Matches input call p true q) :
    Folded input p q := by
  obtain ⟨i, hi, h⟩ := matches_andThen.mp (matches_attempt.mp h)
  have hf := (folded_blanks hk hi).2
  refine (h.many_invariant (I := Folded input p) (fun j k hj hjk => ?_) hf).1
  obtain ⟨l, hl, hjk⟩ := matches_andThen.mp hjk
  exact hj.trans (folded_line hk (matches_apply.mp hl) hjk)

theorem taken_fws (hk : Promised input call)
    (h : (orElse (attempt (andThen (opt (andThen (many (apply .wsp)) (apply .crlf)))
      (many1 (apply .wsp)))) (apply .obsFws)).Matches input call p true q) : Folded input p q := by
  rcases matches_orElse.mp h with h₁ | ⟨i, hi, h₂⟩
  · obtain ⟨i, hi, hblank⟩ := matches_andThen.mp (matches_attempt.mp h₁)
    rcases matches_opt.mp hi with hi | ⟨rfl, -⟩
    · obtain ⟨j, hj, hi⟩ := matches_andThen.mp hi
      have hf : Folded input p j := folded_of_covered hk (by decide) hj
      exact hf.trans (folded_line hk (matches_apply.mp hi) hblank)
    · exact (folded_blanks hk hblank).2
  · obtain ⟨rfl, -⟩ := misses_attempt.mp hi
    exact hk.taken (matches_apply.mp h₂)

/-! #### Obsolete text -/

/-- A repetition of a rule that moves stops where the rule fails. -/
theorem missed_of_many {r : Rule} (hk : Promised input call) (hr : ∀ p, ¬call r p true p)
    (h : (many (apply r)).Matches input call p b q) : Missed input q r := by
  obtain ⟨-, i, hi⟩ := h.many_missed (I := fun _ => True) (fun _ _ _ _ => trivial)
    (fun p hp => hr p (matches_apply.mp hp)) trivial
  exact hk.missed (matches_apply.mp hi)

/-- Obsolete text ends where nothing can go on: its last part runs over all carriage returns, and
the next part would take anything else but a line feed. -/
theorem taken_obsText (hk : Promised input call)
    (h : (attempt (andThen (many (apply .lf)) (andThen (many (apply .cr))
      (many (andThen (apply .obsChar) (andThen (many (apply .lf)) (many (apply .cr)))))))).Matches
        input call p true q) : ¬Solid input q := by
  have hcr : ∀ p, ¬call .cr p true p := by
    intro p hp
    have := (hk.taken hp).2
    omega
  obtain ⟨i, -, h⟩ := matches_andThen.mp (matches_attempt.mp h)
  obtain ⟨j, hj, h⟩ := matches_andThen.mp h
  obtain ⟨hq, hend⟩ := h.many_invariant (I := fun k => byteAt? input k ≠ some 13)
    (fun k l _ hkl => by
      obtain ⟨m, -, hkl⟩ := matches_andThen.mp hkl
      obtain ⟨n, -, hkl⟩ := matches_andThen.mp hkl
      exact missed_of_many hk hcr hkl) (missed_of_many hk hcr hj)
  rcases hend with ⟨k, hmiss⟩ | hstill
  · rcases misses_andThen.mp hmiss with hmiss | ⟨l, -, hmiss⟩
    · exact hk.missed (matches_apply.mp hmiss) hq
    · rcases misses_andThen.mp hmiss with hmiss | ⟨m, -, hmiss⟩
      · cases hmiss.many_matched
      · cases hmiss.many_matched
  · obtain ⟨k, hobs, hrest⟩ := matches_andThen.mp hstill
    have hmove : k = q + 1 := hk.taken (matches_apply.mp hobs)
    have := hrest.le hk.le
    omega

/-! #### Quoted pairs, and what stands between two marks -/

theorem taken_text (hk : Promised input call) {c : ByteClass} (hc : holdsOrdinary c = true)
    (h : (orElse (byte c) (apply .obsText)).Matches input call p true q) :
    Folded input p q ∨ ¬Solid input q := by
  rcases matches_orElse.mp h with h₁ | ⟨i, -, h₂⟩
  · obtain ⟨hb, rfl⟩ := matches_byte.mp h₁
    exact .inl (.single (ordinary_of_holdsOrdinary hc hb))
  · exact .inr (hk.taken (matches_apply.mp h₂))

/-- A quoted pair is a backslash and text. Its obsolete form never comes into play, since text never
fails behind a backslash. -/
theorem taken_quotedPair (hk : Promised input call)
    (h : (orElse (attempt (andThen (exactly 92) (apply .text))) (apply .obsQp)).Matches
      input call p true q) : Folded input p q ∨ Solid input p ∧ ¬Solid input q := by
  rcases matches_orElse.mp h with h₁ | ⟨i, hi, h₂⟩
  · obtain ⟨i, hi, htext⟩ := matches_andThen.mp (matches_attempt.mp h₁)
    obtain ⟨hb, rfl⟩ := matches_exactly.mp hi
    rcases hk.taken (matches_apply.mp htext) with hf | hq
    · exact .inl (.byte (classAt_ordinary.mpr ⟨92, hb, by decide⟩) hf)
    · exact .inr ⟨solid_of_byteAt? hb (by decide) (by decide), hq⟩
  · obtain ⟨rfl, j, hj⟩ := misses_attempt.mp hi
    have hb : byteAt? input i = some 92 := hk.taken (matches_apply.mp h₂)
    rcases misses_andThen.mp hj with hj | ⟨k, -, hj⟩
    · exact absurd hb (misses_exactly.mp hj).1
    · exact (hk.missed (matches_apply.mp hj)).elim

theorem taken_content (hk : Promised input call) {r : Rule} (hr : takesFolded r = true)
    (h : (orElse (apply r) (apply .quotedPair)).Matches input call p true q) :
    Folded input p q ∨ Solid input p ∧ ¬Solid input q := by
  rcases matches_orElse.mp h with h₁ | ⟨i, hi, h₂⟩
  · exact .inl (folded_of_taken hr (hk.taken (matches_apply.mp h₁)))
  · obtain rfl := hk.eq_of_missed _ _ _ (matches_apply.mp hi)
    exact hk.taken (matches_apply.mp h₂)

theorem taken_ccontent (hk : Promised input call)
    (h : (orElse (apply .ctext) (orElse (apply .quotedPair) (apply .comment))).Matches
      input call p true q) : Folded input p q ∨ Solid input p ∧ ¬Solid input q := by
  rcases matches_orElse.mp h with h₁ | ⟨i, hi, h₂⟩
  · exact .inl (hk.taken (matches_apply.mp h₁))
  · obtain rfl := hk.eq_of_missed _ _ _ (matches_apply.mp hi)
    rcases matches_orElse.mp h₂ with h₃ | ⟨j, hj, h₄⟩
    · exact hk.taken (matches_apply.mp h₃)
    · obtain rfl := hk.eq_of_missed _ _ _ (matches_apply.mp hj)
      exact .inl (hk.taken (matches_apply.mp h₄))

/-- A rule that may contain obsolete text: its text is folded, or nothing goes on behind it. -/
def MayHoldText (c : Rule) : Prop :=
  ∀ input p q, Taken input p q c → Folded input p q ∨ Solid input p ∧ ¬Solid input q

/-- Between two marks: once nothing can go on, no later part moves any more. -/
theorem folded_or_stuck (hk : Promised input call) {c : Rule} (hc : MayHoldText c)
    (h : (many (andThen optFws (apply c))).Matches input call p true q) :
    Folded input p q ∨ ¬Solid input q := by
  refine (h.many_invariant (I := fun i => Folded input p i ∨ ¬Solid input i) (fun i k hi hik => ?_)
    (.inl .nil)).1
  obtain ⟨j, hij, hjk⟩ := matches_andThen.mp hik
  have hf : Folded input i j := folded_of_covered hk (by decide) hij
  rcases hc input j k (hk.taken (matches_apply.mp hjk)) with hfc | ⟨hsolid, hstuck⟩
  · rcases hi with hi | hi
    · exact .inl (hi.trans (hf.trans hfc))
    · obtain rfl := hf.eq_of_not_solid hi
      obtain rfl := hfc.eq_of_not_solid hi
      exact .inr hi
  · exact .inr hstuck

/-- **What stands between two marks is folded**, since the second mark is reached. -/
theorem folded_of_closed (hk : Promised input call) {c : Rule} (hc : MayHoldText c) {a : UInt8}
    (ha : a ≠ 0 ∧ a ≠ 10 ∧ a ≠ 13 ∧ a < 128) {j : Nat}
    (hm : (many (andThen optFws (apply c))).Matches input call p true i)
    (hf : optFws.Matches input call i true j) (hb : byteAt? input j = some a) :
    Folded input p (j + 1) := by
  have hij : Folded input i j := folded_of_covered hk (by decide) hf
  have hmark : Folded input j (j + 1) := .single (classAt_ordinary.mpr ⟨a, hb, ha⟩)
  rcases folded_or_stuck hk hc hm with hpi | hstuck
  · exact hpi.trans (hij.trans hmark)
  · obtain rfl := hij.eq_of_not_solid hstuck
    exact absurd (solid_of_byteAt? hb ha.2.1 ha.2.2.2) hstuck

theorem taken_comment (hk : Promised input call)
    (h : (attempt (andThen (exactly 40) (andThen (many (andThen optFws (apply .ccontent)))
      (andThen optFws (exactly 41))))).Matches input call p true q) : Folded input p q := by
  obtain ⟨i, hopen, h₁⟩ := matches_andThen.mp (matches_attempt.mp h)
  obtain ⟨j, hm, h₂⟩ := matches_andThen.mp h₁
  obtain ⟨k, hf, hclose⟩ := matches_andThen.mp h₂
  obtain ⟨ha, rfl⟩ := matches_exactly.mp hopen
  obtain ⟨hb, rfl⟩ := matches_exactly.mp hclose
  exact .byte (classAt_ordinary.mpr ⟨40, ha, by decide⟩)
    (folded_of_closed hk (fun _ _ _ => id) (by decide) hm hf hb)

/-- A string or a literal, with what may stand around it. -/
theorem taken_enclosed (hk : Promised input call) {c : Rule} (hc : MayHoldText c) {a b : UInt8}
    (ha : a ≠ 0 ∧ a ≠ 10 ∧ a ≠ 13 ∧ a < 128) (hb : b ≠ 0 ∧ b ≠ 10 ∧ b ≠ 13 ∧ b < 128)
    (h : (attempt (andThen optCfws (andThen (exactly a) (andThen (many (andThen optFws (apply c)))
      (andThen optFws (andThen (exactly b) optCfws)))))).Matches input call p true q) :
    Folded input p q := by
  obtain ⟨i, hi, h₁⟩ := matches_andThen.mp (matches_attempt.mp h)
  obtain ⟨j, hopen, h₂⟩ := matches_andThen.mp h₁
  obtain ⟨k, hm, h₃⟩ := matches_andThen.mp h₂
  obtain ⟨l, hl, h₄⟩ := matches_andThen.mp h₃
  obtain ⟨m, hclose, hq⟩ := matches_andThen.mp h₄
  obtain ⟨hi', rfl⟩ := matches_exactly.mp hopen
  obtain ⟨hl', rfl⟩ := matches_exactly.mp hclose
  have hbefore : Folded input p i := folded_of_covered hk (by decide) hi
  have hafter : Folded input (l + 1) q := folded_of_covered hk (by decide) hq
  have hbetween := folded_of_closed hk hc hb hm hl hl'
  exact hbefore.trans (.byte (classAt_ordinary.mpr ⟨a, hi', ha⟩) (hbetween.trans hafter))

/-! #### All rules together -/

/-- The rules that are made of ordinary bytes and of rules that take folded text. -/
def isCovered (r : Rule) : Bool := (body none r).covered holdsOrdinary takesFolded

theorem taken_of_body (hk : Promised input call) {r : Rule}
    (h : (body policy r).Matches input call p true q) : Taken input p q r := by
  have hcovered : isCovered r = true → Folded input p q := fun hr =>
    folded_of_covered hk ((covered_body policy r).trans hr) h
  cases r with
  | wsp => exact taken_wsp h
  | lf | cr => exact matches_exactly.mp h
  | crlf => exact taken_crlf hk h
  | obsChar => exact (matches_byte.mp h).2
  | obsQp =>
    obtain ⟨i, hi, -⟩ := matches_andThen.mp (matches_attempt.mp h)
    exact (matches_exactly.mp hi).1
  | obsText => exact taken_obsText hk h
  | text => exact taken_text hk (by decide) h
  | quotedPair => exact taken_quotedPair hk h
  | ccontent => exact taken_ccontent hk h
  | qcontent => exact taken_content hk (r := .qtext) rfl h
  | dcontent => exact taken_content hk (r := .dtext) rfl h
  | obsUtext | utext | unstructured => trivial
  | fws => exact taken_fws hk h
  | obsFws => exact taken_obsFws hk h
  | comment => exact taken_comment hk h
  | quotedString => exact taken_enclosed hk (c := .qcontent) (fun _ _ _ => id) (by decide) (by decide) h
  | domainLiteral => exact taken_enclosed hk (c := .dcontent) (fun _ _ _ => id) (by decide) (by decide) h
  | _ => exact hcovered (by decide)

/-- Text and obsolete text never fail, and a carriage return or a character of obsolete text fails
only where there is none. -/
theorem missed_of_body (hk : Promised input call) {r : Rule}
    (h : (body policy r).Matches input call p false q) : Missed input p r := by
  cases r with
  | cr => exact (misses_exactly.mp h).1
  | obsChar =>
    rintro hcr ⟨b, hb, hlf, hlt⟩
    have hclass := (misses_byte.mp h).1
    have hmem := obsChar_iff.mpr ⟨hlf, fun heq => hcr (heq ▸ hb), hlt⟩
    rw [classAt, hb, Option.any_some, hmem] at hclass
    cases hclass
  | text =>
    obtain ⟨i, -, hi⟩ := misses_orElse.mp h
    exact hk.missed (r := .obsText) (matches_apply.mp hi)
  | obsText => cases h.eq_true_of_total rfl
  | _ => trivial

/-- **The rules keep their promises.** -/
theorem promised (policy : Option Policy) (input : String) :
    Promised input ((grammar policy).Matches input) := by
  have hboth : ∀ {r p b q}, (grammar policy).Matches input r p b q →
      if b then Taken input p q r else Missed input p r := by
    intro r p b q h
    refine h.rule_induction (P := fun r p b q => if b then Taken input p q r else Missed input p r)
      fun r p b i hi => ?_
    have hk : Promised input fun r p b q => (grammar policy).Matches input r p b q ∧
        if b then Taken input p q r else Missed input p r :=
      ⟨fun _ _ _ _ h => h.1.le, fun h => h.2, fun h => h.2, fun _ _ _ h => h.1.eq_of_missed⟩
    cases b
    · exact missed_of_body hk hi
    · exact taken_of_body hk hi
  exact ⟨fun _ _ _ _ h => h.le, fun h => hboth h, fun h => hboth h, fun _ _ _ h => h.eq_of_missed⟩

/-- What a rule that takes folded text takes as a whole is safe in a header. -/
theorem headerSafe_of_matches {r : Rule} (hr : takesFolded r = true)
    (h : (grammar policy).Matches input r 0 true input.utf8ByteSize) : HeaderSafe input :=
  (folded_of_taken hr ((promised policy input).taken h)).headerSafe

end AddressGrammar.Modern

namespace AddressGrammar.Validation

open Modern

/-- The rules for whole inputs. -/
theorem ruleNamed?_startRule (policy : Option Peg.Policy) (start : StartRule) :
    (grammar policy).ruleNamed? start.ruleName = some (match start with
      | .address => .root
      | .addrSpec => .onlyAddrSpec
      | .addressList => .onlyAddressList) := by
  change Rule.all.find? (fun r => r.name == start.ruleName) = _
  cases start <;> rfl

/-- **Nothing that a modern validator accepts ends a header**, whatever a whole input has to be,
with or without a policy on domains and at any bound on nesting. -/
theorem headerSafe_of_validate (v : Validator) (hv : v.syntaxKind = .modern) {input : String}
    (h : v.validate input = true) : HeaderSafe input := by
  have hok : checkWhole (grammar v.policy) v.maxDepth v.startRule.ruleName input = .ok () := by
    rw [Validator.validate, Validator.check, Validator.checkRule, hv] at h
    cases hc : checkWhole (grammar v.policy) v.maxDepth v.startRule.ruleName input with
    | ok u => rfl
    | error e =>
      simp only [hc] at h
      cases h
  obtain ⟨r, hr, hmatch⟩ := matchesWhole_of_checkWhole (ranking v.policy) hok
  rw [ruleNamed?_startRule] at hr
  cases hs : v.startRule with
  | address | addrSpec | addressList =>
    rw [hs] at hr
    obtain rfl := Option.some.inj hr
    exact headerSafe_of_matches rfl hmatch

/-- A comment that is folded after its first word. -/
theorem headerSafe_folded_comment :
    Validator.modern.validate "a@b(c\r\n d) " = true ∧ HeaderSafe "a@b(c\r\n d) " :=
  ⟨by decide +kernel, headerSafe_of_validate .modern rfl (by decide +kernel)⟩

/-- Behind a backslash a comment swallows a stray carriage return, and never ends. -/
example : Validator.modern.validate "a@b(\\\r) " = false := by decide +kernel

end AddressGrammar.Validation
