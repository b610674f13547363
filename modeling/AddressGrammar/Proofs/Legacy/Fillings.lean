import AddressGrammar.Proofs.Peg.Heights
import AddressGrammar.Proofs.Text.Standing
import AddressGrammar.Proofs.Validation.PlainCheck

/-!
# Comments, quoted strings and domain literals

Three tokens of the legacy grammar have the same build. Between an opening and a closing mark there
are bytes that stand for themselves, folded lines, pairs of a backslash and any byte, and in a comment
further comments. Here that is a language of its own, independent of the way in which the grammar
reads it: the grammar takes stretches of plain bytes and of white space as long as they are, the
language adds one piece at a time. They agree because no piece can be mistaken for another one by its
first byte, except that blanks are plain bytes as well, which does not matter for where a reader comes
to.

Only comments make derivations higher. All other rules in here have a height of their own.

## Main definitions

* `Filling`, `Enclosed` — what stands between two marks, and such a text with its marks
* `Filled` — the same by position
* `IsComment`, `IsQuotedString`, `IsDomainLiteral` — the three tokens
* `Quotes` — what the three have in common

## Main results

* `Quotes.many_pieces` — the grammar takes a filling up to its closing mark
* `within_comment`, `within_quotedString`, `within_domainLiteral` — it takes the three tokens, by
  derivations of a known height
-/

namespace AddressGrammar.Legacy

open Text Peg Peg.Expr

/-! ### Texts -/

/-- What may stand between two marks: bytes of a class, line breaks with a blank behind them,
backslashes with an ASCII byte behind them and, if `nests` says so, comments. Comments are nested in
one another at most as often as the number says. -/
inductive Filling (c : ByteClass) (nests : Bool) : Nat → List UInt8 → Prop where
  | nil {n} : Filling c nests n []
  | plain {n b l} (hb : c.contains b = true) (hl : Filling c nests n l) : Filling c nests n (b :: l)
  | fold {n b l} (hb : b = 32 ∨ b = 9) (hl : Filling c nests n l) :
      Filling c nests n (13 :: 10 :: b :: l)
  | pair {n b l} (hb : b < 128) (hl : Filling c nests n l) : Filling c nests n (92 :: b :: l)
  | comment {n inner l} (hn : nests = true) (hinner : Filling c nests n inner)
      (hl : Filling c nests (n + 1) l) : Filling c nests (n + 1) (40 :: (inner ++ 41 :: l))

/-- A filling with a mark before and behind it. -/
def Enclosed (first last : UInt8) (c : ByteClass) (nests : Bool) (n : Nat) (s : String) : Prop :=
  ∃ inner, Filling c nests n inner ∧ bytes s = first :: (inner ++ [last])

/-- A comment, with comments inside nested at most so often. -/
abbrev IsComment : Nat → String → Prop := Enclosed 40 41 commentBytes true

/-- A quoted string. -/
abbrev IsQuotedString : String → Prop := Enclosed 34 34 quotedBytes false 0

/-- A domain literal. -/
abbrev IsDomainLiteral : String → Prop := Enclosed 91 93 literalBytes false 0

/-! ### Positions -/

/-- Between two positions of the input stands a filling. -/
inductive Filled (input : String) (c : ByteClass) (nests : Bool) : Nat → Nat → Nat → Prop where
  | nil {n p} : Filled input c nests n p p
  | plain {n p q} (hp : classAt input c p = true) (hr : Filled input c nests n (p + 1) q) :
      Filled input c nests n p q
  | fold {n b p q} (hcr : byteAt? input p = some 13) (hlf : byteAt? input (p + 1) = some 10)
      (hblank : byteAt? input (p + 2) = some b) (hb : b = 32 ∨ b = 9)
      (hr : Filled input c nests n (p + 3) q) : Filled input c nests n p q
  | pair {n b p q} (hp : byteAt? input p = some 92) (hpair : byteAt? input (p + 1) = some b)
      (hb : b < 128) (hr : Filled input c nests n (p + 2) q) : Filled input c nests n p q
  | comment {n p i q} (hn : nests = true) (hp : byteAt? input p = some 40)
      (hinner : Filled input c nests n (p + 1) i) (hi : byteAt? input i = some 41)
      (hr : Filled input c nests (n + 1) (i + 1) q) : Filled input c nests (n + 1) p q

variable {input : String} {c : ByteClass} {nests : Bool} {n p q i : Nat}

theorem Filled.le (h : Filled input c nests n p q) : p ≤ q := by
  induction h with
  | nil => exact Nat.le_refl _
  | plain _ _ ih | fold _ _ _ _ _ ih | pair _ _ _ _ ih => omega
  | comment _ _ _ _ _ ih₁ ih₂ => omega

/-- A filling that stands somewhere. -/
theorem Filling.filled {l : List UInt8} (h : Filling c nests n l) (hl : spelledAt input p l = true) :
    Filled input c nests n p (p + l.length) := by
  induction h generalizing p with
  | nil => exact .nil
  | plain hb _ ih =>
    obtain ⟨hp, hl⟩ := spelledAt_cons.mp hl
    rw [List.length_cons, Nat.add_comm _ 1, ← Nat.add_assoc]
    exact .plain (classAt_of_byteAt? hp hb) (ih hl)
  | fold hb _ ih =>
    obtain ⟨hcr, hl⟩ := spelledAt_cons.mp hl
    obtain ⟨hlf, hl⟩ := spelledAt_cons.mp hl
    obtain ⟨hblank, hl⟩ := spelledAt_cons.mp hl
    have hr := ih hl
    simp only [List.length_cons]
    rw [show ∀ k, p + (k + 1 + 1 + 1) = p + 1 + 1 + 1 + k by omega]
    exact .fold hcr hlf hblank hb hr
  | pair hb _ ih =>
    obtain ⟨hp, hl⟩ := spelledAt_cons.mp hl
    obtain ⟨hpair, hl⟩ := spelledAt_cons.mp hl
    have hr := ih hl
    simp only [List.length_cons]
    rw [show ∀ k, p + (k + 1 + 1) = p + 1 + 1 + k by omega]
    exact .pair hp hpair hb hr
  | @comment n inner l hn _ _ ih₁ ih₂ =>
    obtain ⟨hp, hl⟩ := spelledAt_cons.mp hl
    obtain ⟨hinner, hl⟩ := spelledAt_concat.mp hl
    obtain ⟨hi, hl⟩ := spelledAt_cons.mp hl
    have hr := ih₂ hl
    simp only [List.length_cons, List.length_append]
    rw [show p + (inner.length + (l.length + 1) + 1) = p + 1 + inner.length + 1 + l.length by omega]
    exact .comment hn hp (ih₁ hinner) hi hr

/-! ### Heights -/

/-- Rules that do not come to a comment. -/
def commentFree : Rule → Bool
  | .comment | .ocms | .valid | .address | .group | .mailbox | .angleAddr | .route | .addrSpec
  | .localPart | .domain | .root | .onlyAddrSpec => false
  | _ => true

/-- How many bodies such a rule opens inside its own. -/
def height : Rule → Nat
  | .spaces | .lwspChar | .crlf | .quotedPair | .domainRef => 1
  | .linearWhiteSpace => 2
  | .ctext | .dtext | .qtext => 3
  | .quotedString | .domainLiteral => 4
  | .word | .subDomain => 5
  | .phrase => 6
  | _ => 0

variable {policy : Option Policy} {r : Rule} {b : Bool}

theorem flat (policy : Option Policy) : (grammar policy).Flat (commentFree · = true) height := by
  refine Grammar.flat_of_all fun r hr => ?_
  have hbody : (grammar policy).body r = body none r := by
    revert hr
    cases r <;> first
      | exact fun _ => rfl
      | exact nofun
  rw [hbody]
  revert hr
  cases r <;> decide

/-- A rule that does not come to a comment misses by a derivation of its own height where it does not
match. -/
theorem misses_within (hr : commentFree r = true) (hn : height r < n) (hp : p ≤ input.utf8ByteSize)
    (h : ∀ q, ¬(grammar policy).Matches input r p true q) :
    (apply r).Matches input ((grammar policy).MatchesWithin input n) p false p := by
  obtain ⟨i, hi⟩ := (ranking policy).exists_miss hp (e := apply r) fun q hq =>
    h q (matches_apply.mp hq)
  obtain rfl := (matches_apply.mp hi).eq_of_missed
  exact .apply ((flat policy).within hr hn (matches_apply.mp hi))

/-- The same for a match. -/
theorem matches_within (hr : commentFree r = true) (hn : height r < n)
    (h : (grammar policy).Matches input r p b q) :
    (apply r).Matches input ((grammar policy).MatchesWithin input n) p b q :=
  .apply ((flat policy).within hr hn h)

/-! ### White space and pairs -/

theorem matches_lwspChar_iff : (grammar policy).Matches input .lwspChar p true q ↔
    (byteAt? input p = some 32 ∨ byteAt? input p = some 9) ∧ q = p + 1 := by
  have hspace : (grammar policy).Matches input .space p true q ↔ byteAt? input p = some 32 ∧ q = p + 1 :=
    Grammar.matches_body.trans matches_exactly
  have htab : (grammar policy).Matches input .htab p true q ↔ byteAt? input p = some 9 ∧ q = p + 1 :=
    Grammar.matches_body.trans matches_exactly
  refine Grammar.matches_body.trans (matches_orElse.trans ⟨?_, ?_⟩)
  · rintro (h | ⟨i, hi, h⟩)
    · obtain ⟨hp, hq⟩ := hspace.mp (matches_apply.mp h)
      exact ⟨.inl hp, hq⟩
    · obtain rfl := (matches_apply.mp hi).eq_of_missed
      obtain ⟨hp, hq⟩ := htab.mp (matches_apply.mp h)
      exact ⟨.inr hp, hq⟩
  · rintro ⟨hp | hp, hq⟩
    · exact .inl (.apply (hspace.mpr ⟨hp, hq⟩))
    · exact .inr ⟨p, .apply (.of_body (misses_exactly_of_ne hp (by decide))),
        .apply (htab.mpr ⟨hp, hq⟩)⟩

theorem matches_crlf_iff : (grammar policy).Matches input .crlf p true q ↔
    byteAt? input p = some 13 ∧ byteAt? input (p + 1) = some 10 ∧ q = p + 2 := by
  have hcr : ∀ i, (grammar policy).Matches input .cr p true i ↔
      byteAt? input p = some 13 ∧ i = p + 1 :=
    fun i => Grammar.matches_body.trans matches_exactly
  have hlf : ∀ i, (grammar policy).Matches input .lf i true q ↔
      byteAt? input i = some 10 ∧ q = i + 1 :=
    fun i => Grammar.matches_body.trans matches_exactly
  refine Grammar.matches_body.trans (matches_attempt.trans (matches_andThen.trans ⟨?_, ?_⟩))
  · rintro ⟨i, hi, h⟩
    obtain ⟨hp, rfl⟩ := (hcr i).mp (matches_apply.mp hi)
    obtain ⟨hp', rfl⟩ := (hlf _).mp (matches_apply.mp h)
    exact ⟨hp, hp', rfl⟩
  · rintro ⟨hp, hp', rfl⟩
    exact ⟨p + 1, .apply ((hcr _).mpr ⟨hp, rfl⟩), .apply ((hlf _).mpr ⟨hp', rfl⟩)⟩

theorem matches_quotedPair_iff : (grammar policy).Matches input .quotedPair p true q ↔
    byteAt? input p = some 92 ∧ (∃ a, byteAt? input (p + 1) = some a ∧ a < 128) ∧ q = p + 2 := by
  have hchar : ∀ i, (grammar policy).Matches input .char i true q ↔
      (∃ a, byteAt? input i = some a ∧ a < 128) ∧ q = i + 1 := by
    refine fun i => Grammar.matches_body.trans (matches_byte.trans (and_congr_left' ?_))
    have hascii : ∀ a : UInt8, ByteClass.ascii.contains a = true ↔ a < 128 := fun a => by
      rw [ByteClass.ascii, ByteClass.contains_range, Bool.and_eq_true, decide_eq_true_eq,
        decide_eq_true_eq, UInt8.le_iff_toNat_le, UInt8.le_iff_toNat_le, UInt8.lt_iff_toNat_lt]
      simp only [UInt8.reduceToNat]
      omega
    simp only [classAt, Option.any_eq_true, hascii]
  refine Grammar.matches_body.trans (matches_attempt.trans (matches_andThen.trans ⟨?_, ?_⟩))
  · rintro ⟨i, hi, h⟩
    obtain ⟨hp, rfl⟩ := matches_exactly.mp hi
    obtain ⟨hp', rfl⟩ := (hchar _).mp (matches_apply.mp h)
    exact ⟨hp, hp', rfl⟩
  · rintro ⟨hp, hp', rfl⟩
    exact ⟨p + 1, matches_exactly.mpr ⟨hp, rfl⟩, .apply ((hchar _).mpr ⟨hp', rfl⟩)⟩

/-- A blank with or without a line break before it. -/
abbrev foldedBlank : Expr Rule := chain [opt (apply .crlf), apply .lwspChar]

theorem foldedBlank_cases
    (h : foldedBlank.Matches input ((grammar policy).Matches input) p true q) :
    (byteAt? input p = some 13 ∧ q = p + 3) ∨
      (byteAt? input p = some 32 ∨ byteAt? input p = some 9) ∧ q = p + 1 := by
  obtain ⟨i, hi, h⟩ := matches_andThen.mp h
  obtain ⟨hblank, rfl⟩ := matches_lwspChar_iff.mp (matches_apply.mp h)
  rcases matches_opt.mp hi with hi | ⟨rfl, -⟩
  · obtain ⟨hp, -, rfl⟩ := matches_crlf_iff.mp (matches_apply.mp hi)
    exact .inl ⟨hp, rfl⟩
  · exact .inr ⟨hblank, rfl⟩

theorem foldedBlank_of_fold {a : UInt8} (hcr : byteAt? input p = some 13)
    (hlf : byteAt? input (p + 1) = some 10) (hblank : byteAt? input (p + 2) = some a)
    (ha : a = 32 ∨ a = 9) :
    foldedBlank.Matches input ((grammar policy).Matches input) p true (p + 3) := by
  have hblank' : byteAt? input (p + 2) = some 32 ∨ byteAt? input (p + 2) = some 9 := by
    rcases ha with rfl | rfl
    · exact .inl hblank
    · exact .inr hblank
  exact .andThen (matches_opt.mpr (.inl (.apply (matches_crlf_iff.mpr ⟨hcr, hlf, rfl⟩))))
    (.apply (matches_lwspChar_iff.mpr ⟨hblank', rfl⟩))

/-- White space begins with a line break or a blank. -/
theorem not_linearWhiteSpace {a : UInt8} (hp : byteAt? input p = some a) (ha : a ∉ [9, 13, 32]) :
    ¬(grammar policy).Matches input .linearWhiteSpace p true q := by
  intro h
  obtain ⟨i, hi, -⟩ := matches_many1.mp (Grammar.matches_body.mp h)
  have hne : ∀ a', byteAt? input p = some a' → a' ∉ ([9, 13, 32] : List UInt8) := by
    intro a' hp'
    cases hp.symm.trans hp'
    exact ha
  rcases foldedBlank_cases hi with ⟨hp', -⟩ | ⟨hp' | hp', -⟩ <;> exact hne _ hp' (by decide)

/-! ### Pieces -/

/-- The pieces of a filling as the grammar takes them. -/
def pieces (t : Rule) (nests : Bool) : Expr Rule :=
  alt (apply t :: apply .quotedPair :: if nests then [apply .comment] else [])

/-- What stands between a pair of marks: the rule for its bytes, their class, whether there may be
comments, and the closing mark. -/
structure Quotes (t : Rule) (c : ByteClass) (nests : Bool) (last : UInt8) : Prop where
  body : ∀ policy, body policy t = alt [run c, apply .linearWhiteSpace]
  free : commentFree t = true
  height_eq : height t = 3
  last_mem : last ∈ ([34, 41, 93] : List UInt8)
  not_last : c.contains last = false
  not_cr : c.contains 13 = false
  not_backslash : c.contains 92 = false
  blanks : c.contains 32 = true ∧ c.contains 9 = true
  comments : nests = true → t = .ctext ∧ c = commentBytes ∧ last = 41

namespace Quotes

variable {t : Rule} {last : UInt8} {call : Rule → Nat → Bool → Nat → Prop} {m : Nat}

theorem comment : Quotes .ctext commentBytes true 41 :=
  ⟨fun _ => rfl, rfl, rfl, by decide, by decide, by decide, by decide, by decide,
    fun _ => ⟨rfl, rfl, rfl⟩⟩

theorem quotedString : Quotes .qtext quotedBytes false 34 :=
  ⟨fun _ => rfl, rfl, rfl, by decide, by decide, by decide, by decide, by decide, nofun⟩

theorem domainLiteral : Quotes .dtext literalBytes false 93 :=
  ⟨fun _ => rfl, rfl, rfl, by decide, by decide, by decide, by decide, by decide, nofun⟩

section

variable (hq : Quotes t c nests last)
include hq

theorem not_open (hn : nests = true) : c.contains 40 = false := by
  obtain ⟨-, rfl, -⟩ := hq.comments hn
  decide

/-- A plain byte is a piece of its own. -/
theorem after_plain (hlast : byteAt? input q = some last) (h : Filled input c nests n p q)
    (hp : classAt input c p = true) : Filled input c nests n (p + 1) q := by
  cases h with
  | nil => exact absurd hlast (byteAt?_ne_of_classAt hp hq.not_last)
  | plain _ hr => exact hr
  | fold hcr => exact absurd hcr (byteAt?_ne_of_classAt hp hq.not_cr)
  | pair hpair => exact absurd hpair (byteAt?_ne_of_classAt hp hq.not_backslash)
  | comment hn hopen => exact absurd hopen (byteAt?_ne_of_classAt hp (hq.not_open hn))

/-- A line break comes with a blank. -/
theorem after_cr (hlast : byteAt? input q = some last) (h : Filled input c nests n p q)
    (hp : byteAt? input p = some 13) : Filled input c nests n (p + 3) q := by
  cases h with
  | nil =>
    cases hp.symm.trans hlast
    exact absurd hq.last_mem (by decide)
  | plain hc => exact absurd hp (byteAt?_ne_of_classAt hc hq.not_cr)
  | fold _ _ _ _ hr => exact hr
  | pair hpair => cases hp.symm.trans hpair
  | comment _ hopen => cases hp.symm.trans hopen

/-- A stretch of plain bytes is a filling behind each of them. -/
theorem after_run (hlast : byteAt? input q = some last) (h : Filled input c nests n p q)
    (hp : classAt input c p = true) : Filled input c nests n (runEnd input c (p + 1)) q := by
  have hskip : ∀ k i, Filled input c nests n i q →
      Filled input c nests n (skipAtMost input c k i) q := by
    intro k
    induction k with
    | zero => exact fun _ hi => hi
    | succ k ih =>
      intro i hi
      rw [skipAtMost]
      split
      · next hc => exact ih (i + 1) (hq.after_plain hlast hi hc)
      · exact hi
  exact hskip _ _ (hq.after_plain hlast h hp)

/-- A stretch of white space ends where a piece ends. -/
theorem after_space (hlast : byteAt? input q = some last) (h : Filled input c nests n p q)
    (hm : (many foldedBlank).Matches input ((grammar policy).Matches input) p b i) :
    Filled input c nests n i q := by
  refine (hm.many_invariant (I := fun i => Filled input c nests n i q) (fun j k hj hjk => ?_) h).1
  rcases foldedBlank_cases hjk with ⟨hcr, rfl⟩ | ⟨hblank | hblank, rfl⟩
  · exact hq.after_cr hlast hj hcr
  · exact hq.after_plain hlast hj (classAt_of_byteAt? hblank hq.blanks.1)
  · exact hq.after_plain hlast hj (classAt_of_byteAt? hblank hq.blanks.2)

/-- Where a stretch of white space begins with a line break, the rule for the bytes takes it. -/
theorem exists_space (policy : Option Policy) {a : UInt8} (hlast : byteAt? input q = some last)
    (h : Filled input c nests n (p + 3) q) (hcr : byteAt? input p = some 13)
    (hlf : byteAt? input (p + 1) = some 10) (hblank : byteAt? input (p + 2) = some a)
    (ha : a = 32 ∨ a = 9) :
    ∃ i, p < i ∧ (grammar policy).Matches input t p true i ∧ Filled input c nests n i q := by
  have hsize : p + 3 ≤ input.utf8ByteSize := lt_of_byteAt?_eq_some hblank
  obtain ⟨b, i, hi⟩ := (ranking policy).exists_matches hsize (many foldedBlank)
  have hle : p + 3 ≤ i := hi.le fun _ _ _ _ h => h.le
  obtain rfl := hi.many_matched
  have hspace : (grammar policy).Matches input .linearWhiteSpace p true i :=
    Grammar.matches_body.mpr (matches_many1.mpr ⟨_, foldedBlank_of_fold hcr hlf hblank ha, hi⟩)
  refine ⟨i, by omega, Grammar.matches_body.mpr ?_, hq.after_space hlast h hi⟩
  change (Legacy.body policy t).Matches _ _ _ _ _
  rw [hq.body]
  have hmiss : classAt input c p = false :=
    Bool.eq_false_iff.mpr fun hc => byteAt?_ne_of_classAt hc hq.not_cr hcr
  exact .orElse_next (.run_miss hmiss) (.apply hspace)

/-- The rule for the bytes does not match where other pieces begin. -/
theorem not_reads {a : UInt8} (hp : byteAt? input p = some a) (ha : a ∉ [9, 13, 32])
    (hc : c.contains a = false) : ¬(grammar policy).Matches input t p true i := by
  intro h
  have h := Grammar.matches_body.mp h
  change (Legacy.body policy t).Matches _ _ _ _ _ at h
  rw [hq.body] at h
  rcases matches_orElse.mp h with h | ⟨j, hj, h⟩
  · exact byteAt?_ne_of_classAt (matches_run.mp h).1 hc hp
  · cases hj with
    | run_miss => exact not_linearWhiteSpace hp ha (matches_apply.mp h)

/-- Where the rule for the bytes does not match, it misses by a derivation of its own height. -/
theorem misses_text (policy : Option Policy) {a : UInt8} (hm : 4 ≤ m)
    (hp : byteAt? input p = some a) (ha : a ∉ [9, 13, 32]) (hc : c.contains a = false) :
    (apply t).Matches input ((grammar policy).MatchesWithin input m) p false p :=
  misses_within hq.free (hq.height_eq ▸ hm) (Nat.le_of_lt (lt_of_byteAt?_eq_some hp))
    fun _ => hq.not_reads hp ha hc

theorem matches_text (hm : 4 ≤ m) (h : (grammar policy).Matches input t p true i) :
    (pieces t nests).Matches input ((grammar policy).MatchesWithin input m) p true i :=
  .orElse (matches_within hq.free (hq.height_eq ▸ hm) h)

end

/-- Where no backslash stands there is no pair. -/
theorem misses_pair (policy : Option Policy) {a : UInt8} (hm : 4 ≤ m)
    (hp : byteAt? input p = some a) (ha : a ≠ 92) :
    (apply .quotedPair).Matches input ((grammar policy).MatchesWithin input m) p false p := by
  refine misses_within rfl (show 1 < m by omega) (Nat.le_of_lt (lt_of_byteAt?_eq_some hp))
    fun q hq => ?_
  exact ha (Option.some.inj (hp.symm.trans (matches_quotedPair_iff.mp hq).1))

/-- Where no parenthesis stands there is no comment. -/
theorem misses_comment (hm : 0 < m) (hp : byteAt? input p ≠ some 40) :
    (apply .comment).Matches input ((grammar policy).MatchesWithin input m) p false p := by
  obtain ⟨m, rfl⟩ := Nat.exists_eq_succ_of_ne_zero (Nat.ne_of_gt hm)
  exact .apply (.of_body (.attempt_miss (.andThen_miss (misses_exactly.mpr ⟨hp, rfl⟩))))

/-- The closing mark is no piece. -/
theorem misses_last (hq : Quotes t c nests last) (hm : 4 ≤ m) (hp : byteAt? input p = some last) :
    (pieces t nests).Matches input ((grammar policy).MatchesWithin input m) p false p := by
  have hmarks : last ∉ ([9, 13, 32] : List UInt8) ∧ last ≠ 92 ∧ last ≠ 40 := by
    have hall : ∀ a ∈ ([34, 41, 93] : List UInt8),
        a ∉ ([9, 13, 32] : List UInt8) ∧ a ≠ 92 ∧ a ≠ 40 := by
      simp
    exact hall last hq.last_mem
  have htext := hq.misses_text policy hm hp hmarks.1 hq.not_last
  have hpair := misses_pair policy hm hp hmarks.2.1
  have hopen : byteAt? input p ≠ some 40 := fun hp' => hmarks.2.2 (Option.some.inj (hp.symm.trans hp'))
  cases nests with
  | false => exact .orElse_next htext hpair
  | true => exact .orElse_next htext (.orElse_next hpair (misses_comment (by omega) hopen))

/-- **The grammar takes a filling up to its closing mark**, by derivations that are higher by one for
each comment inside another one. -/
theorem many_pieces (hq : Quotes t c nests last) (hlast : byteAt? input q = some last)
    (h : Filled input c nests n p q) (hm : n + 4 ≤ m) :
    (many (pieces t nests)).Matches input ((grammar policy).MatchesWithin input m) p true q := by
  induction hk : q - p using Nat.strongRecOn generalizing n p q m with
  | ind k ih =>
    -- a piece is taken, and the rest is shorter
    have next : ∀ {i}, p < i → Filled input c nests n i q →
        (pieces t nests).Matches input ((grammar policy).MatchesWithin input m) p true i →
        (many (pieces t nests)).Matches input ((grammar policy).MatchesWithin input m) p true q := by
      intro i hlt hr hpiece
      have hle := hr.le
      exact .many_next hpiece (Nat.ne_of_gt hlt) (ih (q - i) (by omega) hlast hr hm rfl)
    have hfour : 4 ≤ m := by omega
    cases h with
    | nil => exact .many_miss (hq.misses_last hfour hlast)
    | plain hc hr =>
      have hle := le_skipAtMost input c (input.utf8ByteSize - (p + 1)) (p + 1)
      have htext : (grammar policy).Matches input t p true (runEnd input c (p + 1)) := by
        refine Grammar.matches_body.mpr ?_
        change (Legacy.body policy t).Matches _ _ _ _ _
        rw [hq.body]
        exact .orElse (.run hc)
      exact next hle (hq.after_run hlast (.plain hc hr) hc) (hq.matches_text hfour htext)
    | fold hcr hlf hblank ha hr =>
      obtain ⟨i, hlt, htext, hrest⟩ := hq.exists_space policy hlast hr hcr hlf hblank ha
      exact next hlt hrest (hq.matches_text hfour htext)
    | pair hp hpair ha hr =>
      have htaken : (grammar policy).Matches input .quotedPair p true (p + 2) :=
        matches_quotedPair_iff.mpr ⟨hp, ⟨_, hpair, ha⟩, rfl⟩
      have htext := hq.misses_text policy hfour hp (by decide) hq.not_backslash
      have hpiece := matches_within (r := .quotedPair) rfl (show 1 < m by omega) htaken
      refine next (by omega) hr (.orElse_next htext ?_)
      cases nests with
      | false => exact hpiece
      | true => exact .orElse hpiece
    | @comment n _ i _ hn hp hinner hi hr =>
      obtain ⟨rfl, rfl, rfl⟩ := hq.comments hn
      subst hn
      have hle := hinner.le
      have hle' := hr.le
      have htext := hq.misses_text policy hfour hp (by decide) (hq.not_open rfl)
      have hpair := misses_pair policy hfour hp (by decide)
      have hpieces := ih (i - (p + 1)) (by omega) hi hinner (Nat.le_refl (n + 4)) rfl
      have hcomment : (grammar policy).MatchesWithin input (n + 5) .comment p true (i + 1) :=
        .of_body (b := true) (.attempt (.andThen (matches_exactly.mpr ⟨hp, rfl⟩)
          (.andThen hpieces (matches_exactly.mpr ⟨hi, rfl⟩))))
      exact next (by omega) hr (.orElse_next htext
        (.orElse_next hpair (.apply (hcomment.mono (by omega)))))

/-- The pieces between two marks, with the marks. -/
theorem matches_marks {first : UInt8} {inner : List UInt8} (hq : Quotes t c nests last)
    (hinner : Filling c nests n inner)
    (h : spelledAt input p (first :: (inner ++ [last])) = true) (hm : n + 4 ≤ m) :
    (chain [exactly first, many (pieces t nests), exactly last]).Matches input
      ((grammar policy).MatchesWithin input m) p true (p + (inner.length + 2)) := by
  obtain ⟨hfirst, h⟩ := spelledAt_cons.mp h
  obtain ⟨hl, h⟩ := spelledAt_concat.mp h
  obtain ⟨hlast, -⟩ := spelledAt_cons.mp h
  rw [show p + (inner.length + 2) = p + 1 + inner.length + 1 by omega]
  exact .andThen (matches_exactly.mpr ⟨hfirst, rfl⟩)
    (.andThen (hq.many_pieces hlast (hinner.filled hl) hm) (matches_exactly.mpr ⟨hlast, rfl⟩))

/-- The same for a text that stands somewhere. -/
theorem matches_enclosed {first : UInt8} {s : String} (hq : Quotes t c nests last)
    (hs : Enclosed first last c nests n s) (h : StandsAt input p s) (hm : n + 4 ≤ m) :
    (chain [exactly first, many (pieces t nests), exactly last]).Matches input
      ((grammar policy).MatchesWithin input m) p true (p + s.utf8ByteSize) := by
  obtain ⟨inner, hinner, hbytes⟩ := hs
  have hsize : s.utf8ByteSize = inner.length + 2 := by
    rw [← length_bytes, hbytes]
    simp
  rw [StandsAt, hbytes] at h
  rw [hsize]
  exact hq.matches_marks hinner h hm

end Quotes

variable {s : String}

theorem within_comment (hs : IsComment n s) (h : StandsAt input p s) :
    (grammar policy).MatchesWithin input (n + 5) .comment p true (p + s.utf8ByteSize) :=
  .of_body (b := true) (.attempt (Quotes.comment.matches_enclosed hs h (Nat.le_refl _)))

theorem within_quotedString (hs : IsQuotedString s) (h : StandsAt input p s) :
    (grammar policy).MatchesWithin input 5 .quotedString p true (p + s.utf8ByteSize) :=
  .of_body (b := true) (.attempt (Quotes.quotedString.matches_enclosed hs h (Nat.le_refl _)))

theorem within_domainLiteral (hs : IsDomainLiteral s) (h : StandsAt input p s) :
    (grammar policy).MatchesWithin input 5 .domainLiteral p true (p + s.utf8ByteSize) :=
  .of_body (b := true) (.attempt (Quotes.domainLiteral.matches_enclosed hs h (Nat.le_refl _)))

end AddressGrammar.Legacy
