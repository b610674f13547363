import AddressGrammar.Proofs.Legacy.Fillings
import AddressGrammar.Proofs.Notation.Derivability
import AddressGrammar.Proofs.Peg.Answers
import Mathlib.Computability.Language
import Mathlib.Order.CompletePartialOrder

/-!
# The languages of delimited tokens

A quoted string, a domain literal and a comment are words of three languages that say nothing about
reading. Between two marks there are items: a byte of ASCII that is no mark, no backslash and no
carriage return, a backslash and any byte of ASCII, or a line end and a blank. In a comment there are
comments as well, so the language of comments is a solution of an equation, and it is the least one.

The grammar takes such a word whole. It takes runs of plain bytes and of white space that are as long
as they can be, and a run of white space may hold many items; but no run reaches over a mark, and
where a run ends the rest is items again. In the other direction whatever the grammar takes splits
into items, no matter how it was read. Since the grammar comes to one end only, no position is the
beginning of two words of such a language.

## Main definitions

* `IsItem`, `items`, `enclosed` — items, and what is enclosed in marks
* `quotedStrings`, `domainLiterals`, `comments` — the three languages
* `Recognizes` — a rule takes a stretch exactly if it is a word of a language

## Main results

* `comments_isLeast` — comments are the least solution of their equation
* `Encloses.takes_iff` — what the three rules take
* `delimited_tokens` — the rules recognize the languages
-/

namespace AddressGrammar.Legacy

open Text Peg Peg.Expr

open scoped Computability

/-! ### Languages -/

/-- What may stand between marks besides comments. -/
inductive IsItem (marks : List UInt8) : List UInt8 → Prop where
  | byte {b} (hascii : b < 128) (hcr : b ≠ 13) (hbackslash : b ≠ 92) (hmarks : b ∉ marks) :
      IsItem marks [b]
  | pair {b} (hascii : b < 128) : IsItem marks [92, b]
  | fold {b} (hblank : b = 32 ∨ b = 9) : IsItem marks [13, 10, b]

/-- The items between given marks. -/
def items (marks : List UInt8) : Language UInt8 := {w | IsItem marks w}

/-- Any number of words, with a mark in front and a mark behind. -/
def enclosed (first last : UInt8) (inner : Language UInt8) : Language UInt8 :=
  {[first]} * inner∗ * {[last]}

/-- Items between quotation marks. -/
def quotedStrings : Language UInt8 := enclosed 34 34 (items [34])

/-- Items between square brackets. -/
def domainLiterals : Language UInt8 := enclosed 91 93 (items [91, 93])

/-- Fillings between parentheses, with comments in them nested as deeply as one likes. -/
def comments : Language UInt8 :=
  {w | ∃ n inner, Filling commentBytes true n inner ∧ w = 40 :: (inner ++ [41])}

variable {L : Language UInt8} {v w : List UInt8} {first last : UInt8}

theorem mem_kstar_of_mem (hw : w ∈ L) : w ∈ L∗ := (le_kstar : L ≤ L∗) hw

theorem append_mem_kstar (hv : v ∈ L∗) (hw : w ∈ L∗) : v ++ w ∈ L∗ :=
  kstar_mul_kstar L ▸ Language.append_mem_mul hv hw

theorem mem_kstar_mono {M : Language UInt8} (h : L ≤ M) (hw : w ∈ L∗) : w ∈ M∗ :=
  (kstar_mono h : L∗ ≤ M∗) hw

theorem mem_enclosed_iff :
    w ∈ enclosed first last L ↔ ∃ inner ∈ L∗, w = first :: (inner ++ [last]) := by
  constructor
  · rintro ⟨_, ⟨_, rfl, inner, hinner, rfl⟩, _, rfl, rfl⟩
    exact ⟨inner, hinner, rfl⟩
  · rintro ⟨inner, hinner, rfl⟩
    exact ⟨_, ⟨_, rfl, inner, hinner, rfl⟩, _, rfl, rfl⟩

/-! ### Fillings are words of items and comments -/

variable {c : ByteClass} {nests : Bool} {n m : Nat} {marks l : List UInt8}

namespace Filling

/-- Comments may be nested less deeply. -/
theorem mono (h : Filling c nests n l) (hle : n ≤ m) : Filling c nests m l := by
  induction h generalizing m with
  | nil => exact .nil
  | plain hb _ ih => exact .plain hb (ih hle)
  | fold hb _ ih => exact .fold hb (ih hle)
  | pair hb _ ih => exact .pair hb (ih hle)
  | comment hn _ _ ih₁ ih₂ =>
    obtain ⟨m, rfl⟩ := Nat.exists_eq_add_of_le' (Nat.le_trans (Nat.le_add_left 1 _) hle)
    exact .comment hn (ih₁ (Nat.le_of_succ_le_succ hle)) (ih₂ hle)

end Filling

/-- The bytes of the class are those that stand for themselves between the marks. -/
def Plain (c : ByteClass) (marks : List UInt8) : Prop :=
  ∀ b, c.contains b = true ↔ b < 128 ∧ b ≠ 13 ∧ b ≠ 92 ∧ b ∉ marks

instance : Decidable (Plain c marks) :=
  decidable_of_iff (allBytes.all (fun b => decide
      (c.contains b = true ↔ b < 128 ∧ b ≠ 13 ∧ b ≠ 92 ∧ b ∉ marks)) = true) <| by
    rw [List.all_eq_true]
    exact ⟨fun h b => of_decide_eq_true (h b (mem_allBytes b)), fun h b _ => decide_eq_true (h b)⟩

/-- Words that are comments, if there may be any. -/
def nested (nests : Bool) : Language UInt8 := {w | nests = true ∧ w ∈ comments}

/-- A filling consists of items and of words of any language that has the comments in it. -/
theorem Filling.mem_kstar {C : Language UInt8} (hc : Plain c marks)
    (hC : nests = true → enclosed 40 41 (items marks + C) ≤ C) (h : Filling c nests n l) :
    l ∈ (items marks + C)∗ := by
  -- An item and then a filling.
  have step : ∀ {w l}, IsItem marks w → l ∈ (items marks + C)∗ → w ++ l ∈ (items marks + C)∗ :=
    fun hw hl => append_mem_kstar (mem_kstar_of_mem (.inl hw)) hl
  induction h with
  | nil => exact Language.nil_mem_kstar _
  | plain hb _ ih =>
    obtain ⟨hascii, hcr, hbackslash, hmarks⟩ := (hc _).mp hb
    exact step (.byte hascii hcr hbackslash hmarks) ih
  | fold hb _ ih => exact step (.fold hb) ih
  | pair hb _ ih => exact step (.pair hb) ih
  | @comment n inner l hn _ _ ih₁ ih₂ =>
    have hcomment : 40 :: (inner ++ [41]) ∈ C := hC hn (mem_enclosed_iff.mpr ⟨inner, ih₁, rfl⟩)
    have happend := append_mem_kstar (mem_kstar_of_mem (L := items marks + C) (.inr hcomment)) ih₂
    simpa using happend

/-- Words of items and comments are fillings. -/
theorem exists_filling (hc : Plain c marks) (hnested : nests = true → c = commentBytes)
    (h : l ∈ (items marks + nested nests)∗) : ∃ n, Filling c nests n l := by
  obtain ⟨words, rfl, hwords⟩ := h
  induction words with
  | nil => exact ⟨0, .nil⟩
  | cons w words ih =>
    obtain ⟨hw, hwords⟩ := List.forall_mem_cons.mp hwords
    obtain ⟨n, hn⟩ := ih hwords
    rcases hw with hitem | ⟨hnests, m, inner, hinner, rfl⟩
    · refine ⟨n, ?_⟩
      cases hitem with
      | byte hascii hcr hbackslash hmarks =>
        exact .plain ((hc _).mpr ⟨hascii, hcr, hbackslash, hmarks⟩) hn
      | pair hascii => exact .pair hascii hn
      | fold hblank => exact .fold hblank hn
    · subst hnests
      obtain rfl := hnested rfl
      refine ⟨max m n + 1, ?_⟩
      have hrest := hn.mono (m := max m n + 1) (by omega)
      simpa using Filling.comment rfl (hinner.mono (Nat.le_max_left m n)) hrest

/-! ### Comments -/

theorem nested_true : nested true = comments := by
  ext w
  exact and_iff_right rfl

theorem nested_false : nested false = 0 := by
  ext w
  exact ⟨fun h => Bool.noConfusion h.1, fun h => h.elim⟩

theorem plain_commentBytes : Plain commentBytes [40, 41] := by decide +kernel

theorem enclosed_comments_le : enclosed 40 41 (items [40, 41] + comments) ≤ comments := by
  intro w hw
  obtain ⟨inner, hinner, rfl⟩ := mem_enclosed_iff.mp hw
  rw [← nested_true] at hinner
  obtain ⟨n, hn⟩ := exists_filling plain_commentBytes (fun _ => rfl) hinner
  exact ⟨n, inner, hn, rfl⟩

/-- **Comments are the least solution of their equation.** -/
theorem comments_isLeast : IsLeast {C | C = enclosed 40 41 (items [40, 41] + C)} comments := by
  -- A filling is made of items and of words of any solution.
  have hle : ∀ {C}, enclosed 40 41 (items [40, 41] + C) ≤ C →
      comments ≤ enclosed 40 41 (items [40, 41] + C) := by
    rintro C hC _ ⟨n, inner, hinner, rfl⟩
    exact mem_enclosed_iff.mpr ⟨inner, hinner.mem_kstar plain_commentBytes fun _ => hC, rfl⟩
  refine ⟨le_antisymm (hle enclosed_comments_le) enclosed_comments_le, fun C hC => ?_⟩
  have hC' : enclosed 40 41 (items [40, 41] + C) = C := Eq.symm hC
  exact (hle hC'.le).trans hC'.le

/-! ### What the grammar takes -/

variable {policy : Option Policy} {input : String} {r t : Rule} {p q : Nat} {b : Bool}

/-- The rule takes what stands between two marks. -/
structure Encloses (r t : Rule) (c : ByteClass) (nests : Bool) (first last : UInt8)
    (marks : List UInt8) : Prop extends Quotes t c nests last where
  rule_body : ∀ policy, Legacy.body policy r =
    attempt (chain [exactly first, many (pieces t nests), exactly last])
  plain : Plain c marks

theorem encloses_comment : Encloses .comment .ctext commentBytes true 40 41 [40, 41] :=
  ⟨Quotes.comment, fun _ => rfl, plain_commentBytes⟩

theorem encloses_quotedString : Encloses .quotedString .qtext quotedBytes false 34 34 [34] :=
  ⟨Quotes.quotedString, fun _ => rfl, by decide +kernel⟩

theorem encloses_domainLiteral : Encloses .domainLiteral .dtext literalBytes false 91 93 [91, 93] :=
  ⟨Quotes.domainLiteral, fun _ => rfl, by decide +kernel⟩

/-- A repetition takes words of a language if its iterations do. -/
theorem mem_kstar_of_many {e : Expr Rule} {call : Rule → Nat → Bool → Nat → Prop}
    (hle : ∀ r p b q, call r p b q → p ≤ q)
    (hstep : ∀ i j, e.Matches input call i true j → bytesBetween input i j ∈ L∗)
    (h : (many e).Matches input call p b q) : bytesBetween input p q ∈ L∗ := by
  have hbegin : p ≤ p ∧ bytesBetween input p p ∈ L∗ :=
    ⟨Nat.le_refl p, by rw [bytesBetween_self]; exact Language.nil_mem_kstar L⟩
  refine (h.many_invariant (I := fun i => p ≤ i ∧ bytesBetween input p i ∈ L∗)
    (fun i j ⟨hi, hmem⟩ hij => ?_) hbegin).1.2
  have hj := hij.le hle
  refine ⟨Nat.le_trans hi hj, ?_⟩
  rw [← bytesBetween_append hi hj]
  exact append_mem_kstar hmem (hstep i j hij)

/-- Bytes that are words by themselves. -/
theorem mem_kstar_of_forall (h : ∀ b ∈ w, [b] ∈ L) : w ∈ L∗ := by
  induction w with
  | nil => exact Language.nil_mem_kstar L
  | cons b w ih =>
    obtain ⟨hb, hw⟩ := List.forall_mem_cons.mp h
    exact append_mem_kstar (mem_kstar_of_mem hb) (ih hw)

theorem Plain.isItem (hc : Plain c marks) {b : UInt8} (hb : c.contains b = true) :
    IsItem marks [b] := by
  obtain ⟨hascii, hcr, hbackslash, hmarks⟩ := (hc b).mp hb
  exact .byte hascii hcr hbackslash hmarks

/-- A blank with or without a line end before it is an item. -/
theorem isItem_foldedBlank (hc : Plain c marks)
    (hblanks : c.contains 32 = true ∧ c.contains 9 = true)
    (h : foldedBlank.Matches input ((grammar policy).Matches input) p true q) :
    IsItem marks (bytesBetween input p q) := by
  obtain ⟨i, hi, h⟩ := matches_andThen.mp h
  obtain ⟨hbyte, rfl⟩ := matches_lwspChar_iff.mp (matches_apply.mp h)
  obtain ⟨b, hb, hblank, hmem⟩ : ∃ b, byteAt? input i = some b ∧ (b = 32 ∨ b = 9) ∧
      c.contains b = true := by
    rcases hbyte with hb | hb
    · exact ⟨32, hb, .inl rfl, hblanks.1⟩
    · exact ⟨9, hb, .inr rfl, hblanks.2⟩
  rcases matches_opt.mp hi with hi | ⟨rfl, -⟩
  · obtain ⟨hcr, hlf, rfl⟩ := matches_crlf_iff.mp (matches_apply.mp hi)
    have hspelled : spelledAt input p [13, 10, b] = true :=
      spelledAt_cons.mpr ⟨hcr, spelledAt_cons.mpr ⟨hlf, spelledAt_cons.mpr ⟨hb, rfl⟩⟩⟩
    have hword : bytesBetween input p (p + 3) = [13, 10, b] := bytesBetween_of_spelledAt hspelled
    exact hword ▸ .fold hblank
  · rw [bytesBetween_succ hb]
    exact hc.isItem hmem

namespace Encloses

variable (he : Encloses r t c nests first last marks)
include he

/-- Stretches of plain bytes and of white space consist of items. -/
theorem mem_of_text (h : (grammar policy).Matches input t p true q) :
    bytesBetween input p q ∈ (items marks)∗ := by
  have h := Grammar.matches_body.mp h
  change (Legacy.body policy t).Matches _ _ _ _ _ at h
  rw [he.body] at h
  rcases matches_orElse.mp h with hrun | ⟨i, hi, hspace⟩
  · obtain ⟨hp, rfl⟩ := matches_run.mp hrun
    exact mem_kstar_of_forall fun b hb => he.plain.isItem ((run_of_classAt hp).2 b hb)
  · cases hi with
    | run_miss =>
      have hblanks := many_of_many1 (Grammar.matches_body.mp (matches_apply.mp hspace))
      exact mem_kstar_of_many (fun _ _ _ _ h => h.le)
        (fun i j hij => mem_kstar_of_mem (isItem_foldedBlank he.plain he.blanks hij)) hblanks

omit he in
/-- A quoted pair is an item. -/
theorem isItem_of_quotedPair (h : (grammar policy).Matches input .quotedPair p true q) :
    IsItem marks (bytesBetween input p q) := by
  obtain ⟨hbackslash, ⟨b, hb, hascii⟩, rfl⟩ := matches_quotedPair_iff.mp h
  have hspelled : spelledAt input p [92, b] = true :=
    spelledAt_cons.mpr ⟨hbackslash, spelledAt_cons.mpr ⟨hb, rfl⟩⟩
  have hword : bytesBetween input p (p + 2) = [92, b] := bytesBetween_of_spelledAt hspelled
  exact hword ▸ .pair hascii

section

variable {call : Rule → Nat → Bool → Nat → Prop}
  (hcall : ∀ {r p b q}, call r p b q → (grammar policy).Matches input r p b q)
  (hcomment : ∀ {p q}, call .comment p true q → bytesBetween input p q ∈ comments)
include hcall hcomment

/-- The pieces between marks consist of items and comments. -/
theorem mem_of_pieces (h : (pieces t nests).Matches input call p true q) :
    bytesBetween input p q ∈ (items marks + nested nests)∗ := by
  have htext : (apply t).Matches input call p true q →
      bytesBetween input p q ∈ (items marks + nested nests)∗ := fun h =>
    mem_kstar_mono le_sup_left (he.mem_of_text (hcall (matches_apply.mp h)))
  have hpair : (apply .quotedPair).Matches input call p true q →
      bytesBetween input p q ∈ (items marks + nested nests)∗ := fun h =>
    mem_kstar_of_mem (.inl (isItem_of_quotedPair (hcall (matches_apply.mp h))))
  have hmiss : ∀ {r i}, (apply r).Matches input call p false i → i = p := fun h =>
    (hcall (matches_apply.mp h)).eq_of_missed
  cases nests with
  | false =>
    rcases matches_orElse.mp h with ht | ⟨i, hi, hp⟩
    · exact htext ht
    · obtain rfl := hmiss hi
      exact hpair hp
  | true =>
    rcases matches_orElse.mp h with ht | ⟨i, hi, hrest⟩
    · exact htext ht
    · obtain rfl := hmiss hi
      rcases matches_orElse.mp hrest with hp | ⟨j, hj, hc⟩
      · exact hpair hp
      · obtain rfl := hmiss hj
        exact mem_kstar_of_mem (.inr ⟨rfl, hcomment (matches_apply.mp hc)⟩)

/-- What stands between the marks is enclosed in them. -/
theorem mem_of_body (h : (Legacy.body policy r).Matches input call p true q) :
    bytesBetween input p q ∈ enclosed first last (items marks + nested nests) := by
  rw [he.rule_body] at h
  obtain ⟨i, hfirst, h⟩ := matches_andThen.mp (matches_attempt.mp h)
  obtain ⟨j, hpieces, hlast⟩ := matches_andThen.mp h
  obtain ⟨hp, rfl⟩ := matches_exactly.mp hfirst
  obtain ⟨hj, rfl⟩ := matches_exactly.mp hlast
  have hle : ∀ r p b q, call r p b q → p ≤ q := fun _ _ _ _ h => (hcall h).le
  have hpj := hpieces.le hle
  have hinner := mem_kstar_of_many (L := items marks + nested nests) hle
    (fun _ _ hij => he.mem_of_pieces hcall hcomment hij) hpieces
  refine mem_enclosed_iff.mpr ⟨_, hinner, ?_⟩
  rw [← bytesBetween_append (Nat.le_succ p) (by omega : p + 1 ≤ j + 1), bytesBetween_succ hp,
    ← bytesBetween_append hpj (Nat.le_succ j), bytesBetween_succ hj]
  rfl

end

end Encloses

/-- **A comment of the grammar is a comment**, by induction on the comments inside. -/
theorem mem_comments (h : (grammar policy).Matches input .comment p true q) :
    bytesBetween input p q ∈ comments := by
  refine h.rule_induction
    (P := fun r p b q => r = .comment → b = true → bytesBetween input p q ∈ comments)
    (fun r p b i hi hr hb => ?_) rfl rfl
  subst hr hb
  have hmem := encloses_comment.mem_of_body (fun h => h.1) (fun h => h.2 rfl rfl) hi
  rw [nested_true] at hmem
  exact enclosed_comments_le hmem

/-- **What the three rules take**: a stretch of the input that is enclosed in their marks. -/
theorem Encloses.takes_iff (he : Encloses r t c nests first last marks) :
    (grammar policy).Matches input r p true q ↔ q ≤ input.utf8ByteSize ∧
      bytesBetween input p q ∈ enclosed first last (items marks + nested nests) := by
  have hbody : (grammar policy).body r =
      attempt (chain [exactly first, many (pieces t nests), exactly last]) := he.rule_body policy
  constructor
  · intro h
    refine ⟨?_, he.mem_of_body id mem_comments (Grammar.matches_body.mp h)⟩
    have hm := Grammar.matches_body.mp h
    rw [hbody] at hm
    obtain ⟨i, hfirst, -⟩ := matches_andThen.mp (matches_attempt.mp hm)
    exact h.le_size (Nat.le_of_lt (lt_of_byteAt?_eq_some (matches_exactly.mp hfirst).1))
  · rintro ⟨hsize, hmem⟩
    obtain ⟨inner, hinner, hword⟩ := mem_enclosed_iff.mp hmem
    obtain ⟨n, hn⟩ := exists_filling he.plain (fun hnests => (he.comments hnests).2.1) hinner
    have hspelled := spelledAt_bytesBetween input p q
    have hlength := length_bytesBetween p hsize
    rw [hword] at hspelled hlength
    have hq : q = p + (inner.length + 2) := by
      rw [List.length_cons, List.length_append, List.length_singleton] at hlength
      omega
    refine Grammar.matches_body.mpr ?_
    rw [hbody, hq]
    exact .attempt ((he.matches_marks hn hspelled (Nat.le_refl (n + 4))).mono fun h => ⟨_, h⟩)

/-- A rule recognizes a language if, wherever it is applied, in any run that does not hit its bound on
nesting, it matches up to the end of a word that begins there, and fails where none does. No two words
begin at the same place. -/
structure Recognizes (policy : Option Policy) (r : Rule) (L : Language UInt8) : Prop where
  answers_iff : ∀ input p o, (grammar policy).Answers input r p o → ∀ q,
    o.matched = true ∧ o.stop = q ↔ q ≤ input.utf8ByteSize ∧ bytesBetween input p q ∈ L
  exists_answers : ∀ input p, p ≤ input.utf8ByteSize → ∃ o, (grammar policy).Answers input r p o
  unique : ∀ input p q q', q ≤ input.utf8ByteSize → q' ≤ input.utf8ByteSize →
    bytesBetween input p q ∈ L → bytesBetween input p q' ∈ L → q' = q

theorem Encloses.recognizes (he : Encloses r t c nests first last marks)
    (policy : Option Policy) :
    Recognizes policy r (enclosed first last (items marks + nested nests)) where
  answers_iff _ _ _ h _ := (h.hit_iff (ranking policy)).trans he.takes_iff
  exists_answers _ _ hp := (grammar policy).exists_answers hp r
  unique input p q q' hq hq' hw hw' := by
    have h : (grammar policy).Matches input r p true q := he.takes_iff.mpr ⟨hq, hw⟩
    exact (h.unique (he.takes_iff.mpr ⟨hq', hw'⟩)).2

/-- **Delimited tokens.** In every input and at every position, and whatever was applied before, as
long as the bound on nesting is not hit, the legacy rules for quoted strings, domain literals and
comments match exactly the words of their languages, and at most one word of each language begins at
a position. The language of comments is the smallest one whose words are items and words of its own
between parentheses. -/
theorem delimited_tokens (policy : Option Policy) :
    IsLeast {C | C = enclosed 40 41 (items [40, 41] + C)} comments ∧
      Recognizes policy .quotedString quotedStrings ∧
      Recognizes policy .domainLiteral domainLiterals ∧ Recognizes policy .comment comments := by
  have hquoted := encloses_quotedString.recognizes policy
  have hliteral := encloses_domainLiteral.recognizes policy
  have hcomment := encloses_comment.recognizes policy
  rw [nested_false, add_zero] at hquoted hliteral
  rw [nested_true, ← comments_isLeast.1] at hcomment
  exact ⟨comments_isLeast, hquoted, hliteral, hcomment⟩

/-- A comment with another one and a quoted parenthesis in it, in front of a word. -/
theorem delimited_tokens_nested :
    bytesBetween "(a(b)\\))c" 0 8 ∈ comments ∧ bytesBetween "(a(b)\\))c" 0 9 ∉ comments := by
  have h : (grammar none).Answers "(a(b)\\))c" .comment 0 (.hit 0 8) :=
    Grammar.answers_of_report 9 [] nofun (by decide +kernel) (by decide +kernel)
  have hiff := (delimited_tokens none).2.2.2.answers_iff _ _ _ h
  exact ⟨((hiff 8).mp ⟨rfl, rfl⟩).2, fun hmem => absurd ((hiff 9).mpr ⟨by decide +kernel, hmem⟩).2 (by decide)⟩

end AddressGrammar.Legacy
