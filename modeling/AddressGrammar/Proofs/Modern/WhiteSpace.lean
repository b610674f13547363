import AddressGrammar.Proofs.Modern.FoldedText
import AddressGrammar.Proofs.Modern.Gaps
import AddressGrammar.Proofs.Peg.Answers
import Mathlib.Order.Bounds.Defs

/-!
# The extent of white space

White space is spaces and tabs, with a line end before the last of them if there is one. The rule for
it commits itself to the line end before it knows what is behind: where no white space follows, all of
its first alternative is given up, and the obsolete form is tried, which takes the same spaces and
tabs again and then as many folds as follow one another. There is none, since the line end that has
just been given up was the one in front of it. So the detour decides nothing, and white space has an
extent that can be read off the text: spaces and tabs, and one fold at most.

## Main definitions

* `blanksAt` — how many spaces and tabs stand at a position
* `FoldAt`, `foldEnd` — a line end with white space behind it, and where it ends
* `Folds` — folds that follow one another

## Main results

* `takes_fws_cases`, `of_misses_fws` — the extent of white space
* `of_takes_obsFws`, `of_misses_obsFws` — and of its obsolete form
* `eq_of_carriageReturn` — which line end is taken, if any
* `white_space_extent` — the same of runs
-/

namespace AddressGrammar.Modern

open Text Peg Peg.Expr Rule

variable {policy : Option Policy} {input : String} {p q i : Nat} {b : Bool}

/-- How many spaces and tabs stand at a position, one behind the other. -/
def blanksAt (input : String) (p : Nat) : Nat :=
  (((bytes input).drop p).takeWhile fun a => a == 32 || a == 9).length

/-- A carriage return and a line feed stand at the position. -/
def LineEndAt (input : String) (p : Nat) : Prop :=
  byteAt? input p = some 13 ∧ byteAt? input (p + 1) = some 10

/-- A fold stands at the position: a line end with white space behind it. -/
def FoldAt (input : String) (p : Nat) : Prop := LineEndAt input p ∧ 0 < blanksAt input (p + 2)

instance (input : String) : DecidablePred (LineEndAt input) := fun p =>
  inferInstanceAs (Decidable (byteAt? input p = some 13 ∧ byteAt? input (p + 1) = some 10))

instance (input : String) : DecidablePred (FoldAt input) := fun p =>
  inferInstanceAs (Decidable (LineEndAt input p ∧ 0 < blanksAt input (p + 2)))

/-- Behind a fold at the position, with all of its white space. -/
def foldEnd (input : String) (p : Nat) : Nat := p + 2 + blanksAt input (p + 2)

/-- Folds that follow one another lead from one position to another. -/
inductive Folds (input : String) : Nat → Nat → Prop where
  | nil {p : Nat} : Folds input p p
  | fold {p q : Nat} (h : FoldAt input p) (hrest : Folds input (foldEnd input p) q) :
      Folds input p q

/-! ### Spaces and tabs -/

/-- Where there is a blank, there are as many as behind it and one more. -/
theorem blanksAt_of_blank (h : Blank input p) : blanksAt input p = blanksAt input (p + 1) + 1 := by
  obtain ⟨a, ha, hblank⟩ : ∃ a, byteAt? input p = some a ∧ (a == 32 || a == 9) = true := by
    rcases h with h | h
    · exact ⟨32, h, rfl⟩
    · exact ⟨9, h, rfl⟩
  rw [byteAt?_eq_getElem?] at ha
  obtain ⟨hlt, rfl⟩ := List.getElem?_eq_some_iff.mp ha
  rw [blanksAt, List.drop_eq_getElem_cons hlt, List.takeWhile_cons, if_pos hblank, List.length_cons]
  rfl

theorem blanksAt_of_not_blank (h : ¬Blank input p) : blanksAt input p = 0 := by
  rw [blanksAt]
  rcases Nat.lt_or_ge p (bytes input).length with hlt | hle
  · have hbyte : byteAt? input p = some (bytes input)[p] := by
      rw [byteAt?_eq_getElem?, List.getElem?_eq_getElem hlt]
    rw [List.drop_eq_getElem_cons hlt, List.takeWhile_cons, if_neg, List.length_nil]
    rw [Bool.or_eq_true, beq_iff_eq, beq_iff_eq]
    rintro (heq | heq)
    · exact h (.inl (heq ▸ hbyte))
    · exact h (.inr (heq ▸ hbyte))
  · rw [List.drop_eq_nil_of_le hle, List.takeWhile_nil, List.length_nil]

theorem blanksAt_pos_iff : 0 < blanksAt input p ↔ Blank input p := by
  by_cases h : Blank input p
  · rw [blanksAt_of_blank h]
    exact iff_of_true (Nat.succ_pos _) h
  · rw [blanksAt_of_not_blank h]
    exact iff_of_false (Nat.lt_irrefl 0) h

/-- All of them are blanks. -/
theorem blank_of_lt {k : Nat} (h : k < blanksAt input p) : Blank input (p + k) := by
  induction k generalizing p with
  | zero => exact blanksAt_pos_iff.mp h
  | succ k ih =>
    rw [blanksAt_of_blank (blanksAt_pos_iff.mp (Nat.zero_lt_of_lt h))] at h
    have hblank := ih (Nat.lt_of_succ_lt_succ h)
    rwa [Nat.add_assoc, Nat.add_comm 1] at hblank

/-- There is no carriage return among them. -/
theorem not_carriageReturn_of_lt (hi : p ≤ i) (hlt : i < p + blanksAt input p) :
    byteAt? input i ≠ some 13 := by
  obtain ⟨k, rfl⟩ := Nat.exists_eq_add_of_le hi
  intro hcr
  rcases blank_of_lt (Nat.lt_of_add_lt_add_left hlt) with hblank | hblank <;>
    cases hcr.symm.trans hblank

theorem not_blank_of_misses (h : (grammar policy).Matches input wsp p false q) :
    ¬Blank input p := by
  obtain ⟨i, hbody, -⟩ := Grammar.matches_iff.mp h
  obtain ⟨j, hspace, htab⟩ := misses_orElse.mp hbody
  obtain ⟨hspace, rfl⟩ := misses_exactly.mp hspace
  exact fun hblank => hblank.elim hspace (misses_exactly.mp htab).1

/-- **A repetition takes all of them.** An iteration moves on by one, and one less is in front of it. -/
theorem eq_of_many_blanks
    (h : (many (apply wsp)).Matches input ((grammar policy).Matches input) p b q) :
    q = p + blanksAt input p := by
  have htaken : ∀ i j, (apply wsp).Matches input ((grammar policy).Matches input) i true j →
      Blank input i ∧ j = i + 1 := fun i j hij =>
    (promised policy input).taken (matches_apply.mp hij)
  obtain ⟨hq, i, hmiss⟩ := h.many_missed
    (I := fun i => i + blanksAt input i = p + blanksAt input p)
    (fun i j hi hij => by
      obtain ⟨hblank, rfl⟩ := htaken i j hij
      rw [← hi, blanksAt_of_blank hblank]
      omega)
    (fun i hi => Nat.succ_ne_self i (htaken i i hi).2.symm) rfl
  rw [← hq, blanksAt_of_not_blank (not_blank_of_misses (matches_apply.mp hmiss)), Nat.add_zero]

theorem of_takes_blanks
    (h : (many1 (apply wsp)).Matches input ((grammar policy).Matches input) p true q) :
    0 < blanksAt input p ∧ q = p + blanksAt input p := by
  obtain ⟨i, hfirst, -⟩ := matches_many1.mp h
  have hblank : Blank input p := ((promised policy input).taken (matches_apply.mp hfirst)).1
  exact ⟨blanksAt_pos_iff.mpr hblank, eq_of_many_blanks (many_of_many1 h)⟩

theorem of_misses_blanks
    (h : (many1 (apply wsp)).Matches input ((grammar policy).Matches input) p false q) :
    blanksAt input p = 0 := by
  obtain ⟨-, i, hi⟩ := misses_many1.mp h
  exact blanksAt_of_not_blank (not_blank_of_misses (matches_apply.mp hi))

/-! ### Folds -/

theorem lineEndAt_of_takes (h : Takes policy input crlf p q) : LineEndAt input p ∧ q = p + 2 := by
  obtain ⟨hcr, hlf, hq⟩ := (promised policy input).taken h
  exact ⟨⟨hcr, hlf⟩, hq⟩

theorem not_lineEndAt_of_misses (h : (grammar policy).Matches input crlf p false q) :
    ¬LineEndAt input p := by
  obtain ⟨i, hbody, -⟩ := Grammar.matches_iff.mp h
  obtain ⟨-, j, hj⟩ := misses_attempt.mp hbody
  rintro ⟨hcr, hlf⟩
  rcases misses_andThen.mp hj with hmiss | ⟨k, hk, hmiss⟩
  · exact (promised policy input).missed (matches_apply.mp hmiss) hcr
  · obtain ⟨-, rfl⟩ := (promised policy input).taken (matches_apply.mp hk)
    obtain ⟨l, hl, -⟩ := Grammar.matches_iff.mp (matches_apply.mp hmiss)
    exact (misses_exactly.mp hl).1 hlf

/-- A line end and white space, as the obsolete form repeats them. -/
abbrev foldPart : Expr Rule := chain [apply crlf, many1 (apply wsp)]

theorem of_takes_foldPart
    (h : foldPart.Matches input ((grammar policy).Matches input) p true q) :
    FoldAt input p ∧ q = foldEnd input p := by
  obtain ⟨i, hcrlf, hblanks⟩ := matches_andThen.mp h
  obtain ⟨hline, rfl⟩ := lineEndAt_of_takes (matches_apply.mp hcrlf)
  obtain ⟨hpos, hq⟩ := of_takes_blanks hblanks
  exact ⟨⟨hline, hpos⟩, hq⟩

theorem of_misses_foldPart
    (h : foldPart.Matches input ((grammar policy).Matches input) p false q) : ¬FoldAt input p := by
  rintro ⟨hline, hpos⟩
  rcases misses_andThen.mp h with hmiss | ⟨i, hi, hmiss⟩
  · exact not_lineEndAt_of_misses (matches_apply.mp hmiss) hline
  · obtain ⟨-, rfl⟩ := lineEndAt_of_takes (matches_apply.mp hi)
    exact Nat.ne_of_gt hpos (of_misses_blanks hmiss)

theorem lt_foldEnd (input : String) (p : Nat) : p < foldEnd input p := by
  rw [foldEnd]
  omega

namespace Folds

theorem le (h : Folds input p q) : p ≤ q := by
  induction h with
  | nil => exact Nat.le_refl _
  | fold _ _ ih => exact Nat.le_trans (Nat.le_of_lt (lt_foldEnd ..)) ih

/-- One more fold. -/
theorem concat (h : Folds input p q) (hq : FoldAt input q) : Folds input p (foldEnd input q) := by
  induction h with
  | nil => exact .fold hq .nil
  | fold hfold _ ih => exact .fold hfold (ih hq)

/-- Folds begin in one way only, so those that end in front of no further one are the most there
are. -/
theorem isGreatest (h : Folds input p q) (hq : ¬FoldAt input q) :
    IsGreatest {i | Folds input p i} q := by
  refine ⟨h, fun i hi => ?_⟩
  induction hi with
  | nil => exact h.le
  | fold hfold _ ih =>
    cases h with
    | nil => exact absurd hfold hq
    | fold _ hrest => exact ih hrest

end Folds

/-- **A repetition takes folds until there is none.** -/
theorem folds_of_many
    (h : (many foldPart).Matches input ((grammar policy).Matches input) p b q) :
    Folds input p q ∧ ¬FoldAt input q := by
  obtain ⟨hfolds, i, hmiss⟩ := h.many_missed (I := Folds input p)
    (fun i j hi hij => by
      obtain ⟨hfold, rfl⟩ := of_takes_foldPart hij
      exact hi.concat hfold)
    (fun i hi => Nat.ne_of_lt (lt_foldEnd input i) (of_takes_foldPart hi).2) .nil
  exact ⟨hfolds, of_misses_foldPart hmiss⟩

/-! ### White space -/

/-- **The extent of obsolete white space.** -/
theorem of_takes_obsFws (h : Takes policy input obsFws p q) : 0 < blanksAt input p ∧
    Folds input (p + blanksAt input p) q ∧ ¬FoldAt input q := by
  obtain ⟨i, hblanks, hfolds⟩ := matches_andThen.mp (matches_attempt.mp (Grammar.matches_body.mp h))
  obtain ⟨hpos, rfl⟩ := of_takes_blanks hblanks
  exact ⟨hpos, folds_of_many hfolds⟩

theorem of_misses_obsFws (h : (grammar policy).Matches input obsFws p false q) :
    blanksAt input p = 0 := by
  obtain ⟨i, hbody, -⟩ := Grammar.matches_iff.mp h
  obtain ⟨-, j, hj⟩ := misses_attempt.mp hbody
  rcases misses_andThen.mp hj with hmiss | ⟨k, -, hmiss⟩
  · exact of_misses_blanks hmiss
  · exact absurd hmiss not_misses_many

/-- White space and a line end, if there is one. -/
abbrev lineStart : Expr Rule := opt (chain [many (apply wsp), apply crlf])

/-- A line end is taken with what is in front of it, or else nothing. -/
theorem lineStart_cases
    (h : lineStart.Matches input ((grammar policy).Matches input) p true q) :
    LineEndAt input (p + blanksAt input p) ∧ q = p + blanksAt input p + 2 ∨
      ¬LineEndAt input (p + blanksAt input p) ∧ q = p := by
  rcases matches_opt.mp h with hline | ⟨rfl, i, hmiss⟩
  · obtain ⟨i, hblanks, hline⟩ := matches_andThen.mp hline
    obtain rfl := eq_of_many_blanks hblanks
    exact .inl (lineEndAt_of_takes (matches_apply.mp hline))
  · rcases misses_andThen.mp hmiss with hmiss | ⟨j, hblanks, hmiss⟩
    · exact absurd hmiss not_misses_many
    · obtain rfl := eq_of_many_blanks hblanks
      exact .inr ⟨not_lineEndAt_of_misses (matches_apply.mp hmiss), rfl⟩

/-- Where the first alternative for white space fails, no fold stands behind the spaces and tabs. -/
theorem not_foldAt_of_misses
    (h : (seq [lineStart, many1 (apply wsp)]).Matches input ((grammar policy).Matches input) p
      false q) : ¬FoldAt input (p + blanksAt input p) := by
  obtain ⟨-, i, hi⟩ := misses_attempt.mp h
  rintro ⟨hline, hpos⟩
  rcases misses_andThen.mp hi with hmiss | ⟨j, hj, hmiss⟩
  · exact not_misses_opt hmiss
  · rcases lineStart_cases hj with ⟨-, rfl⟩ | ⟨hnone, -⟩
    · exact Nat.ne_of_gt hpos (of_misses_blanks hmiss)
    · exact hnone hline

/-- **The extent of white space**: spaces and tabs, and a fold if one stands behind them. -/
theorem takes_fws_cases (h : Takes policy input fws p q) :
    FoldAt input (p + blanksAt input p) ∧ q = foldEnd input (p + blanksAt input p) ∨
      ¬FoldAt input (p + blanksAt input p) ∧ 0 < blanksAt input p ∧ q = p + blanksAt input p := by
  rcases matches_orElse.mp (Grammar.matches_body.mp h) with hplain | ⟨i, hmiss, hobs⟩
  · obtain ⟨i, hstart, hblanks⟩ := matches_andThen.mp (matches_attempt.mp hplain)
    obtain ⟨hpos, hq⟩ := of_takes_blanks hblanks
    rcases lineStart_cases hstart with ⟨hline, rfl⟩ | ⟨hnone, rfl⟩
    · exact .inl ⟨⟨hline, hpos⟩, hq⟩
    · exact .inr ⟨fun hfold => hnone hfold.1, hpos, hq⟩
  · -- The obsolete form begins where the first alternative did, and takes no fold.
    obtain ⟨rfl, -⟩ := misses_attempt.mp hmiss
    have hnone := not_foldAt_of_misses hmiss
    obtain ⟨hpos, hfolds, -⟩ := of_takes_obsFws (matches_apply.mp hobs)
    cases hfolds with
    | nil => exact .inr ⟨hnone, hpos, rfl⟩
    | fold hfold => exact absurd hfold hnone

/-- White space is missed where there is neither a space, a tab nor a fold. -/
theorem of_misses_fws (h : (grammar policy).Matches input fws p false q) :
    ¬FoldAt input (p + blanksAt input p) ∧ blanksAt input p = 0 := by
  obtain ⟨i, hbody, -⟩ := Grammar.matches_iff.mp h
  obtain ⟨j, hmiss, hobs⟩ := misses_orElse.mp hbody
  obtain ⟨rfl, -⟩ := misses_attempt.mp hmiss
  exact ⟨not_foldAt_of_misses hmiss, of_misses_obsFws (matches_apply.mp hobs)⟩

/-- **One line end at most is taken**, and white space follows it. -/
theorem eq_of_carriageReturn (h : Takes policy input fws p q) (hi : p ≤ i) (hq : i < q)
    (hcr : byteAt? input i = some 13) : i = p + blanksAt input p ∧ FoldAt input i := by
  have hbehind : p + blanksAt input p ≤ i := Nat.not_lt.mp fun hlt =>
    not_carriageReturn_of_lt hi hlt hcr
  rcases takes_fws_cases h with ⟨hfold, rfl⟩ | ⟨-, -, rfl⟩
  · -- Behind the carriage return there are a line feed and white space only.
    rcases Nat.eq_or_lt_of_le hbehind with rfl | hlt
    · exact ⟨rfl, hfold⟩
    · rcases Nat.eq_or_lt_of_le (Nat.succ_le_of_lt hlt) with rfl | hlt
      · cases hcr.symm.trans hfold.1.2
      · exact absurd hcr (not_carriageReturn_of_lt hlt hq)
  · exact absurd hq (Nat.not_lt.mpr hbehind)

/-! ### Runs -/

/-- **The extent of white space can be read off the text.** Let the rule for white space be applied in
a run that does not hit its bound on nesting. With all spaces and tabs that stand there it takes one
fold behind them, if there is one; without a fold it takes the spaces and tabs, and it fails where
there are none either. So a carriage return that it takes belongs to the one fold. Its obsolete form
takes the spaces and tabs, which must be there, and the longest chain of folds behind them. There is
such a run for every position. -/
theorem white_space_extent (policy : Option Policy) (input : String) (p : Nat) :
    (∀ o, (grammar policy).Answers input .fws p o →
      (FoldAt input (p + blanksAt input p) →
        o.matched = true ∧ o.stop = foldEnd input (p + blanksAt input p)) ∧
      (¬FoldAt input (p + blanksAt input p) → 0 < blanksAt input p →
        o.matched = true ∧ o.stop = p + blanksAt input p) ∧
      (¬FoldAt input (p + blanksAt input p) → blanksAt input p = 0 → o.matched = false) ∧
      (o.matched = true → ∀ i, p ≤ i → i < o.stop → byteAt? input i = some 13 →
        i = p + blanksAt input p ∧ FoldAt input i)) ∧
    (∀ o, (grammar policy).Answers input .obsFws p o →
      (blanksAt input p = 0 → o.matched = false) ∧
      (0 < blanksAt input p → o.matched = true ∧
        IsGreatest {q | Folds input (p + blanksAt input p) q} o.stop)) ∧
    (p ≤ input.utf8ByteSize →
      (∃ o, (grammar policy).Answers input .fws p o) ∧
        ∃ o, (grammar policy).Answers input .obsFws p o) := by
  refine ⟨fun o h => ?_, fun o h => ?_, fun hp => ⟨(grammar policy).exists_answers hp .fws,
    (grammar policy).exists_answers hp .obsFws⟩⟩
  · obtain ⟨hm, -⟩ := h.matches (ranking policy)
    cases hb : o.matched with
    | true =>
      rw [hb] at hm
      have hcases := takes_fws_cases hm
      refine ⟨fun hfold => ⟨rfl, ?_⟩, fun hnone _ => ⟨rfl, ?_⟩, fun hnone hzero => ?_,
        fun _ i hi hq => eq_of_carriageReturn hm hi hq⟩
      · exact (hcases.resolve_right fun h => h.1 hfold).2
      · exact (hcases.resolve_left fun h => hnone h.1).2.2
      · exact absurd hzero (Nat.ne_of_gt (hcases.resolve_left fun h => hnone h.1).2.1)
    | false =>
      rw [hb] at hm
      obtain ⟨hnone, hzero⟩ := of_misses_fws hm
      exact ⟨fun hfold => absurd hfold hnone, fun _ hpos => absurd hzero (Nat.ne_of_gt hpos),
        fun _ _ => rfl, nofun⟩
  · obtain ⟨hm, -⟩ := h.matches (ranking policy)
    cases hb : o.matched with
    | true =>
      rw [hb] at hm
      obtain ⟨hpos, hfolds, hend⟩ := of_takes_obsFws hm
      exact ⟨fun hzero => absurd hzero (Nat.ne_of_gt hpos), fun _ => ⟨rfl, hfolds.isGreatest hend⟩⟩
    | false =>
      rw [hb] at hm
      have hzero := of_misses_obsFws hm
      exact ⟨fun _ => rfl, fun hpos => absurd hzero (Nat.ne_of_gt hpos)⟩

/-- Two folds, of which white space takes one and its obsolete form both, and a line end that is no
fold. -/
theorem white_space_extent_two_folds :
    ((grammar none).Answers " \r\n \r\n x" .fws 0 (.hit 0 4) ∧
      FoldAt " \r\n \r\n x" 1 ∧ foldEnd " \r\n \r\n x" 1 = 4) ∧
    ((grammar none).Answers " \r\n \r\n x" .obsFws 0 (.hit 0 7) ∧
      IsGreatest {q | Folds " \r\n \r\n x" 1 q} 7) ∧
    ((grammar none).Answers "\t\t\r\nx" .fws 0 (.hit 0 2) ∧ blanksAt "\t\t\r\nx" 0 = 2) := by
  have hfws : (grammar none).Answers " \r\n \r\n x" .fws 0 (.hit 0 4) :=
    Grammar.answers_of_report 5 [] nofun (by decide +kernel) (by decide +kernel)
  have hobs : (grammar none).Answers " \r\n \r\n x" .obsFws 0 (.hit 0 7) :=
    Grammar.answers_of_report 5 [] nofun (by decide +kernel) (by decide +kernel)
  have hline : (grammar none).Answers "\t\t\r\nx" .fws 0 (.hit 0 2) :=
    Grammar.answers_of_report 5 [] nofun (by decide +kernel) (by decide +kernel)
  have hfold : FoldAt " \r\n \r\n x" 1 := by decide +kernel
  have hend := (((white_space_extent none " \r\n \r\n x" 0).1 _ hfws).1 hfold).2
  have hgreatest := (((white_space_extent none " \r\n \r\n x" 0).2.1 _ hobs).2
    (by decide +kernel)).2
  have hstop := (((white_space_extent none "\t\t\r\nx" 0).1 _ hline).2.1
    (by decide +kernel) (by decide +kernel)).2
  exact ⟨⟨hfws, hfold, hend.symm⟩, ⟨hobs, hgreatest⟩, hline, (hstop.trans (Nat.zero_add _)).symm⟩

end AddressGrammar.Modern
