import AddressGrammar.Proofs.Peg.LeftCalls
import AddressGrammar.Proofs.Text.DottedText

/-!
# Matching runs and dots

A repetition takes all it can get, so a repeated byte of a class takes a longest run of the class, as
a run expression does. What takes a dot and such a run, repeated behind a first run, takes longest
runs with dots between them. Conversely, a repetition takes all of such a text unless another dot
follows it.

## Main results

* `matches_run_iff`, `matches_many1_iff` — the two ways to take a longest run
* `dottedBetween_of_many`, `many_of_dottedBetween` — a first run, and then dots and runs
-/

namespace AddressGrammar.Peg

open Text Peg.Expr

variable {R : Type} {g : Grammar R} {input : String} {c : ByteClass} {p q i : Nat} {b : Bool}

/-! ### One run -/

/-- Passing over the bytes of a class stops behind the last one of them. -/
theorem skipAtMost_spec {n : Nat} (hn : input.utf8ByteSize ≤ p + n) :
    (∀ i, p ≤ i → i < skipAtMost input c n p → classAt input c i = true) ∧
      ¬classAt input c (skipAtMost input c n p) = true := by
  induction n generalizing p with
  | zero =>
    refine ⟨fun i hi hi' => absurd hi (Nat.not_le_of_lt hi'), fun hclass => ?_⟩
    exact absurd (lt_of_classAt hclass) (Nat.not_lt_of_le hn)
  | succ n ih =>
    rw [skipAtMost]
    split
    · next hp =>
      obtain ⟨hinside, hend⟩ := ih (p := p + 1) (by omega)
      refine ⟨fun i hi hi' => ?_, hend⟩
      rcases Nat.eq_or_lt_of_le hi with rfl | hlt
      · exact hp
      · exact hinside i hlt hi'
    · next hp => exact ⟨fun i hi hi' => absurd hi (Nat.not_le_of_lt hi'), hp⟩

theorem runBetween_runEnd (hp : classAt input c p = true) :
    RunBetween input c p (runEnd input c (p + 1)) := by
  have hlen : input.utf8ByteSize ≤ (p + 1) + (input.utf8ByteSize - (p + 1)) := by omega
  obtain ⟨hinside, hend⟩ := skipAtMost_spec (c := c) hlen
  refine ⟨le_skipAtMost .., fun i hi hi' => ?_, hend⟩
  rcases Nat.eq_or_lt_of_le hi with rfl | hlt
  · exact hp
  · exact hinside i hlt hi'

/-- A run expression takes a longest run. -/
theorem matches_run_iff {call : R → Nat → Bool → Nat → Prop} :
    (run c).Matches input call p true q ↔ RunBetween input c p q := by
  rw [matches_run]
  constructor
  · rintro ⟨hp, rfl⟩
    exact runBetween_runEnd hp
  · intro h
    exact ⟨h.head, (runBetween_runEnd h.head).unique h⟩

/-- A repeated byte of a class stops in front of the first other byte. -/
theorem runBetween_of_many1 {e : Expr R} (he : ∀ p q, e.Matches input (g.Matches input) p true q ↔
      classAt input c p = true ∧ q = p + 1)
    (h : (many1 e).Matches input (g.Matches input) p true q) : RunBetween input c p q := by
  obtain ⟨i, hi, hrest⟩ := matches_many1.mp h
  have hstep : ∀ i j, (p ≤ i ∧ ∀ l, p ≤ l → l < i → classAt input c l = true) →
      e.Matches input (g.Matches input) i true j →
      p < j ∧ ∀ l, p ≤ l → l < j → classAt input c l = true := by
    rintro i j ⟨hle, hinside⟩ hij
    obtain ⟨hclass, rfl⟩ := (he i j).mp hij
    refine ⟨Nat.lt_succ_of_le hle, fun l hl hl' => ?_⟩
    rcases Nat.lt_succ_iff_lt_or_eq.mp hl' with hlt | rfl
    · exact hinside l hl hlt
    · exact hclass
  obtain ⟨⟨hlt, hinside⟩, j, hj⟩ := hrest.many_missed
    (I := fun j => p < j ∧ ∀ l, p ≤ l → l < j → classAt input c l = true)
    (fun i j hi => hstep i j ⟨Nat.le_of_lt hi.1, hi.2⟩)
    (fun i hi => Nat.succ_ne_self i ((he i i).mp hi).2.symm)
    (hstep p i ⟨Nat.le_refl p, fun l hl hl' => absurd hl (Nat.not_le_of_lt hl')⟩ hi)
  refine ⟨hlt, hinside, fun hq => ?_⟩
  cases (hj.unique Grammar.matches_unique ((he q (q + 1)).mpr ⟨hq, rfl⟩)).1

section Ranked

variable [DecidableEq R] (k : g.Ranking)
include k

/-- A repeated byte of a class takes a longest run of it. -/
theorem matches_many1_iff {e : Expr R} (he : ∀ p q, e.Matches input (g.Matches input) p true q ↔
      classAt input c p = true ∧ q = p + 1) :
    (many1 e).Matches input (g.Matches input) p true q ↔ RunBetween input c p q := by
  refine ⟨runBetween_of_many1 he, fun h => ?_⟩
  have hfirst := (he p (p + 1)).mpr ⟨h.head, rfl⟩
  have hle : p + 1 ≤ input.utf8ByteSize := lt_of_classAt h.head
  obtain ⟨b, q', hrest⟩ := k.exists_matches hle (many e)
  obtain rfl := hrest.many_matched
  -- What is repeated takes some longest run from there, and there is no other one.
  have hm := matches_many1.mpr ⟨_, hfirst, hrest⟩
  exact h.unique (runBetween_of_many1 he hm) ▸ hm

end Ranked

/-! ### Runs and dots -/

section Dotted

variable {e : Expr R} (he : ∀ p q, e.Matches input (g.Matches input) p true q ↔
  RunBetween input c p q)
include he

/-- A dot and an expression that takes runs. -/
theorem matches_dotThen_iff : (chain [token '.', e]).Matches input (g.Matches input) p true q ↔
    byteAt? input p = some 46 ∧ RunBetween input c (p + 1) q := by
  refine matches_andThen.trans ⟨?_, ?_⟩
  · rintro ⟨i, hdot, h⟩
    obtain ⟨hp, rfl⟩ := matches_exactly.mp hdot
    exact ⟨hp, (he _ q).mp h⟩
  · rintro ⟨hp, h⟩
    exact ⟨p + 1, matches_exactly.mpr ⟨hp, rfl⟩, (he _ q).mpr h⟩

/-- **Behind a first run, a repetition takes dots and runs.** -/
theorem dottedBetween_of_many (hfirst : RunBetween input c p i)
    (h : (many (chain [token '.', e])).Matches input (g.Matches input) i b q) :
    DottedBetween input c p q := by
  generalize hloop : many (chain [token '.', e]) = loop at h
  induction h generalizing p with
  | many_miss | many_still =>
    cases hloop
    exact .run hfirst
  | many_next h _ _ _ ih =>
    cases hloop
    obtain ⟨hdot, hrun⟩ := (matches_dotThen_iff he).mp h
    exact .dot hfirst hdot (ih hrun rfl)
  | _ => cases hloop

/-- A first run and a repetition. -/
theorem dottedBetween_of_seq
    (h : (seq [e, many (chain [token '.', e])]).Matches input (g.Matches input) p true q) :
    DottedBetween input c p q := by
  obtain ⟨i, hfirst, hrest⟩ := matches_andThen.mp (matches_attempt.mp h)
  exact dottedBetween_of_many he ((he p i).mp hfirst) hrest

/-- **Dots and runs are all taken**, unless another dot follows. -/
theorem many_of_dottedBetween [DecidableEq R] (k : g.Ranking) (h : DottedBetween input c p q)
    (hq : byteAt? input q ≠ some 46) : ∃ i, RunBetween input c p i ∧
      (many (chain [token '.', e])).Matches input (g.Matches input) i true q := by
  induction h with
  | run h =>
    obtain ⟨i, hmiss⟩ := k.exists_miss h.le_size fun i hi => hq ((matches_dotThen_iff he).mp hi).1
    exact ⟨_, h, .many_miss hmiss⟩
  | dot h hdot _ ih =>
    obtain ⟨i, hrun, hrest⟩ := ih hq
    have hpos := hrun.lt
    exact ⟨_, h, .many_next ((matches_dotThen_iff he).mpr ⟨hdot, hrun⟩) (by omega) hrest⟩

end Dotted

/-! ### Bare addresses -/

/-- The text between two positions is accepted by the policy, if there is one. -/
def Accepted (policy : Option Policy) (input : String) (p q : Nat) : Prop :=
  ∀ asked ∈ policy, (slice? input p q).any asked.accepts = true

theorem accepted_none : Accepted none input p q := nofun

theorem accepted_some {asked : Policy} :
    Accepted (some asked) input p q ↔ (slice? input p q).any asked.accepts = true :=
  ⟨fun h => h asked rfl, fun h _ hasked => Option.some.inj hasked ▸ h⟩

/-- Runs with dots between them on both sides of an at sign, up to the end of the input. The policy
accepts the right side. -/
structure SplitAt (policy : Option Policy) (input : String) (c : ByteClass) (i : Nat) : Prop where
  front : DottedBetween input c 0 i
  atSign : byteAt? input i = some 64
  back : DottedBetween input c (i + 1) input.utf8ByteSize
  accepted : Accepted policy input (i + 1) input.utf8ByteSize

theorem not_dot_of_at (h : byteAt? input i = some 64) : byteAt? input i ≠ some 46 := fun hdot => by
  cases h.symm.trans hdot

theorem not_dot_of_end (input : String) : byteAt? input input.utf8ByteSize ≠ some 46 := by
  rw [byteAt?_eq_none_iff.mpr (Nat.le_refl _)]
  nofun

end AddressGrammar.Peg
