import AddressGrammar.Peg.Grammar
import AddressGrammar.Text.Bytes

/-!
# Matching without a memory

The meaning of a parsing expression grammar, free of everything that a run adds to it: no table, no
bound on nesting, no record of failures. Matching an expression is a relation between a position, a
verdict and the position reached; it is told what rules do. What rules do is then the least relation
that agrees with their bodies, built up by the height of the derivation.

A failed expression ends where it stopped, since a later choice goes on from there. A failed rule
ends where it began.

## Main definitions

* `Expr.Matches` — an expression, given the meaning of rules, with a lemma per form that tells what
  a match of it comes from
* `Grammar.MatchesWithin`, `Grammar.Matches` — a rule, with bodies nested up to a height, and at all

## Main results

* `Expr.Matches.many_invariant` — what a repetition keeps
* `Grammar.matches_iff` — a rule does what its body does
* `Grammar.Matches.unique` — a rule does one thing at a position
* `Grammar.Matches.rule_induction` — what holds of every body given that it holds of the rules
  inside holds of every rule
-/

namespace AddressGrammar.Peg

open Text

variable {R : Type}

/-- Matching an expression from one position to another, given what rules do. -/
inductive Expr.Matches (input : String) (call : R → Nat → Bool → Nat → Prop) :
    Expr R → Nat → Bool → Nat → Prop where
  | succeed {p} : Matches input call .succeed p true p
  | fail {p} : Matches input call .fail p false p
  | byte {c p} (h : classAt input c p = true) : Matches input call (.byte c) p true (p + 1)
  | byte_miss {c p} (h : classAt input c p = false) : Matches input call (.byte c) p false p
  | run {c p} (h : classAt input c p = true) :
      Matches input call (.run c) p true (runEnd input c (p + 1))
  | run_miss {c p} (h : classAt input c p = false) : Matches input call (.run c) p false p
  | literal {bytes p} (h : spelledAt input p bytes = true) :
      Matches input call (.literal bytes) p true (p + bytes.length)
  | literal_miss {bytes p} (h : spelledAt input p bytes = false) :
      Matches input call (.literal bytes) p false p
  | apply {r p b q} (h : call r p b q) : Matches input call (.apply r) p b q
  | andThen {e₁ e₂ p i b q} (h₁ : Matches input call e₁ p true i)
      (h₂ : Matches input call e₂ i b q) : Matches input call (.andThen e₁ e₂) p b q
  | andThen_miss {e₁ e₂ p q} (h₁ : Matches input call e₁ p false q) :
      Matches input call (.andThen e₁ e₂) p false q
  | orElse {e₁ e₂ p q} (h₁ : Matches input call e₁ p true q) :
      Matches input call (.orElse e₁ e₂) p true q
  | orElse_next {e₁ e₂ p i b q} (h₁ : Matches input call e₁ p false i)
      (h₂ : Matches input call e₂ i b q) : Matches input call (.orElse e₁ e₂) p b q
  | attempt {e p q} (h : Matches input call e p true q) : Matches input call (.attempt e) p true q
  | attempt_miss {e p q} (h : Matches input call e p false q) :
      Matches input call (.attempt e) p false p
  | many_miss {e p q} (h : Matches input call e p false q) : Matches input call (.many e) p true p
  | many_still {e p} (h : Matches input call e p true p) : Matches input call (.many e) p true p
  | many_next {e p i q} (h : Matches input call e p true i) (hpos : i ≠ p)
      (hr : Matches input call (.many e) i true q) : Matches input call (.many e) p true q
  | notAhead {e p q} (h : Matches input call e p true q) :
      Matches input call (.notAhead e) p false p
  | notAhead_miss {e p q} (h : Matches input call e p false q) :
      Matches input call (.notAhead e) p true p
  | ahead {e p b q} (h : Matches input call e p b q) : Matches input call (.ahead e) p b p
  | capture {e p q} (h : Matches input call e p true q) : Matches input call (.capture e) p true q
  | capture_miss {e p q} (h : Matches input call e p false q) :
      Matches input call (.capture e) p false p
  | check {e policy p q} (h : Matches input call e p true q)
      (hp : (slice? input p q).any policy.accepts = true) :
      Matches input call (.check e policy) p true q
  | check_refused {e policy p q} (h : Matches input call e p true q)
      (hp : (slice? input p q).any policy.accepts = false) :
      Matches input call (.check e policy) p false p
  | check_miss {e policy p q} (h : Matches input call e p false q) :
      Matches input call (.check e policy) p false p
  | inspect {r i p} : Matches input call (.inspect r i) p true p

/-- What a rule does at a position, by derivations in which at most `n` bodies are nested. -/
def Grammar.MatchesWithin (g : Grammar R) (input : String) : Nat → R → Nat → Bool → Nat → Prop
  | 0, _, _, _, _ => False
  | n + 1, r, p, b, q =>
    ∃ i, (g.body r).Matches input (g.MatchesWithin input n) p b i ∧ q = if b then i else p

/-- What a rule does at a position. -/
def Grammar.Matches (g : Grammar R) (input : String) (r : R) (p : Nat) (b : Bool) (q : Nat) : Prop :=
  ∃ n, g.MatchesWithin input n r p b q

variable {g : Grammar R} {input : String}

theorem classAt_single {a : UInt8} {i : Nat} :
    classAt input (.single a) i = true ↔ byteAt? input i = some a := by
  rw [classAt, Option.any_eq_true]
  simp

/-! ### Expressions -/

namespace Expr.Matches

variable {call call' : R → Nat → Bool → Nat → Prop} {e : Expr R} {p q : Nat} {b : Bool}

/-- Matching is monotone in what rules do. -/
theorem mono (hcall : ∀ {r p b q}, call r p b q → call' r p b q) (h : e.Matches input call p b q) :
    e.Matches input call' p b q := by
  induction h with
  | succeed => exact .succeed
  | fail => exact .fail
  | byte h => exact .byte h
  | byte_miss h => exact .byte_miss h
  | run h => exact .run h
  | run_miss h => exact .run_miss h
  | literal h => exact .literal h
  | literal_miss h => exact .literal_miss h
  | apply h => exact .apply (hcall h)
  | andThen _ _ ih₁ ih₂ => exact .andThen ih₁ ih₂
  | andThen_miss _ ih => exact .andThen_miss ih
  | orElse _ ih => exact .orElse ih
  | orElse_next _ _ ih₁ ih₂ => exact .orElse_next ih₁ ih₂
  | attempt _ ih => exact .attempt ih
  | attempt_miss _ ih => exact .attempt_miss ih
  | many_miss _ ih => exact .many_miss ih
  | many_still _ ih => exact .many_still ih
  | many_next _ hpos _ ih₁ ih₂ => exact .many_next ih₁ hpos ih₂
  | notAhead _ ih => exact .notAhead ih
  | notAhead_miss _ ih => exact .notAhead_miss ih
  | ahead _ ih => exact .ahead ih
  | capture _ ih => exact .capture ih
  | capture_miss _ ih => exact .capture_miss ih
  | check _ hp ih => exact .check ih hp
  | check_refused _ hp ih => exact .check_refused ih hp
  | check_miss _ ih => exact .check_miss ih
  | inspect => exact .inspect

/-- Matching moves ahead, or stays, if rules do. -/
theorem le (hcall : ∀ r p b q, call r p b q → p ≤ q) (h : e.Matches input call p b q) : p ≤ q := by
  induction h with
  | byte => exact Nat.le_succ _
  | run => exact Nat.le_trans (Nat.le_succ _) (le_skipAtMost ..)
  | literal => exact Nat.le_add_right ..
  | apply h => exact hcall _ _ _ _ h
  | andThen _ _ ih₁ ih₂ | orElse_next _ _ ih₁ ih₂ | many_next _ _ _ ih₁ ih₂ =>
    exact Nat.le_trans ih₁ ih₂
  | andThen_miss _ ih | orElse _ ih | attempt _ ih | capture _ ih | check _ _ ih => exact ih
  | _ => exact Nat.le_refl _

/-- Matching stays inside the input if rules do. -/
theorem le_size (hcall : ∀ r p b q, call r p b q → p ≤ input.utf8ByteSize → q ≤ input.utf8ByteSize)
    (h : e.Matches input call p b q) (hp : p ≤ input.utf8ByteSize) : q ≤ input.utf8ByteSize := by
  induction h with
  | byte h => exact lt_of_classAt h
  | run h => exact skipAtMost_le _ _ _ _ (lt_of_classAt h)
  | literal h => exact add_length_le_of_spelledAt h hp
  | apply h => exact hcall _ _ _ _ h hp
  | andThen _ _ ih₁ ih₂ | orElse_next _ _ ih₁ ih₂ | many_next _ _ _ ih₁ ih₂ => exact ih₂ (ih₁ hp)
  | andThen_miss _ ih | orElse _ ih | attempt _ ih | capture _ ih | check _ _ ih => exact ih hp
  | _ => exact hp

/-- A repetition never fails. -/
theorem many_matched (h : (Expr.many e).Matches input call p b q) : b = true := by
  cases h <;> rfl

/-- **Matching is deterministic** if rules are. -/
theorem unique (h : e.Matches input call p b q)
    (hcall : ∀ r p b q b' q', call r p b q → call r p b' q' → b' = b ∧ q' = q)
    {b' : Bool} {q' : Nat} (h' : e.Matches input call p b' q') : b' = b ∧ q' = q := by
  induction h generalizing b' q' with
  | succeed | fail | inspect =>
    cases h'
    exact ⟨rfl, rfl⟩
  | byte h =>
    cases h' with
    | byte => exact ⟨rfl, rfl⟩
    | byte_miss h' => cases h.symm.trans h'
  | byte_miss h =>
    cases h' with
    | byte h' => cases h.symm.trans h'
    | byte_miss => exact ⟨rfl, rfl⟩
  | run h =>
    cases h' with
    | run => exact ⟨rfl, rfl⟩
    | run_miss h' => cases h.symm.trans h'
  | run_miss h =>
    cases h' with
    | run h' => cases h.symm.trans h'
    | run_miss => exact ⟨rfl, rfl⟩
  | literal h =>
    cases h' with
    | literal => exact ⟨rfl, rfl⟩
    | literal_miss h' => cases h.symm.trans h'
  | literal_miss h =>
    cases h' with
    | literal h' => cases h.symm.trans h'
    | literal_miss => exact ⟨rfl, rfl⟩
  | apply h =>
    cases h' with
    | apply h' => exact hcall _ _ _ _ _ _ h h'
  | andThen _ _ ih₁ ih₂ =>
    cases h' with
    | andThen h₁' h₂' =>
      obtain ⟨-, rfl⟩ := ih₁ h₁'
      exact ih₂ h₂'
    | andThen_miss h₁' => cases (ih₁ h₁').1
  | andThen_miss _ ih =>
    cases h' with
    | andThen h₁' _ => cases (ih h₁').1
    | andThen_miss h₁' => exact ih h₁'
  | orElse _ ih =>
    cases h' with
    | orElse h₁' => exact ih h₁'
    | orElse_next h₁' _ => cases (ih h₁').1
  | orElse_next _ _ ih₁ ih₂ =>
    cases h' with
    | orElse h₁' => cases (ih₁ h₁').1
    | orElse_next h₁' h₂' =>
      obtain ⟨-, rfl⟩ := ih₁ h₁'
      exact ih₂ h₂'
  | attempt _ ih =>
    cases h' with
    | attempt h' => exact ih h'
    | attempt_miss h' => cases (ih h').1
  | attempt_miss _ ih =>
    cases h' with
    | attempt h' => cases (ih h').1
    | attempt_miss => exact ⟨rfl, rfl⟩
  | notAhead _ ih =>
    cases h' with
    | notAhead => exact ⟨rfl, rfl⟩
    | notAhead_miss h' => cases (ih h').1
  | notAhead_miss _ ih =>
    cases h' with
    | notAhead h' => cases (ih h').1
    | notAhead_miss => exact ⟨rfl, rfl⟩
  | capture _ ih =>
    cases h' with
    | capture h' => exact ih h'
    | capture_miss h' => cases (ih h').1
  | capture_miss _ ih =>
    cases h' with
    | capture h' => cases (ih h').1
    | capture_miss => exact ⟨rfl, rfl⟩
  | many_miss _ ih =>
    cases h' with
    | many_miss => exact ⟨rfl, rfl⟩
    | many_still h' | many_next h' => cases (ih h').1
  | many_still _ ih =>
    cases h' with
    | many_miss h' => cases (ih h').1
    | many_still => exact ⟨rfl, rfl⟩
    | many_next h' hpos => exact absurd (ih h').2 hpos
  | many_next _ hpos _ ih₁ ih₂ =>
    cases h' with
    | many_miss h' => cases (ih₁ h').1
    | many_still h' => exact absurd (ih₁ h').2.symm hpos
    | many_next h' _ hr' =>
      obtain ⟨-, rfl⟩ := ih₁ h'
      exact ih₂ hr'
  | ahead _ ih =>
    cases h' with
    | ahead h' => exact ⟨(ih h').1, rfl⟩
  | check _ hp ih =>
    cases h' with
    | check h' _ => exact ih h'
    | check_refused h' hp' =>
      obtain ⟨-, rfl⟩ := ih h'
      cases hp.symm.trans hp'
    | check_miss h' => cases (ih h').1
  | check_refused _ hp ih =>
    cases h' with
    | check h' hp' =>
      obtain ⟨-, rfl⟩ := ih h'
      cases hp.symm.trans hp'
    | check_refused => exact ⟨rfl, rfl⟩
    | check_miss h' => cases (ih h').1
  | check_miss _ ih =>
    cases h' with
    | check h' _ | check_refused h' _ => cases (ih h').1
    | check_miss => exact ⟨rfl, rfl⟩

end Expr.Matches

/-! ### What a match comes from -/

namespace Expr

variable {call : R → Nat → Bool → Nat → Prop} {e e₁ e₂ : Expr R} {c : ByteClass} {r : R}
  {policy : Policy} {p q : Nat} {b : Bool}

@[simp] theorem matches_succeed : succeed.Matches input call p b q ↔ b = true ∧ q = p := by
  constructor
  · intro h
    cases h
    exact ⟨rfl, rfl⟩
  · rintro ⟨rfl, rfl⟩
    exact .succeed

@[simp] theorem matches_byte : (byte c).Matches input call p true q ↔
    classAt input c p = true ∧ q = p + 1 := by
  constructor
  · intro h
    cases h with
    | byte h => exact ⟨h, rfl⟩
  · rintro ⟨h, rfl⟩
    exact .byte h

@[simp] theorem misses_byte : (byte c).Matches input call p false q ↔
    classAt input c p = false ∧ q = p := by
  constructor
  · intro h
    cases h with
    | byte_miss h => exact ⟨h, rfl⟩
  · rintro ⟨h, rfl⟩
    exact .byte_miss h

@[simp] theorem matches_run : (run c).Matches input call p true q ↔
    classAt input c p = true ∧ q = runEnd input c (p + 1) := by
  constructor
  · intro h
    cases h with
    | run h => exact ⟨h, rfl⟩
  · rintro ⟨h, rfl⟩
    exact .run h

@[simp] theorem matches_apply : (apply r).Matches input call p b q ↔ call r p b q := by
  constructor
  · intro h
    cases h with
    | apply h => exact h
  · exact .apply

@[simp] theorem matches_andThen : (andThen e₁ e₂).Matches input call p true q ↔
    ∃ i, e₁.Matches input call p true i ∧ e₂.Matches input call i true q := by
  constructor
  · intro h
    cases h with
    | andThen h₁ h₂ => exact ⟨_, h₁, h₂⟩
  · rintro ⟨i, h₁, h₂⟩
    exact .andThen h₁ h₂

@[simp] theorem misses_andThen : (andThen e₁ e₂).Matches input call p false q ↔
    e₁.Matches input call p false q ∨
      ∃ i, e₁.Matches input call p true i ∧ e₂.Matches input call i false q := by
  constructor
  · intro h
    cases h with
    | andThen h₁ h₂ => exact .inr ⟨_, h₁, h₂⟩
    | andThen_miss h => exact .inl h
  · rintro (h | ⟨i, h₁, h₂⟩)
    · exact .andThen_miss h
    · exact .andThen h₁ h₂

@[simp] theorem matches_orElse : (orElse e₁ e₂).Matches input call p true q ↔
    e₁.Matches input call p true q ∨
      ∃ i, e₁.Matches input call p false i ∧ e₂.Matches input call i true q := by
  constructor
  · intro h
    cases h with
    | orElse h => exact .inl h
    | orElse_next h₁ h₂ => exact .inr ⟨_, h₁, h₂⟩
  · rintro (h | ⟨i, h₁, h₂⟩)
    · exact .orElse h
    · exact .orElse_next h₁ h₂

@[simp] theorem misses_orElse : (orElse e₁ e₂).Matches input call p false q ↔
    ∃ i, e₁.Matches input call p false i ∧ e₂.Matches input call i false q := by
  constructor
  · intro h
    cases h with
    | orElse_next h₁ h₂ => exact ⟨_, h₁, h₂⟩
  · rintro ⟨i, h₁, h₂⟩
    exact .orElse_next h₁ h₂

@[simp] theorem matches_attempt : (attempt e).Matches input call p true q ↔
    e.Matches input call p true q := by
  constructor
  · intro h
    cases h with
    | attempt h => exact h
  · exact .attempt

@[simp] theorem misses_attempt : (attempt e).Matches input call p false q ↔
    q = p ∧ ∃ i, e.Matches input call p false i := by
  constructor
  · intro h
    cases h with
    | attempt_miss h => exact ⟨rfl, _, h⟩
  · rintro ⟨rfl, i, h⟩
    exact .attempt_miss h

theorem matches_check : (check e policy).Matches input call p true q ↔
    e.Matches input call p true q ∧ (slice? input p q).any policy.accepts = true := by
  constructor
  · intro h
    cases h with
    | check h hp => exact ⟨h, hp⟩
  · rintro ⟨h, hp⟩
    exact .check h hp

theorem matches_exactly {a : UInt8} : (exactly a).Matches input call p true q ↔
    byteAt? input p = some a ∧ q = p + 1 := by
  rw [exactly, matches_byte, classAt_single]

theorem misses_exactly {a : UInt8} : (exactly a).Matches input call p false q ↔
    byteAt? input p ≠ some a ∧ q = p := by
  rw [exactly, misses_byte, ← Bool.not_eq_true, classAt_single]

/-- Another byte than the one that stands there. -/
theorem misses_exactly_of_ne {a a' : UInt8} (hp : byteAt? input p = some a) (ha : a ≠ a') :
    (exactly a').Matches input call p false p :=
  misses_exactly.mpr ⟨fun hp' => ha (Option.some.inj (hp.symm.trans hp')), rfl⟩

/-- Where there is a byte, the input does not end. -/
theorem not_matches_atEnd (hp : p < input.utf8ByteSize) :
    ¬(atEnd : Expr R).Matches input call p true q := by
  intro h
  cases h with
  | notAhead_miss h => cases (classAt_all hp).symm.trans (misses_byte.mp h).1

theorem matches_atEnd :
    (atEnd : Expr R).Matches input call input.utf8ByteSize true input.utf8ByteSize := by
  have hnone : byteAt? input input.utf8ByteSize = none := byteAt?_eq_none_iff.mpr (Nat.le_refl _)
  exact .notAhead_miss (.byte_miss (by rw [classAt, hnone]; rfl))

/-- An expression and then the end of the input. -/
theorem matches_toEnd : (seq [e, atEnd]).Matches input call p true input.utf8ByteSize ↔
    e.Matches input call p true input.utf8ByteSize := by
  constructor
  · intro h
    obtain ⟨i, he, hend⟩ := matches_andThen.mp (matches_attempt.mp h)
    cases hend with
    | notAhead_miss => exact he
  · exact fun he => .attempt (.andThen he matches_atEnd)

theorem matches_many1 : (many1 e).Matches input call p true q ↔
    ∃ i, e.Matches input call p true i ∧ (many e).Matches input call i true q := by
  rw [many1, matches_andThen]
  simp only [matches_attempt]

theorem many_of_many1 (h : (many1 e).Matches input call p true q) :
    (many e).Matches input call p true q := by
  obtain ⟨i, hi, hrest⟩ := matches_many1.mp h
  by_cases hpos : i = p
  · exact hpos ▸ hrest
  · exact .many_next hi hpos hrest

/-- A repetition that moves on has a first match. -/
theorem many1_of_many (h : (many e).Matches input call p true q) (hlt : p < q) :
    (many1 e).Matches input call p true q := by
  cases h with
  | many_miss | many_still => exact absurd hlt (Nat.lt_irrefl p)
  | many_next hi _ hrest => exact matches_many1.mpr ⟨_, hi, hrest⟩

theorem matches_opt : (opt e).Matches input call p true q ↔
    e.Matches input call p true q ∨ q = p ∧ ∃ i, e.Matches input call p false i := by
  rw [opt, matches_orElse]
  simp

theorem not_misses_opt : ¬(opt e).Matches input call p false q := by
  simp [opt]

theorem not_misses_many : ¬(many e).Matches input call p false q := by
  intro h
  cases h.many_matched

/-- A repetition with at least one match fails where its expression does. -/
theorem misses_many1 : (many1 e).Matches input call p false q ↔
    q = p ∧ ∃ i, e.Matches input call p false i := by
  rw [many1, misses_andThen]
  simp [not_misses_many]

/-- **Loop invariants.** What every iteration keeps holds at the end of a repetition, where one more
iteration fails or does not move. -/
theorem Matches.many_invariant {I : Nat → Prop}
    (hstep : ∀ p i, I p → e.Matches input call p true i → I i)
    (h : (many e).Matches input call p b q) (hp : I p) :
    I q ∧ ((∃ i, e.Matches input call q false i) ∨ e.Matches input call q true q) := by
  generalize he : many e = loop at h
  induction h with
  | many_miss h =>
    cases he
    exact ⟨hp, .inl ⟨_, h⟩⟩
  | many_still h =>
    cases he
    exact ⟨hp, .inr h⟩
  | many_next h _ _ _ ih =>
    cases he
    exact ih (hstep _ _ hp h) rfl
  | _ => cases he

/-- A repetition whose iterations all move ends where its expression fails. -/
theorem Matches.many_missed {I : Nat → Prop}
    (hstep : ∀ p i, I p → e.Matches input call p true i → I i)
    (hmove : ∀ p, ¬e.Matches input call p true p)
    (h : (many e).Matches input call p b q) (hp : I p) :
    I q ∧ ∃ i, e.Matches input call q false i := by
  obtain ⟨hq, hend⟩ := h.many_invariant hstep hp
  exact ⟨hq, hend.resolve_right (hmove q)⟩

/-- A repetition stays where its expression does not match. -/
theorem Matches.many_stays (hdead : ∀ i, ¬e.Matches input call p true i)
    (h : (many e).Matches input call p b q) : q = p := by
  cases h with
  | many_miss | many_still => rfl
  | many_next h => exact absurd h (hdead _)

/-- A repetition goes on behind its first iteration. -/
theorem Matches.many_rest (hcall : ∀ r p b q b' q', call r p b q → call r p b' q' → b' = b ∧ q' = q)
    {i : Nat} (h : e.Matches input call p true i) (hpos : i ≠ p)
    (hm : (many e).Matches input call p b q) : (many e).Matches input call i b q := by
  cases hm with
  | many_miss hmiss => cases (hmiss.unique hcall h).1
  | many_still hstill => exact absurd (hstill.unique hcall h).2 hpos
  | many_next hnext _ hrest =>
    obtain ⟨-, rfl⟩ := h.unique hcall hnext
    exact hrest

/-- A repetition leaves nothing to repeat. -/
theorem Matches.many_again (hcall : ∀ r p b q b' q', call r p b q → call r p b' q' → b' = b ∧ q' = q)
    (h : (many e).Matches input call p b q) {b' : Bool} {q' : Nat}
    (h' : (many e).Matches input call q b' q') : q' = q := by
  obtain ⟨-, hend⟩ := h.many_invariant (I := fun _ => True) (fun _ _ _ _ => trivial) trivial
  cases h' with
  | many_miss | many_still => rfl
  | many_next h' hpos =>
    rcases hend with ⟨i, hi⟩ | hi
    · cases (hi.unique hcall h').1
    · exact absurd (hi.unique hcall h').2 hpos

end Expr

/-! ### Rules -/

namespace Grammar

theorem MatchesWithin.mono {n m : Nat} (hle : n ≤ m) {r : R} {p q : Nat} {b : Bool}
    (h : g.MatchesWithin input n r p b q) : g.MatchesWithin input m r p b q := by
  induction n generalizing m r p b q with
  | zero => exact h.elim
  | succ n ih =>
    obtain ⟨m, rfl⟩ := Nat.exists_eq_succ_of_ne_zero (Nat.ne_zero_of_lt hle)
    obtain ⟨i, hi, hq⟩ := h
    exact ⟨i, hi.mono (ih (Nat.le_of_succ_le_succ hle)), hq⟩

/-- A derivation of an expression uses finitely many rules, so their heights have a bound. -/
theorem exists_within {e : Expr R} {p q : Nat} {b : Bool} (h : e.Matches input (g.Matches input) p b q) :
    ∃ n, e.Matches input (g.MatchesWithin input n) p b q := by
  have raise : ∀ {e : Expr R} {n m p b q}, n ≤ m → e.Matches input (g.MatchesWithin input n) p b q →
      e.Matches input (g.MatchesWithin input m) p b q := fun hle h => h.mono (·.mono hle)
  induction h with
  | succeed => exact ⟨0, .succeed⟩
  | fail => exact ⟨0, .fail⟩
  | byte h => exact ⟨0, .byte h⟩
  | byte_miss h => exact ⟨0, .byte_miss h⟩
  | run h => exact ⟨0, .run h⟩
  | run_miss h => exact ⟨0, .run_miss h⟩
  | literal h => exact ⟨0, .literal h⟩
  | literal_miss h => exact ⟨0, .literal_miss h⟩
  | apply h =>
    obtain ⟨n, hn⟩ := h
    exact ⟨n, .apply hn⟩
  | andThen _ _ ih₁ ih₂ =>
    obtain ⟨n, hn⟩ := ih₁
    obtain ⟨m, hm⟩ := ih₂
    exact ⟨max n m, .andThen (raise (Nat.le_max_left n m) hn) (raise (Nat.le_max_right n m) hm)⟩
  | andThen_miss _ ih => exact ih.imp fun _ => .andThen_miss
  | orElse _ ih => exact ih.imp fun _ => .orElse
  | orElse_next _ _ ih₁ ih₂ =>
    obtain ⟨n, hn⟩ := ih₁
    obtain ⟨m, hm⟩ := ih₂
    exact ⟨max n m, .orElse_next (raise (Nat.le_max_left n m) hn) (raise (Nat.le_max_right n m) hm)⟩
  | attempt _ ih => exact ih.imp fun _ => .attempt
  | attempt_miss _ ih => exact ih.imp fun _ => .attempt_miss
  | many_miss _ ih => exact ih.imp fun _ => .many_miss
  | many_still _ ih => exact ih.imp fun _ => .many_still
  | many_next _ hpos _ ih₁ ih₂ =>
    obtain ⟨n, hn⟩ := ih₁
    obtain ⟨m, hm⟩ := ih₂
    exact ⟨max n m,
      .many_next (raise (Nat.le_max_left n m) hn) hpos (raise (Nat.le_max_right n m) hm)⟩
  | notAhead _ ih => exact ih.imp fun _ => .notAhead
  | notAhead_miss _ ih => exact ih.imp fun _ => .notAhead_miss
  | ahead _ ih => exact ih.imp fun _ => .ahead
  | capture _ ih => exact ih.imp fun _ => .capture
  | capture_miss _ ih => exact ih.imp fun _ => .capture_miss
  | check _ hp ih => exact ih.imp fun _ h => .check h hp
  | check_refused _ hp ih => exact ih.imp fun _ h => .check_refused h hp
  | check_miss _ ih => exact ih.imp fun _ => .check_miss
  | inspect => exact ⟨0, .inspect⟩

/-- **A rule does what its body does**, and puts the position back on a failure. -/
theorem matches_iff {r : R} {p q : Nat} {b : Bool} :
    g.Matches input r p b q ↔
      ∃ i, (g.body r).Matches input (g.Matches input) p b i ∧ q = if b then i else p := by
  constructor
  · rintro ⟨n, hn⟩
    cases n with
    | zero => exact hn.elim
    | succ n =>
      obtain ⟨i, hi, hq⟩ := hn
      exact ⟨i, hi.mono fun h => ⟨n, h⟩, hq⟩
  · rintro ⟨i, hi, hq⟩
    obtain ⟨n, hn⟩ := exists_within hi
    exact ⟨n + 1, i, hn, hq⟩

/-- A rule takes what its body takes. -/
theorem matches_body {r : R} {p q : Nat} :
    g.Matches input r p true q ↔ (g.body r).Matches input (g.Matches input) p true q := by
  simp [matches_iff]

theorem Matches.of_body {r : R} {p i : Nat} {b : Bool}
    (h : (g.body r).Matches input (g.Matches input) p b i) :
    g.Matches input r p b (if b then i else p) :=
  matches_iff.mpr ⟨i, h, rfl⟩

/-- **A rule does one thing at a position.** -/
theorem Matches.unique {r : R} {p q q' : Nat} {b b' : Bool} (h : g.Matches input r p b q)
    (h' : g.Matches input r p b' q') : b' = b ∧ q' = q := by
  have within : ∀ n {r p b q b' q'}, g.MatchesWithin input n r p b q →
      g.MatchesWithin input n r p b' q' → b' = b ∧ q' = q := by
    intro n
    induction n with
    | zero => exact fun h => h.elim
    | succ n ih =>
      rintro r p b q b' q' ⟨i, hi, rfl⟩ ⟨i', hi', rfl⟩
      obtain ⟨rfl, rfl⟩ := hi.unique (fun _ _ _ _ _ _ => ih) hi'
      exact ⟨rfl, rfl⟩
  obtain ⟨n, hn⟩ := h
  obtain ⟨m, hm⟩ := h'
  exact within (max n m) (hn.mono (Nat.le_max_left n m)) (hm.mono (Nat.le_max_right n m))

/-- The answers of rules, as what an expression is told. -/
theorem matches_unique (r : R) (p : Nat) (b : Bool) (q : Nat) (b' : Bool) (q' : Nat)
    (h : g.Matches input r p b q) (h' : g.Matches input r p b' q') : b' = b ∧ q' = q := h.unique h'

/-- **Rule induction.** What holds of every body, given that the rules inside do what they do and
that it holds of them, holds of every rule. -/
theorem Matches.rule_induction {P : R → Nat → Bool → Nat → Prop}
    (step : ∀ r p b i, (g.body r).Matches input (fun r p b q => g.Matches input r p b q ∧ P r p b q)
      p b i → P r p b (if b then i else p))
    {r : R} {p q : Nat} {b : Bool} (h : g.Matches input r p b q) : P r p b q := by
  obtain ⟨n, hn⟩ := h
  induction n generalizing r p b q with
  | zero => exact hn.elim
  | succ n ih =>
    obtain ⟨i, hi, rfl⟩ := hn
    exact step r p b i (hi.mono fun h => ⟨⟨n, h⟩, ih h⟩)

theorem Matches.le {r : R} {p q : Nat} {b : Bool} (h : g.Matches input r p b q) : p ≤ q := by
  refine h.rule_induction (P := fun _ p _ q => p ≤ q) fun r p b i hi => ?_
  have hle := hi.le fun _ _ _ _ h => h.2
  cases b
  · exact Nat.le_refl p
  · exact hle

/-- A rule that begins inside the input ends there. -/
theorem Matches.le_size {r : R} {p q : Nat} {b : Bool} (h : g.Matches input r p b q)
    (hp : p ≤ input.utf8ByteSize) : q ≤ input.utf8ByteSize := by
  refine h.rule_induction (P := fun _ p _ q => p ≤ input.utf8ByteSize → q ≤ input.utf8ByteSize)
    (fun r p b i hi hp => ?_) hp
  have hle := hi.le_size (fun _ _ _ _ h => h.2) hp
  cases b
  · exact hp
  · exact hle

/-- A failed rule ends where it began. -/
theorem Matches.eq_of_missed {r : R} {p q : Nat} (h : g.Matches input r p false q) : q = p := by
  obtain ⟨i, -, hq⟩ := matches_iff.mp h
  exact hq

end Grammar

end AddressGrammar.Peg
