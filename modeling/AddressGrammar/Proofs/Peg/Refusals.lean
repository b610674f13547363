import AddressGrammar.Proofs.Peg.Faithfulness
import AddressGrammar.Proofs.Peg.Lockstep

/-!
# Refusals of a policy

A policy makes an expression fail that has matched. A grammar that asks no policy differs from one
that does only behind such a refusal: as long as none comes up, both go through the same states,
take the same room and give the same answers. What a refusal leads to is another matter. Choice is
ordered and repetition is greedy, so a part that fails may let the whole match in another way, and
whether it does depends on the grammar.

So a refusal is kept track of wherever it comes up, also in an alternative that is abandoned after
it. It is a property of the plain meaning of an expression: evaluating it comes to a place where a
policy is asked and says no.

## Main definitions

* `Expr.Refuses`, `Grammar.Refuses` — evaluating an expression or a rule comes to a refusal
* `Expr.Fatal` — an expression that comes to a refusal does not match
* `Expr.asks` — whether an expression can come to a policy
* `Expr.unchecked` — an expression without its policies

## Main results

* `Expr.refuses_of_many` — a repetition ends at a refusal that makes its iteration fail
* `Grammar.refuses_iff`, `Grammar.Refuses.rule_induction` — a rule refuses where its body does
* `Grammar.refuses_check_iff` — a check of what matches refuses if its text is not accepted
-/

namespace AddressGrammar.Peg

open Text

variable {R : Type}

/-- Evaluating an expression at a position comes to a refusal, given what rules do and which of them
come to one. -/
inductive Expr.Refuses (input : String) (call : R → Nat → Bool → Nat → Prop)
    (refuses : R → Nat → Prop) : Expr R → Nat → Prop where
  | apply {r p} (h : refuses r p) : Refuses input call refuses (.apply r) p
  | andThen {e₁ e₂ p} (h : Refuses input call refuses e₁ p) :
      Refuses input call refuses (.andThen e₁ e₂) p
  | andThen_next {e₁ e₂ p i} (h₁ : e₁.Matches input call p true i)
      (h₂ : Refuses input call refuses e₂ i) : Refuses input call refuses (.andThen e₁ e₂) p
  | orElse {e₁ e₂ p} (h : Refuses input call refuses e₁ p) :
      Refuses input call refuses (.orElse e₁ e₂) p
  | orElse_next {e₁ e₂ p i} (h₁ : e₁.Matches input call p false i)
      (h₂ : Refuses input call refuses e₂ i) : Refuses input call refuses (.orElse e₁ e₂) p
  | attempt {e p} (h : Refuses input call refuses e p) : Refuses input call refuses (.attempt e) p
  | many {e p} (h : Refuses input call refuses e p) : Refuses input call refuses (.many e) p
  | many_next {e p i} (h : e.Matches input call p true i) (hpos : i ≠ p)
      (hr : Refuses input call refuses (.many e) i) : Refuses input call refuses (.many e) p
  | notAhead {e p} (h : Refuses input call refuses e p) : Refuses input call refuses (.notAhead e) p
  | ahead {e p} (h : Refuses input call refuses e p) : Refuses input call refuses (.ahead e) p
  | capture {e p} (h : Refuses input call refuses e p) : Refuses input call refuses (.capture e) p
  | check {e policy p} (h : Refuses input call refuses e p) :
      Refuses input call refuses (.check e policy) p
  | check_refused {e policy p q} (h : e.Matches input call p true q)
      (hp : (slice? input p q).any policy.accepts = false) :
      Refuses input call refuses (.check e policy) p

/-- Whether evaluating a rule comes to a refusal with at most `n` bodies nested. -/
def Grammar.RefusesWithin (g : Grammar R) (input : String) : Nat → R → Nat → Prop
  | 0, _, _ => False
  | n + 1, r, p => (g.body r).Refuses input (g.Matches input) (g.RefusesWithin input n) p

/-- Evaluating a rule at a position comes to a refusal. -/
def Grammar.Refuses (g : Grammar R) (input : String) (r : R) (p : Nat) : Prop :=
  ∃ n, g.RefusesWithin input n r p

namespace Expr

/-- Whether an expression asks a policy or applies a rule that does. -/
def asks (askers : R → Bool) : Expr R → Bool
  | succeed => false
  | fail => false
  | byte _ => false
  | run _ => false
  | literal _ => false
  | apply r => askers r
  | andThen e₁ e₂ => e₁.asks askers || e₂.asks askers
  | orElse e₁ e₂ => e₁.asks askers || e₂.asks askers
  | attempt e => e.asks askers
  | many e => e.asks askers
  | notAhead e => e.asks askers
  | ahead e => e.asks askers
  | capture e => e.asks askers
  | check _ _ => true
  | inspect _ _ => false

/-- The expression without its policies. What a policy is asked about is put back if it fails. -/
def unchecked : Expr R → Expr R
  | succeed => succeed
  | fail => fail
  | byte c => byte c
  | run c => run c
  | literal bytes => literal bytes
  | apply r => apply r
  | andThen e₁ e₂ => andThen e₁.unchecked e₂.unchecked
  | orElse e₁ e₂ => orElse e₁.unchecked e₂.unchecked
  | attempt e => attempt e.unchecked
  | many e => many e.unchecked
  | notAhead e => notAhead e.unchecked
  | ahead e => ahead e.unchecked
  | capture e => capture e.unchecked
  | check (apply r) _ => apply r
  | check e _ => attempt e.unchecked
  | inspect r i => inspect r i

/-- A policy is dropped from an application, and replaced by `attempt` elsewhere. -/
theorem unchecked_check (e : Expr R) (policy : Policy) :
    (∃ r, e = apply r) ∨ (check e policy).unchecked = attempt e.unchecked := by
  cases e with
  | apply r => exact .inl ⟨r, rfl⟩
  | _ => exact .inr rfl

/-- An expression that comes to no policy applies rules that come to none. -/
theorem within_of_not_asks {askers : R → Bool} {e : Expr R} (h : e.asks askers = false) :
    e.Within (askers · = false) := by
  induction e with
  | succeed | fail | byte | run | literal | inspect => exact nofun
  | apply r => exact List.forall_mem_singleton.mpr h
  | andThen _ _ ih₁ ih₂ =>
    obtain ⟨h₁, h₂⟩ := Bool.or_eq_false_iff.mp h
    exact within_andThen.mpr ⟨ih₁ h₁, ih₂ h₂⟩
  | orElse _ _ ih₁ ih₂ =>
    obtain ⟨h₁, h₂⟩ := Bool.or_eq_false_iff.mp h
    exact within_orElse.mpr ⟨ih₁ h₁, ih₂ h₂⟩
  | attempt _ ih | many _ ih | notAhead _ ih | ahead _ ih | capture _ ih => exact ih h
  | check => cases h

/-- It has no policies to be dropped. -/
theorem unchecked_of_not_asks {askers : R → Bool} {e : Expr R} (h : e.asks askers = false) :
    e.unchecked = e := by
  induction e with
  | succeed | fail | byte | run | literal | apply | inspect => rfl
  | andThen _ _ ih₁ ih₂ =>
    obtain ⟨h₁, h₂⟩ := Bool.or_eq_false_iff.mp h
    exact congrArg₂ andThen (ih₁ h₁) (ih₂ h₂)
  | orElse _ _ ih₁ ih₂ =>
    obtain ⟨h₁, h₂⟩ := Bool.or_eq_false_iff.mp h
    exact congrArg₂ orElse (ih₁ h₁) (ih₂ h₂)
  | attempt _ ih => exact congrArg attempt (ih h)
  | many _ ih => exact congrArg many (ih h)
  | notAhead _ ih => exact congrArg notAhead (ih h)
  | ahead _ ih => exact congrArg ahead (ih h)
  | capture _ ih => exact congrArg capture (ih h)
  | check => cases h

/-! ### What a refusal comes from -/

section Refuses

variable {input : String} {call : R → Nat → Bool → Nat → Prop} {refuses refuses' : R → Nat → Prop}
  {e e₁ e₂ : Expr R} {c : ByteClass} {r : R} {policy : Policy} {p q : Nat} {b : Bool}

theorem Refuses.mono (hmono : ∀ {r p}, refuses r p → refuses' r p)
    (h : e.Refuses input call refuses p) : e.Refuses input call refuses' p := by
  induction h with
  | apply h => exact .apply (hmono h)
  | andThen _ ih => exact .andThen ih
  | andThen_next h₁ _ ih => exact .andThen_next h₁ ih
  | orElse _ ih => exact .orElse ih
  | orElse_next h₁ _ ih => exact .orElse_next h₁ ih
  | attempt _ ih => exact .attempt ih
  | many _ ih => exact .many ih
  | many_next h hpos _ ih => exact .many_next h hpos ih
  | notAhead _ ih => exact .notAhead ih
  | ahead _ ih => exact .ahead ih
  | capture _ ih => exact .capture ih
  | check _ ih => exact .check ih
  | check_refused h hp => exact .check_refused h hp

theorem Refuses.asks {askers : R → Bool} (h : e.Refuses input call refuses p)
    (hrule : ∀ r p, refuses r p → askers r = true) : e.asks askers = true := by
  induction h with
  | apply h => exact hrule _ _ h
  | andThen _ ih | orElse _ ih => exact Bool.or_eq_true_iff.mpr (.inl ih)
  | andThen_next _ _ ih | orElse_next _ _ ih => exact Bool.or_eq_true_iff.mpr (.inr ih)
  | attempt _ ih | many _ ih | many_next _ _ _ ih | notAhead _ ih | ahead _ ih | capture _ ih =>
    exact ih
  | check | check_refused => rfl

@[simp] theorem not_refuses_succeed : ¬(succeed : Expr R).Refuses input call refuses p := nofun

@[simp] theorem refuses_apply : (apply r).Refuses input call refuses p ↔ refuses r p := by
  constructor
  · rintro ⟨⟩
    assumption
  · exact .apply

@[simp] theorem refuses_andThen : (andThen e₁ e₂).Refuses input call refuses p ↔
    e₁.Refuses input call refuses p ∨
      ∃ i, e₁.Matches input call p true i ∧ e₂.Refuses input call refuses i := by
  constructor
  · intro h
    cases h with
    | andThen h => exact .inl h
    | andThen_next h₁ h₂ => exact .inr ⟨_, h₁, h₂⟩
  · rintro (h | ⟨i, h₁, h₂⟩)
    · exact .andThen h
    · exact .andThen_next h₁ h₂

@[simp] theorem refuses_orElse : (orElse e₁ e₂).Refuses input call refuses p ↔
    e₁.Refuses input call refuses p ∨
      ∃ i, e₁.Matches input call p false i ∧ e₂.Refuses input call refuses i := by
  constructor
  · intro h
    cases h with
    | orElse h => exact .inl h
    | orElse_next h₁ h₂ => exact .inr ⟨_, h₁, h₂⟩
  · rintro (h | ⟨i, h₁, h₂⟩)
    · exact .orElse h
    · exact .orElse_next h₁ h₂

@[simp] theorem refuses_attempt : (attempt e).Refuses input call refuses p ↔
    e.Refuses input call refuses p := by
  constructor
  · intro h
    cases h with
    | attempt h => exact h
  · exact .attempt

@[simp] theorem refuses_check : (check e policy).Refuses input call refuses p ↔
    e.Refuses input call refuses p ∨
      ∃ q, e.Matches input call p true q ∧ (slice? input p q).any policy.accepts = false := by
  constructor
  · intro h
    cases h with
    | check h => exact .inl h
    | check_refused h hp => exact .inr ⟨_, h, hp⟩
  · rintro (h | ⟨q, h, hp⟩)
    · exact .check h
    · exact .check_refused h hp

theorem refuses_opt : (opt e).Refuses input call refuses p ↔ e.Refuses input call refuses p := by
  rw [opt, refuses_orElse, refuses_attempt]
  simp

/-- **A repetition ends at a refusal** if the refusal makes its iteration fail. -/
theorem refuses_of_many (hcall : ∀ r p b q b' q', call r p b q → call r p b' q' → b' = b ∧ q' = q)
    (hdead : ∀ i q, e.Refuses input call refuses i → ¬e.Matches input call i true q)
    (hm : (many e).Matches input call p b q) (hr : (many e).Refuses input call refuses p) :
    e.Refuses input call refuses q := by
  generalize hl : many e = loop at hm
  induction hm with
  | many_miss h =>
    cases hl
    cases hr with
    | many hr => exact hr
    | many_next h' => cases (h.unique hcall h').1
  | many_still h =>
    cases hl
    cases hr with
    | many hr => exact absurd h (hdead _ _ hr)
    | many_next h' hpos => exact absurd (h.unique hcall h').2 hpos
  | many_next h _ _ _ ih =>
    cases hl
    cases hr with
    | many hr => exact absurd h (hdead _ _ hr)
    | many_next h' _ hr' =>
      obtain ⟨-, rfl⟩ := h.unique hcall h'
      exact ih hr' rfl
  | _ => cases hl

end Refuses

/-! ### Fatal refusals -/

/-- An expression that comes to a refusal does not match. -/
def Fatal (input : String) (call : R → Nat → Bool → Nat → Prop) (refuses : R → Nat → Prop)
    (e : Expr R) : Prop :=
  ∀ p q, e.Refuses input call refuses p → ¬e.Matches input call p true q

section Fatal

variable {input : String} {call : R → Nat → Bool → Nat → Prop} {refuses : R → Nat → Prop}
  {e e₁ e₂ : Expr R} {policy : Policy}

/-- A sequence comes to a refusal behind a part that asks no policy. -/
theorem Refuses.behind {askers : R → Bool} (hrule : ∀ r p, refuses r p → askers r = true) {p : Nat}
    (h : (Expr.andThen e₁ e₂).Refuses input call refuses p) (he : e₁.asks askers = false) :
    ∃ i, e₁.Matches input call p true i ∧ e₂.Refuses input call refuses i := by
  rcases refuses_andThen.mp h with h | h
  · cases he.symm.trans (h.asks hrule)
  · exact h

/-- A sequence comes to a refusal in front of a part that asks no policy. -/
theorem Refuses.front {askers : R → Bool} (hrule : ∀ r p, refuses r p → askers r = true) {p : Nat}
    (h : (Expr.andThen e₁ e₂).Refuses input call refuses p) (he : e₂.asks askers = false) :
    e₁.Refuses input call refuses p := by
  rcases refuses_andThen.mp h with h | ⟨i, -, h⟩
  · exact h
  · cases he.symm.trans (h.asks hrule)

theorem fatal_of_asks {askers : R → Bool} (hrule : ∀ r p, refuses r p → askers r = true)
    (he : e.asks askers = false) : e.Fatal input call refuses := by
  intro p q h
  cases he.symm.trans (h.asks hrule)

theorem fatal_apply {r : R} (h : ∀ p q, refuses r p → ¬call r p true q) :
    (apply r).Fatal input call refuses := fun p q hr hm =>
  h p q (refuses_apply.mp hr) (matches_apply.mp hm)

theorem fatal_attempt (h : e.Fatal input call refuses) : (attempt e).Fatal input call refuses :=
  fun p q hr hm => h p q (refuses_attempt.mp hr) (matches_attempt.mp hm)

variable (hcall : ∀ r p b q b' q', call r p b q → call r p b' q' → b' = b ∧ q' = q)
include hcall

/-- A sequence whose first part may survive a refusal, if its second part does not match then. -/
theorem fatal_andThen_of (h₁ : ∀ p i q, e₁.Refuses input call refuses p →
    e₁.Matches input call p true i → ¬e₂.Matches input call i true q)
    (h₂ : e₂.Fatal input call refuses) : (andThen e₁ e₂).Fatal input call refuses := by
  intro p q hr hm
  obtain ⟨i, hi, hq⟩ := matches_andThen.mp hm
  rcases refuses_andThen.mp hr with hr | ⟨j, hj, hr⟩
  · exact h₁ p i q hr hi hq
  · obtain ⟨-, rfl⟩ := hi.unique hcall hj
    exact h₂ _ q hr hq

theorem fatal_andThen (h₁ : e₁.Fatal input call refuses) (h₂ : e₂.Fatal input call refuses) :
    (andThen e₁ e₂).Fatal input call refuses :=
  fatal_andThen_of hcall (fun p i _ hr hm _ => h₁ p i hr hm) h₂

/-- A sequence of which every part is stopped by a refusal. -/
theorem fatal_seq {es : List (Expr R)} (h : ∀ e ∈ es, e.Fatal input call refuses) :
    (seq es).Fatal input call refuses := by
  refine fatal_attempt ?_
  induction es using chain.induct with
  | case1 => exact fun p q hr => absurd hr not_refuses_succeed
  | case2 e => exact h e (List.mem_singleton.mpr rfl)
  | case3 e es hne ih =>
    rw [chain]
    · exact fatal_andThen hcall (h e List.mem_cons_self) (ih fun e' he' => h e' (.tail _ he'))
    · exact hne

/-- A choice, if the second part does not make up for a refusal in the first one. -/
theorem fatal_orElse (h₁ : e₁.Fatal input call refuses) (h₂ : e₂.Fatal input call refuses)
    (h : ∀ p i q, e₁.Refuses input call refuses p → e₁.Matches input call p false i →
      ¬e₂.Matches input call i true q) : (orElse e₁ e₂).Fatal input call refuses := by
  intro p q hr hm
  rcases refuses_orElse.mp hr with hr | ⟨i, hi, hr⟩
  · rcases matches_orElse.mp hm with hm | ⟨i, hi, hm⟩
    · exact h₁ p q hr hm
    · exact h p i q hr hi hm
  · rcases matches_orElse.mp hm with hm | ⟨j, hj, hm⟩
    · cases (hm.unique hcall hi).1
    · obtain ⟨-, rfl⟩ := hi.unique hcall hj
      exact h₂ _ q hr hm

theorem fatal_check (h : e.Fatal input call refuses) :
    (check e policy).Fatal input call refuses := by
  intro p q hr hm
  cases hm with
  | check hm hp =>
    rcases refuses_check.mp hr with hr | ⟨i, hi, hp'⟩
    · exact h p q hr hm
    · obtain ⟨-, rfl⟩ := hm.unique hcall hi
      cases hp.symm.trans hp'

end Fatal

end Expr

/-! ### Rules -/

namespace Grammar

variable {g : Grammar R} {input : String} {r : R} {p : Nat}

/-- **A rule refuses where its body does.** -/
theorem refuses_iff :
    g.Refuses input r p ↔ (g.body r).Refuses input (g.Matches input) (g.Refuses input) p := by
  constructor
  · rintro ⟨n, hn⟩
    cases n with
    | zero => exact hn.elim
    | succ n => exact hn.mono fun h => ⟨n, h⟩
  · intro h
    -- Only one application on the way to a refusal refuses, so there is no height to be raised.
    have hwithin : ∀ {e : Expr R} {p}, e.Refuses input (g.Matches input) (g.Refuses input) p →
        ∃ n, e.Refuses input (g.Matches input) (g.RefusesWithin input n) p := by
      intro e p h
      induction h with
      | apply h =>
        obtain ⟨n, hn⟩ := h
        exact ⟨n, .apply hn⟩
      | andThen _ ih => exact ih.imp fun _ => .andThen
      | andThen_next h₁ _ ih => exact ih.imp fun _ => .andThen_next h₁
      | orElse _ ih => exact ih.imp fun _ => .orElse
      | orElse_next h₁ _ ih => exact ih.imp fun _ => .orElse_next h₁
      | attempt _ ih => exact ih.imp fun _ => .attempt
      | many _ ih => exact ih.imp fun _ => .many
      | many_next h hpos _ ih => exact ih.imp fun _ => .many_next h hpos
      | notAhead _ ih => exact ih.imp fun _ => .notAhead
      | ahead _ ih => exact ih.imp fun _ => .ahead
      | capture _ ih => exact ih.imp fun _ => .capture
      | check _ ih => exact ih.imp fun _ => .check
      | check_refused h hp => exact ⟨0, .check_refused h hp⟩
    obtain ⟨n, hn⟩ := hwithin h
    exact ⟨n + 1, hn⟩

/-- **Induction on refusals.** What holds of a rule whose body refuses, given that it holds of the
rules inside that refuse, holds of every rule that refuses. -/
theorem Refuses.rule_induction {P : R → Nat → Prop}
    (step : ∀ r p, (g.body r).Refuses input (g.Matches input)
      (fun r p => g.Refuses input r p ∧ P r p) p → P r p)
    (h : g.Refuses input r p) : P r p := by
  obtain ⟨n, hn⟩ := h
  induction n generalizing r p with
  | zero => exact hn.elim
  | succ n ih => exact step r p (hn.mono fun h => ⟨⟨n, h⟩, ih h⟩)

/-- Rules that come to a refusal come to a policy. -/
theorem Refuses.asks {askers : R → Bool}
    (haskers : ∀ r, (g.body r).asks askers = true → askers r = true)
    (h : g.Refuses input r p) : askers r = true :=
  h.rule_induction (P := fun r _ => askers r = true) fun r _ hr =>
    haskers r (Expr.Refuses.asks hr fun _ _ h => h.2)

/-! ### Behind parts that come to no policy -/

section Free

variable {askers : R → Bool} {e e₁ e₂ : Expr R} {policy : Policy} {q i : Nat}

/-- A choice whose first part misses and comes to no refusal. -/
theorem refuses_next_iff (hfree : ¬e₁.Refuses input (g.Matches input) (g.Refuses input) p)
    (hm : e₁.Matches input (g.Matches input) p false i) :
    (Expr.orElse e₁ e₂).Refuses input (g.Matches input) (g.Refuses input) p ↔
      e₂.Refuses input (g.Matches input) (g.Refuses input) i := by
  refine Expr.refuses_orElse.trans ((or_iff_right hfree).trans ⟨?_, fun h => ⟨i, hm, h⟩⟩)
  rintro ⟨j, hj, h⟩
  obtain ⟨-, rfl⟩ := hm.unique matches_unique hj
  exact h

variable (haskers : ∀ r, (g.body r).asks askers = true → askers r = true)
include haskers

theorem not_refuses_of_asks (he : e.asks askers = false) (p : Nat) :
    ¬e.Refuses input (g.Matches input) (g.Refuses input) p := by
  intro h
  cases he.symm.trans (h.asks fun _ _ h => h.asks haskers)

/-- A sequence in front of a part that comes to no policy. -/
theorem refuses_front_iff (he : e₂.asks askers = false) :
    (Expr.andThen e₁ e₂).Refuses input (g.Matches input) (g.Refuses input) p ↔
      e₁.Refuses input (g.Matches input) (g.Refuses input) p :=
  Expr.refuses_andThen.trans (or_iff_left fun ⟨i, _, h⟩ => not_refuses_of_asks haskers he i h)

/-- A sequence behind a part that comes to no policy. -/
theorem refuses_behind_iff (he : e₁.asks askers = false)
    (hm : e₁.Matches input (g.Matches input) p true i) :
    (Expr.andThen e₁ e₂).Refuses input (g.Matches input) (g.Refuses input) p ↔
      e₂.Refuses input (g.Matches input) (g.Refuses input) i := by
  refine Expr.refuses_andThen.trans ((or_iff_right (not_refuses_of_asks haskers he p)).trans
    ⟨?_, fun h => ⟨i, hm, h⟩⟩)
  rintro ⟨j, hj, h⟩
  obtain ⟨-, rfl⟩ := hm.unique matches_unique hj
  exact h

/-- A check of something that matches and comes to no policy itself. -/
theorem refuses_check_iff (he : e.asks askers = false)
    (hm : e.Matches input (g.Matches input) p true q) :
    (Expr.check e policy).Refuses input (g.Matches input) (g.Refuses input) p ↔
      (slice? input p q).any policy.accepts = false := by
  refine Expr.refuses_check.trans ((or_iff_right (not_refuses_of_asks haskers he p)).trans
    ⟨?_, fun h => ⟨q, hm, h⟩⟩)
  rintro ⟨j, hj, h⟩
  obtain ⟨-, rfl⟩ := hm.unique matches_unique hj
  exact h

end Free

end Grammar

variable [DecidableEq R]

/-- Where a setting comes to a refusal. -/
def Setting.RefusesAt (cfg : Setting R) (e : Expr R) (p : Nat) : Prop :=
  e.Refuses cfg.input (cfg.grammar.Matches cfg.input) (cfg.grammar.Refuses cfg.input) p

end AddressGrammar.Peg
