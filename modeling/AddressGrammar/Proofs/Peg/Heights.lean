import AddressGrammar.Proofs.Peg.Lockstep
import AddressGrammar.Proofs.Peg.Tolls

/-!
# Depth paid for by a derivation

A plain match has a height: so many bodies are nested in its derivation, failed attempts included. A
run that answers plainly opens the bodies of that derivation, fewer where the table knows the answer
already, so it does not hit a bound that is not below the height. In contrast to tolls on the bytes of
the input, this tells what stands side by side from what is nested.

Rules that do not come back to themselves have a height of their own, whatever the input. Where a
grammar has such a part, nothing needs to be known about a derivation of it to know its height.

## Main definitions

* `Grammar.Flat` — rules that apply lower ones only

## Main results

* `Expr.Matches.mono_applied` — matching depends on the rules that an expression applies
* `Grammar.matches_iff_of_shared` — a rule depends on the bodies that can be reached from it
* `Grammar.Flat.within` — the height of a rule that does not come back to itself
* `Derives.stays_below` — an evaluation does not hit a bound that its derivation stays below
-/

namespace AddressGrammar.Peg

open Text

variable {R : Type}

/-! ### Heights -/

/-- Matching is monotone in what the rules do that an expression applies. -/
theorem Expr.Matches.mono_applied {input : String} {call call' : R → Nat → Bool → Nat → Prop}
    {e : Expr R} {p q : Nat} {b : Bool} (h : e.Matches input call p b q)
    (hcall : ∀ r ∈ e.applied, ∀ p b q, call r p b q → call' r p b q) :
    e.Matches input call' p b q := by
  have left : ∀ {l₁ l₂ : List R}, (∀ r ∈ l₁ ++ l₂, ∀ p b q, call r p b q → call' r p b q) →
      ∀ r ∈ l₁, ∀ p b q, call r p b q → call' r p b q :=
    fun h r hr => h r (List.mem_append_left _ hr)
  have right : ∀ {l₁ l₂ : List R}, (∀ r ∈ l₁ ++ l₂, ∀ p b q, call r p b q → call' r p b q) →
      ∀ r ∈ l₂, ∀ p b q, call r p b q → call' r p b q :=
    fun h r hr => h r (List.mem_append_right _ hr)
  induction h with
  | succeed => exact .succeed
  | fail => exact .fail
  | byte h => exact .byte h
  | byte_miss h => exact .byte_miss h
  | run h => exact .run h
  | run_miss h => exact .run_miss h
  | literal h => exact .literal h
  | literal_miss h => exact .literal_miss h
  | apply h => exact .apply (hcall _ (List.mem_singleton.mpr rfl) _ _ _ h)
  | andThen _ _ ih₁ ih₂ => exact .andThen (ih₁ (left hcall)) (ih₂ (right hcall))
  | andThen_miss _ ih => exact .andThen_miss (ih (left hcall))
  | orElse _ ih => exact .orElse (ih (left hcall))
  | orElse_next _ _ ih₁ ih₂ => exact .orElse_next (ih₁ (left hcall)) (ih₂ (right hcall))
  | attempt _ ih => exact .attempt (ih hcall)
  | attempt_miss _ ih => exact .attempt_miss (ih hcall)
  | many_miss _ ih => exact .many_miss (ih hcall)
  | many_still _ ih => exact .many_still (ih hcall)
  | many_next _ hpos _ ih₁ ih₂ => exact .many_next (ih₁ hcall) hpos (ih₂ hcall)
  | notAhead _ ih => exact .notAhead (ih hcall)
  | notAhead_miss _ ih => exact .notAhead_miss (ih hcall)
  | ahead _ ih => exact .ahead (ih hcall)
  | capture _ ih => exact .capture (ih hcall)
  | capture_miss _ ih => exact .capture_miss (ih hcall)
  | check _ hp ih => exact .check (ih hcall) hp
  | check_refused _ hp ih => exact .check_refused (ih hcall) hp
  | check_miss _ ih => exact .check_miss (ih hcall)
  | inspect => exact .inspect

namespace Grammar

variable {g : Grammar R} {input : String} {n m : Nat} {r : R} {p q : Nat} {b : Bool}

theorem MatchesWithin.matches (h : g.MatchesWithin input n r p b q) : g.Matches input r p b q :=
  ⟨n, h⟩

/-- A body one step lower makes a match of its rule. -/
theorem MatchesWithin.of_body {i : Nat}
    (h : (g.body r).Matches input (g.MatchesWithin input n) p b i) :
    g.MatchesWithin input (n + 1) r p b (if b then i else p) := ⟨i, h, rfl⟩

theorem matches_of_shared {g' : Grammar R} {K : R → Prop}
    (hclosed : ∀ r, K r → (g.body r).Within K) (hbody : ∀ r, K r → g'.body r = g.body r) (hr : K r)
    (h : g.Matches input r p b q) : g'.Matches input r p b q := by
  obtain ⟨n, hn⟩ := h
  refine ⟨n, ?_⟩
  induction n generalizing r p b q with
  | zero => exact hn.elim
  | succ n ih =>
    obtain ⟨i, hi, rfl⟩ := hn
    refine .of_body ?_
    rw [hbody r hr]
    exact hi.mono_applied fun s hs p b j hj => ih (hclosed r hr s hs) hj

/-- **What a rule does depends on the bodies that can be reached from it.** -/
theorem matches_iff_of_shared {g' : Grammar R} {K : R → Prop}
    (hclosed : ∀ r, K r → (g.body r).Within K) (hbody : ∀ r, K r → g'.body r = g.body r)
    (hr : K r) : g'.Matches input r p b q ↔ g.Matches input r p b q :=
  ⟨matches_of_shared (fun r hr => (hbody r hr).symm ▸ hclosed r hr) (fun r hr => (hbody r hr).symm) hr,
    matches_of_shared hclosed hbody hr⟩

/-- Some rules apply only each other, each of them lower ones. -/
structure Flat (g : Grammar R) (K : R → Prop) (height : R → Nat) : Prop where
  lower : ∀ r, K r → ∀ q ∈ (g.body r).applied, K q ∧ height q < height r

/-- Whether rules are of that kind is seen from their bodies. -/
theorem flat_of_all {K : R → Bool} {height : R → Nat}
    (hall : ∀ r, K r = true →
      ((g.body r).applied.all fun q => K q && decide (height q < height r)) = true) :
    g.Flat (K · = true) height where
  lower r hr q hq := by simpa using List.all_eq_true.mp (hall r hr) q hq

/-- **Rules that do not come back to themselves have a height of their own.** -/
theorem Flat.within {K : R → Prop} {height : R → Nat} (hflat : g.Flat K height) (hr : K r)
    (hle : height r < n) (h : g.Matches input r p b q) : g.MatchesWithin input n r p b q := by
  induction n generalizing r p b q with
  | zero => cases hle
  | succ n ih =>
    obtain ⟨i, hi, rfl⟩ := matches_iff.mp h
    refine .of_body (hi.mono_applied fun q hq p b j hj => ?_)
    obtain ⟨hK, hlt⟩ := hflat.lower r hr q hq
    exact ih hK (by omega) hj

end Grammar

/-! ### Runs below a bound -/

variable [DecidableEq R] {cfg : Setting R}

/-- The derivation of an answer stays below the bound, and with it the evaluation. -/
def Judgement.StaysBelow (cfg : Setting R) (h : List (Moment R)) : Judgement R → Prop
  | .expr e s _ t => s.exhausted = false → (∀ m ∈ h, ¬m.Reenters) → s.Faithful cfg → s.Valid cfg →
      ∀ n b q, e.Matches cfg.input (cfg.grammar.MatchesWithin cfg.input n) s.pos b q →
        s.depth + n ≤ cfg.maxDepth → t.exhausted = false
  | .loop e s t => s.exhausted = false → (∀ m ∈ h, ¬m.Reenters) → s.Faithful cfg → s.Valid cfg →
      ∀ n b q, (Expr.many e).Matches cfg.input (cfg.grammar.MatchesWithin cfg.input n) s.pos b q →
        s.depth + n ≤ cfg.maxDepth → t.exhausted = false
  | .body r s _ t => s.exhausted = false → (∀ m ∈ h, ¬m.Reenters) → s.Faithful cfg →
      (s.enter r).Valid cfg → ∀ n b q, cfg.grammar.MatchesWithin cfg.input n r s.pos b q →
        s.depth + n ≤ cfg.maxDepth → t.exhausted = false
  | .growth _ _ _ _ _ _ => True
  | .rule r s _ t => s.exhausted = false → (∀ m ∈ h, ¬m.Reenters) → s.Faithful cfg → s.Valid cfg →
      ∀ n b q, cfg.grammar.MatchesWithin cfg.input n r s.pos b q →
        s.depth + n ≤ cfg.maxDepth → t.exhausted = false

/-- **An evaluation does not hit a bound that its derivation stays below.** -/
theorem Derives.stays_below {j : Judgement R} {h : List (Moment R)} (hj : Derives cfg j h) :
    j.StaysBelow cfg h := by
  -- what was evaluated below the bound is what the derivation says
  have agree : ∀ {e : Expr R} {s t : State R} {b : Bool} {h : List (Moment R)},
      Derives cfg (.expr e s b t) h → t.exhausted = false → (∀ m ∈ h, ¬m.Reenters) →
      s.Faithful cfg → ∀ {n b' q},
      e.Matches cfg.input (cfg.grammar.MatchesWithin cfg.input n) s.pos b' q →
      t.Faithful cfg ∧ b' = b ∧ q = t.pos := by
    intro e s t b h hd hx hh hf n b' q hm
    obtain ⟨ht, -, hplain⟩ := hd.faithful hx hh hf
    exact ⟨ht, hplain.unique Grammar.matches_unique (hm.mono Grammar.MatchesWithin.matches)⟩
  induction hj with
  | succeed | fail | inspect => exact fun hx _ _ _ _ _ _ _ _ => hx
  | byte hb => exact fun hx _ _ _ _ _ _ _ _ => (State.reads_takeByte hb).exhausted.trans hx
  | run hb => exact fun hx _ _ _ _ _ _ _ _ => (State.reads_takeRun hb).exhausted.trans hx
  | literal hb => exact fun hx _ _ _ _ _ _ _ _ => (State.reads_takeLiteral hb).exhausted.trans hx
  | apply _ _ ih =>
    intro hx hh hf hv n b q hm hd
    exact ih hx hh hf hv n b q (Expr.matches_apply.mp hm) hd
  | andThen he₁ _ ih₁ ih₂ =>
    intro hx hh hf hv n b q hm hd
    rw [List.forall_mem_append] at hh
    have hr := he₁.sound hv
    cases hm with
    | andThen hm₁ hm₂ =>
      have hx₁ := ih₁ hx hh.1 hf hv n _ _ hm₁ hd
      obtain ⟨ht, -, rfl⟩ := agree he₁ hx₁ hh.1 hf hm₁
      exact ih₂ hx₁ hh.2 ht hr.valid n _ _ hm₂ (State.depth_of_active hr.active ▸ hd)
    | andThen_miss hm₁ =>
      have hx₁ := ih₁ hx hh.1 hf hv n _ _ hm₁ hd
      cases (agree he₁ hx₁ hh.1 hf hm₁).2.1
  | andThen_miss he₁ ih =>
    intro hx hh hf hv n b q hm hd
    cases hm with
    | andThen hm₁ _ => exact ih hx hh hf hv n _ _ hm₁ hd
    | andThen_miss hm₁ => exact ih hx hh hf hv n _ _ hm₁ hd
  | orElse he₁ ih =>
    intro hx hh hf hv n b q hm hd
    cases hm with
    | orElse hm₁ => exact ih hx hh hf hv n _ _ hm₁ hd
    | orElse_next hm₁ _ => exact ih hx hh hf hv n _ _ hm₁ hd
  | orElse_next he₁ _ ih₁ ih₂ =>
    intro hx hh hf hv n b q hm hd
    rw [List.forall_mem_append] at hh
    have hr := he₁.sound hv
    cases hm with
    | orElse hm₁ =>
      have hx₁ := ih₁ hx hh.1 hf hv n _ _ hm₁ hd
      cases (agree he₁ hx₁ hh.1 hf hm₁).2.1
    | orElse_next hm₁ hm₂ =>
      have hx₁ := ih₁ hx hh.1 hf hv n _ _ hm₁ hd
      obtain ⟨ht, -, rfl⟩ := agree he₁ hx₁ hh.1 hf hm₁
      exact ih₂ hx₁ hh.2 ht hr.valid n _ _ hm₂ (State.depth_of_active hr.active ▸ hd)
  | attempt _ ih | attempt_miss _ ih =>
    intro hx hh hf hv n b q hm hd
    cases hm with
    | attempt hm | attempt_miss hm => exact ih hx hh hf hv n _ _ hm hd
  | many _ ih => exact ih
  | notAhead _ ih =>
    intro hx hh hf hv n b q hm hd
    rw [State.exhausted_miss]
    cases hm with
    | notAhead hm | notAhead_miss hm => exact ih hx hh hf hv n _ _ hm hd
  | notAhead_miss _ ih =>
    intro hx hh hf hv n b q hm hd
    cases hm with
    | notAhead hm | notAhead_miss hm => exact ih hx hh hf hv n _ _ hm hd
  | ahead _ ih =>
    intro hx hh hf hv n b q hm hd
    cases hm with
    | ahead hm => exact ih hx hh hf hv n _ _ hm hd
  | capture _ ih | capture_miss _ ih =>
    intro hx hh hf hv n b q hm hd
    cases hm with
    | capture hm | capture_miss hm => exact ih hx hh hf hv n _ _ hm hd
  | check _ hp ih | check_refused _ hp ih =>
    intro hx hh hf hv n b q hm hd
    refine (exhausted_askPolicy hp).trans ?_
    cases hm with
    | check hm | check_refused hm | check_miss hm => exact ih hx hh hf hv n _ _ hm hd
  | check_miss _ ih =>
    intro hx hh hf hv n b q hm hd
    cases hm with
    | check hm | check_refused hm | check_miss hm => exact ih hx hh hf hv n _ _ hm hd
  | loop_miss _ ih | loop_still _ _ ih =>
    intro hx hh hf hv n b q hm hd
    cases hm with
    | many_miss hm | many_still hm | many_next hm => exact ih hx hh hf hv n _ _ hm hd
  | loop_next he hpos _ ih₁ ih₂ =>
    intro hx hh hf hv n b q hm hd
    rw [List.forall_mem_append] at hh
    have hr := he.sound hv
    cases hm with
    | many_miss hm =>
      cases (agree he (ih₁ hx hh.1 hf hv n _ _ hm hd) hh.1 hf hm).2.1
    | many_still hm =>
      exact absurd (agree he (ih₁ hx hh.1 hf hv n _ _ hm hd) hh.1 hf hm).2.2.symm hpos
    | many_next hm _ hrest =>
      have hx₁ := ih₁ hx hh.1 hf hv n _ _ hm hd
      obtain ⟨ht, -, rfl⟩ := agree he hx₁ hh.1 hf hm
      exact ih₂ hx₁ hh.2 ht hr.valid n _ _ hrest (State.depth_of_active hr.active ▸ hd)
  | body _ ih | body_miss _ ih =>
    intro hx hh hf hv n b q hm hd
    cases n with
    | zero => exact hm.elim
    | succ n =>
      obtain ⟨i, hi, -⟩ := hm
      refine ih hx (fun m hmem => hh m (List.mem_cons_of_mem _ hmem)) (hf.of_memo rfl) hv n b i hi ?_
      rw [State.depth_enter]
      omega
  | grow | grow_stop => trivial
  | recalled => exact fun hx _ _ _ _ _ _ _ _ => hx
  | reentered he =>
    intro _ hh _
    exact absurd ⟨_, State.progress?_of_get? he⟩ (hh _ (List.mem_singleton.mpr rfl))
  | refused _ hdeep =>
    intro _ _ _ _ n b q hm hd
    cases n with
    | zero => exact hm.elim
    | succ n => omega
  | settled hn hdeep _ _ ih =>
    intro hx hh hf hv n b q hm hd
    rw [List.forall_mem_append] at hh
    exact ih hx hh.1 (hf.begin _) (hv.enter_begin (State.progress?_eq_none.mpr hn) hdeep) n b q hm hd
  | grown hn hdeep hb hs hg ih₁ _ =>
    intro hx hh hf hv n b q hm hd
    rw [List.forall_mem_append, List.forall_mem_append] at hh
    have hx₁ := ih₁ hx hh.1.1 (hf.begin _)
      (hv.enter_begin (State.progress?_eq_none.mpr hn) hdeep) n b q hm hd
    obtain ⟨ht, -⟩ := hb.faithful hx₁ hh.1.1 (hf.begin _)
    rw [Bool.and_eq_true, State.isReentered_iff] at hs
    exact absurd hs.2 ht.unmarked

end AddressGrammar.Peg
