import AddressGrammar.Proofs.Peg.PlainMatching

/-!
# What a match covers

Some properties of a stretch of text hold of a whole as soon as they hold of its parts: that it
lies in a class of characters, say, or that it contains no stray line ends. Such a property holds of
everything that an expression matches if it holds of the bytes and of the rules that the expression
is made of. Of the rest of an expression it only matters that no text is skipped between a failure
and the alternative that is tried next.

## Main definitions

* `Expr.total`, `Expr.restores` — expressions that never fail, and that fail where they began
* `Expr.covered` — all text that an expression takes is taken by given classes and rules

## Main results

* `Expr.Matches.covered` — what such an expression matches has the property
-/

namespace AddressGrammar.Peg

open Text

variable {R : Type}

namespace Expr

/-- Whether an expression never fails. -/
def total : Expr R → Bool
  | succeed => true
  | andThen e₁ e₂ => e₁.total && e₂.total
  | orElse _ e₂ => e₂.total
  | attempt e => e.total
  | many _ => true
  | capture e => e.total
  | inspect _ _ => true
  | _ => false

/-- Whether a failure leaves the position where the expression began. -/
def restores : Expr R → Bool
  | andThen e₁ e₂ => e₁.restores && e₂.total
  | orElse e₁ e₂ => e₁.restores && e₂.restores
  | _ => true

/-- Whether all text that the expression takes is taken by bytes of given classes and by given
rules. -/
def covered (okClass : ByteClass → Bool) (okRule : R → Bool) : Expr R → Bool
  | succeed => true
  | fail => true
  | byte c => okClass c
  | run c => okClass c
  | literal bytes => bytes.isEmpty
  | apply r => okRule r
  | andThen e₁ e₂ => e₁.covered okClass okRule && e₂.covered okClass okRule
  | orElse e₁ e₂ => e₁.restores && e₁.covered okClass okRule && e₂.covered okClass okRule
  | attempt e => e.covered okClass okRule
  | many e => e.covered okClass okRule
  | notAhead _ => true
  | ahead _ => true
  | capture e => e.covered okClass okRule
  | check e _ => e.covered okClass okRule
  | inspect _ _ => true

namespace Matches

variable {input : String} {call : R → Nat → Bool → Nat → Prop} {e : Expr R} {p q : Nat} {b : Bool}

theorem eq_true_of_total (h : e.Matches input call p b q) (he : e.total = true) : b = true := by
  induction h with
  | succeed | inspect | orElse | attempt | many_miss | many_still | many_next | capture => rfl
  | andThen _ _ _ ih => exact ih (Bool.and_eq_true_iff.mp he).2
  | andThen_miss _ ih => exact ih (Bool.and_eq_true_iff.mp he).1
  | orElse_next _ _ _ ih => exact ih he
  | attempt_miss _ ih | capture_miss _ ih => exact ih he
  | _ => cases he

theorem eq_of_restores (h : e.Matches input call p b q) (hb : b = false) (he : e.restores = true)
    (hcall : ∀ r p q, call r p false q → q = p) : q = p := by
  induction h with
  | apply h =>
    subst hb
    exact hcall _ _ _ h
  | andThen _ h₂ =>
    have hb' := h₂.eq_true_of_total (Bool.and_eq_true_iff.mp he).2
    cases hb.symm.trans hb'
  | andThen_miss _ ih => exact ih rfl (Bool.and_eq_true_iff.mp he).1
  | orElse_next _ _ ih₁ ih₂ =>
    have he' := Bool.and_eq_true_iff.mp he
    exact (ih₂ hb he'.2).trans (ih₁ rfl he'.1)
  | fail | byte_miss | run_miss | literal_miss | attempt_miss | notAhead | capture_miss
  | check_refused | check_miss | ahead => rfl
  | _ => cases hb

/-- **A match of a covered expression has the property** that its bytes and rules have, if the
property passes from parts to wholes. -/
theorem covered {okClass : ByteClass → Bool} {okRule : R → Bool} {Seg : Nat → Nat → Prop}
    (hrefl : ∀ p, Seg p p) (htrans : ∀ {p i q}, Seg p i → Seg i q → Seg p q)
    (hbyte : ∀ {c p}, okClass c = true → classAt input c p = true → Seg p (p + 1))
    (hmiss : ∀ r p q, call r p false q → q = p)
    (hrule : ∀ {r p q}, okRule r = true → call r p true q → Seg p q)
    (h : e.Matches input call p b q) (hb : b = true) (he : e.covered okClass okRule = true) :
    Seg p q := by
  have hskip : ∀ {c} n i, okClass c = true → Seg i (skipAtMost input c n i) := by
    intro c n
    induction n with
    | zero => exact fun i _ => hrefl i
    | succ n ih =>
      intro i hc
      rw [skipAtMost]
      split
      · next hi => exact htrans (hbyte hc hi) (ih (i + 1) hc)
      · exact hrefl i
  induction h with
  | succeed | inspect | notAhead_miss | ahead => exact hrefl _
  | byte h => exact hbyte he h
  | run h => exact htrans (hbyte he h) (hskip _ _ he)
  | literal =>
    rw [Expr.covered, List.isEmpty_iff] at he
    subst he
    exact hrefl _
  | apply h =>
    subst hb
    exact hrule he h
  | andThen _ _ ih₁ ih₂ =>
    have he' := Bool.and_eq_true_iff.mp he
    exact htrans (ih₁ rfl he'.1) (ih₂ hb he'.2)
  | orElse _ ih =>
    have he' := Bool.and_eq_true_iff.mp (Bool.and_eq_true_iff.mp he).1
    exact ih rfl he'.2
  | orElse_next h₁ _ _ ih₂ =>
    have he' := Bool.and_eq_true_iff.mp he
    obtain rfl := h₁.eq_of_restores rfl (Bool.and_eq_true_iff.mp he'.1).1 hmiss
    exact ih₂ hb he'.2
  | attempt _ ih | capture _ ih | check _ _ ih => exact ih rfl he
  | many_miss | many_still => exact hrefl _
  | many_next _ _ _ ih₁ ih₂ => exact htrans (ih₁ rfl he) (ih₂ rfl he)
  | _ => cases hb

end Matches

end Expr

end AddressGrammar.Peg
