import AddressGrammar.Proofs.Peg.PlainMatching

/-!
# Matching inside a larger text

A text may stand inside another one, which goes on behind it. An expression that is asked for at a
position of the smaller text and at the corresponding position of the larger one reads the same bytes
until it comes to the end of the smaller text, and if it does not care what stands there, it does the
same in both.

Which positions can be compared depends on more than the texts: that the smaller one is left by a
rule that failed in it, because something in it was not closed, is excluded at some positions only.
So a window is given by its positions, and an expression is carried if from these positions it does
the same in both texts and does not leave them.

## Main definitions

* `Window` — positions where two texts show the same
* `Expr.Carried` — what an expression does in one text it does in the other
* `Expr.reads` — the classes and the rules that an expression is made of

## Main results

* `Expr.carried_of_reads` — an expression is carried if its classes and rules are
* `Grammar.carried_rules` — rules are carried if their bodies are made of such classes and rules
* `Expr.Matches.many_carried` — a repetition that is known to end where its end is seen
-/

namespace AddressGrammar.Peg

open Text

variable {R : Type}

/-- What one text shows at certain positions, another one shows at an offset from them. Reading a
byte that is there leads to the next of these positions. -/
structure Window (okClass : ByteClass → Bool) (Inside : Nat → Prop) (s t : String) (off : Nat) :
    Prop where
  classAt_eq : ∀ {c p}, okClass c = true → Inside p → classAt t c (off + p) = classAt s c p
  next : ∀ {c p}, okClass c = true → Inside p → classAt s c p = true → Inside (p + 1)
  slice?_eq : ∀ {p q}, Inside p → Inside q → slice? t (off + p) (off + q) = slice? s p q

namespace Expr

/-- What the expression does in one text it does in another one at an offset, without leaving the
positions inside. -/
def Carried (s t : String) (call call' : R → Nat → Bool → Nat → Prop) (off : Nat)
    (Inside : Nat → Prop) (e : Expr R) : Prop :=
  ∀ p b q, Inside p → e.Matches s call p b q → e.Matches t call' (off + p) b (off + q) ∧ Inside q

/-- Whether the expression is made of single bytes of given classes and of given rules. -/
def reads (okClass : ByteClass → Bool) (okRule : R → Bool) : Expr R → Bool
  | succeed => true
  | fail => true
  | byte c => okClass c
  | apply r => okRule r
  | andThen e₁ e₂ => e₁.reads okClass okRule && e₂.reads okClass okRule
  | orElse e₁ e₂ => e₁.reads okClass okRule && e₂.reads okClass okRule
  | attempt e => e.reads okClass okRule
  | many e => e.reads okClass okRule
  | check e _ => e.reads okClass okRule
  | _ => false

section Carried

variable {s t : String} {call call' : R → Nat → Bool → Nat → Prop} {off : Nat} {Inside : Nat → Prop}
  {okClass : ByteClass → Bool} {e e₁ e₂ : Expr R} {c : ByteClass} {policy : Policy} {p q : Nat}

/-- **Repetitions.** If every iteration that is followed by the rest of the repetition is carried, and
so is the failure at its end, the repetition is carried. -/
theorem Matches.many_carried {I : Nat → Prop}
    (hstep : ∀ p i, I p → e.Matches s call p true i → (many e).Matches s call i true q →
      e.Matches t call' (off + p) true (off + i) ∧ I i)
    (hend : I q → (∃ i, e.Matches s call q false i) → ∃ i, e.Matches t call' (off + q) false i)
    (h : (many e).Matches s call p true q) (hp : I p) :
    (many e).Matches t call' (off + p) true (off + q) ∧ I q := by
  generalize he : many e = loop at h
  generalize hb : true = b at h
  induction h with
  | many_miss h =>
    cases he
    obtain ⟨i, hi⟩ := hend hp ⟨_, h⟩
    exact ⟨.many_miss hi, hp⟩
  | many_still h =>
    cases he
    exact ⟨.many_still (hstep _ _ hp h (.many_still h)).1, hp⟩
  | many_next h hpos hr _ ih =>
    cases he
    obtain ⟨h', hi⟩ := hstep _ _ hp h hr
    obtain ⟨hr', hq⟩ := ih hstep hend hi rfl rfl
    exact ⟨.many_next h' (fun heq => hpos (Nat.add_left_cancel heq)) hr', hq⟩
  | _ => cases he

theorem carried_byte (hw : Window okClass Inside s t off) (hc : okClass c = true) :
    (byte c : Expr R).Carried s t call call' off Inside := by
  intro p b q hp h
  have heq := hw.classAt_eq hc hp
  cases h with
  | byte h => exact ⟨.byte (heq.trans h), hw.next hc hp h⟩
  | byte_miss h => exact ⟨.byte_miss (heq.trans h), hp⟩

theorem carried_andThen (h₁ : e₁.Carried s t call call' off Inside)
    (h₂ : e₂.Carried s t call call' off Inside) :
    (andThen e₁ e₂).Carried s t call call' off Inside := by
  intro p b q hp h
  cases h with
  | andThen hm₁ hm₂ =>
    obtain ⟨hm₁, hi⟩ := h₁ _ _ _ hp hm₁
    obtain ⟨hm₂, hq⟩ := h₂ _ _ _ hi hm₂
    exact ⟨.andThen hm₁ hm₂, hq⟩
  | andThen_miss hm₁ =>
    obtain ⟨hm₁, hq⟩ := h₁ _ _ _ hp hm₁
    exact ⟨.andThen_miss hm₁, hq⟩

theorem carried_orElse (h₁ : e₁.Carried s t call call' off Inside)
    (h₂ : e₂.Carried s t call call' off Inside) :
    (orElse e₁ e₂).Carried s t call call' off Inside := by
  intro p b q hp h
  cases h with
  | orElse hm₁ =>
    obtain ⟨hm₁, hq⟩ := h₁ _ _ _ hp hm₁
    exact ⟨.orElse hm₁, hq⟩
  | orElse_next hm₁ hm₂ =>
    obtain ⟨hm₁, hi⟩ := h₁ _ _ _ hp hm₁
    obtain ⟨hm₂, hq⟩ := h₂ _ _ _ hi hm₂
    exact ⟨.orElse_next hm₁ hm₂, hq⟩

theorem carried_attempt (he : e.Carried s t call call' off Inside) :
    (attempt e).Carried s t call call' off Inside := by
  intro p b q hp h
  cases h with
  | attempt hm =>
    obtain ⟨hm, hq⟩ := he _ _ _ hp hm
    exact ⟨.attempt hm, hq⟩
  | attempt_miss hm => exact ⟨.attempt_miss (he _ _ _ hp hm).1, hp⟩

theorem carried_many (he : e.Carried s t call call' off Inside) :
    (many e).Carried s t call call' off Inside := by
  intro p b q hp h
  obtain rfl := h.many_matched
  exact h.many_carried (fun p i hp hi _ => he p true i hp hi)
    (fun hq ⟨i, hi⟩ => ⟨off + i, (he q false i hq hi).1⟩) hp

theorem carried_check (hw : Window okClass Inside s t off)
    (he : e.Carried s t call call' off Inside) :
    (check e policy).Carried s t call call' off Inside := by
  intro p b q hp h
  cases h with
  | check hm hok =>
    obtain ⟨hm, hq⟩ := he _ _ _ hp hm
    exact ⟨.check hm ((hw.slice?_eq hp hq).symm ▸ hok), hq⟩
  | check_refused hm hok =>
    obtain ⟨hm, hq⟩ := he _ _ _ hp hm
    exact ⟨.check_refused hm ((hw.slice?_eq hp hq).symm ▸ hok), hp⟩
  | check_miss hm => exact ⟨.check_miss (he _ _ _ hp hm).1, hp⟩

/-- **An expression is carried** if the classes and the rules that it is made of are. -/
theorem carried_of_reads (hw : Window okClass Inside s t off) {okRule : R → Bool}
    (hrule : ∀ r, okRule r = true → (apply r).Carried s t call call' off Inside)
    (he : e.reads okClass okRule = true) : e.Carried s t call call' off Inside := by
  induction e with
  | succeed =>
    rintro p b q hp ⟨⟩
    exact ⟨.succeed, hp⟩
  | fail =>
    rintro p b q hp ⟨⟩
    exact ⟨.fail, hp⟩
  | byte c => exact carried_byte hw he
  | apply r => exact hrule r he
  | andThen e₁ e₂ ih₁ ih₂ =>
    have he := Bool.and_eq_true_iff.mp he
    exact carried_andThen (ih₁ he.1) (ih₂ he.2)
  | orElse e₁ e₂ ih₁ ih₂ =>
    have he := Bool.and_eq_true_iff.mp he
    exact carried_orElse (ih₁ he.1) (ih₂ he.2)
  | attempt e ih => exact carried_attempt (ih he)
  | many e ih => exact carried_many (ih he)
  | check e policy ih => exact carried_check hw (ih he)
  | _ => cases he

end Carried

/-! ### The order of parts -/

section Order

variable {input : String} {call : R → Nat → Bool → Nat → Prop} {e e₁ e₂ e₃ : Expr R} {p q : Nat}
  {b : Bool}

/-- Parts that follow each other may be grouped in another way. -/
theorem matches_andThen_assoc : (andThen (andThen e₁ e₂) e₃).Matches input call p b q ↔
    (andThen e₁ (andThen e₂ e₃)).Matches input call p b q := by
  constructor
  · intro h
    cases h with
    | andThen h₁₂ h₃ =>
      cases h₁₂ with
      | andThen h₁ h₂ => exact .andThen h₁ (.andThen h₂ h₃)
    | andThen_miss h₁₂ =>
      cases h₁₂ with
      | andThen h₁ h₂ => exact .andThen h₁ (.andThen_miss h₂)
      | andThen_miss h₁ => exact .andThen_miss h₁
  · intro h
    cases h with
    | andThen h₁ h₂₃ =>
      cases h₂₃ with
      | andThen h₂ h₃ => exact .andThen (.andThen h₁ h₂) h₃
      | andThen_miss h₂ => exact .andThen_miss (.andThen h₁ h₂)
    | andThen_miss h₁ => exact .andThen_miss (.andThen_miss h₁)

theorem matches_andThen_congr
    (h : ∀ i b q, e₁.Matches input call i b q ↔ e₂.Matches input call i b q) :
    (andThen e e₁).Matches input call p b q ↔ (andThen e e₂).Matches input call p b q := by
  constructor
  · intro hm
    cases hm with
    | andThen he hm => exact .andThen he ((h _ _ _).mp hm)
    | andThen_miss he => exact .andThen_miss he
  · intro hm
    cases hm with
    | andThen he hm => exact .andThen he ((h _ _ _).mpr hm)
    | andThen_miss he => exact .andThen_miss he

end Order

end Expr

/-! ### Rules -/

namespace Grammar

variable {g : Grammar R} {s t : String} {off : Nat} {Inside : Nat → Prop} {okClass : ByteClass → Bool}

/-- A rule is carried if its body is. -/
theorem carried_rule {r : R}
    (h : (g.body r).Carried s t (g.Matches s) (g.Matches t) off Inside) :
    (Expr.apply r).Carried s t (g.Matches s) (g.Matches t) off Inside := by
  intro p b q hp hm
  obtain ⟨i, hi, rfl⟩ := matches_iff.mp (Expr.matches_apply.mp hm)
  obtain ⟨hi', hq⟩ := h p b i hp hi
  cases b with
  | true => exact ⟨.apply (.of_body hi'), hq⟩
  | false => exact ⟨.apply (.of_body hi'), hp⟩

/-- **Rules are carried together** if their bodies are made of each other and of rules that are. -/
theorem carried_rules (hw : Window okClass Inside s t off) (given made : R → Bool)
    (hgiven : ∀ r, given r = true →
      (Expr.apply r).Carried s t (g.Matches s) (g.Matches t) off Inside)
    (hmade : ∀ r, made r = true → (g.body r).reads okClass (fun r => given r || made r) = true)
    (r : R) (hr : made r = true) :
    (Expr.apply r).Carried s t (g.Matches s) (g.Matches t) off Inside := by
  let Kept (r : R) (p : Nat) (b : Bool) (q : Nat) : Prop :=
    made r = true → Inside p → g.Matches t r (off + p) b (off + q) ∧ Inside q
  have hstep : ∀ r p b i,
      (g.body r).Matches s (fun r p b q => g.Matches s r p b q ∧ Kept r p b q) p b i →
      Kept r p b (if b then i else p) := by
    intro r p b i hi hr hp
    have hbody : (g.body r).Carried s t (fun r p b q => g.Matches s r p b q ∧ Kept r p b q)
        (g.Matches t) off Inside := by
      refine Expr.carried_of_reads hw (fun r hr p b q hp hm => ?_) (hmade r hr)
      obtain ⟨hm, hkept⟩ := Expr.matches_apply.mp hm
      rcases Bool.or_eq_true_iff.mp hr with hr | hr
      · exact hgiven r hr p b q hp (.apply hm)
      · obtain ⟨hm, hq⟩ := hkept hr hp
        exact ⟨.apply hm, hq⟩
    obtain ⟨hi, hq⟩ := hbody p b i hp hi
    cases b with
    | true => exact ⟨.of_body hi, hq⟩
    | false => exact ⟨.of_body hi, hp⟩
  intro p b q hp h
  obtain ⟨hm, hq⟩ := (Expr.matches_apply.mp h).rule_induction hstep hr hp
  exact ⟨.apply hm, hq⟩

end Grammar

end AddressGrammar.Peg
