import AddressGrammar.Notation.Production
import AddressGrammar.Proofs.Peg.Preservation
import AddressGrammar.Proofs.Peg.Segments
import AddressGrammar.Proofs.Text.Spans

/-!
# The language of a production

Read as a context-free grammar, productions derive words. A choice is any of its alternatives, in
no order; repetition stops where it likes; the end of the input and the policy on domains are
passed over. A parsing expression is narrower than the production that it spells out: it commits to
its first match and takes all it can get. It is never wider, if it has the same shape.

Having the same shape is decided by looking at the two side by side. The one thing that could go
wrong is hidden from that look: an alternative that is tried behind a failed one must be tried where
the first one was. So a failure has to restore the position, which is a matter of shape as well.

## Main definitions

* `Terminal.spells`, `Production.Yields` — the words that a terminal spells and a production derives
* `Production.choices` — what a production leaves the choice between
* `Expr.follows` — an expression has the shape of a production

## Main results

* `Expr.Matches.yields` — what such an expression matches is derivable
* `Grammar.preserves_yields` — in a grammar of such expressions, rules take derivable words only
-/

namespace AddressGrammar

open Text Peg

namespace Notation

variable {R : Type}

/-! ### Words -/

/-- Whether a class between brackets holds a byte. -/
def classHolds (negated : Bool) (pieces : List ClassPiece) (b : UInt8) : Bool :=
  pieces.any (·.contains b) != negated

/-- Whether a terminal spells a word. -/
def Terminal.spells : Terminal → List UInt8 → Bool
  | text s, w => w == bytes s
  | code b, w => w == [b]
  | codes lo hi, w => w.length == 1 && w.all fun b => decide (lo ≤ b) && decide (b ≤ hi)
  | slashed x, w => w == [x.toByte]
  | oneOf negated pieces, w => w.length == 1 && w.all (classHolds negated pieces)
  | runOf negated pieces, w => !w.isEmpty && w.all (classHolds negated pieces)

namespace Production

/-- A word is derived from a production, given the productions of the rules. -/
inductive Yields (production : R → Production R) : Production R → List UInt8 → Prop where
  | terminal {t w} (h : t.spells w = true) : Yields production (.terminal t) w
  | rule {r w} (h : Yields production (production r) w) : Yields production (.rule r) w
  | seq {p q v w} (hp : Yields production p v) (hq : Yields production q w) :
      Yields production (.seq p q) (v ++ w)
  | left {p q w} (h : Yields production p w) : Yields production (.alt p q) w
  | right {p q w} (h : Yields production q w) : Yields production (.alt p q) w
  | absent {p} : Yields production (.optional p) []
  | present {p w} (h : Yields production p w) : Yields production (.optional p) w
  | done {p} : Yields production (.star p) []
  | more {p v w} (hp : Yields production p v) (hrest : Yields production (.star p) w) :
      Yields production (.star p) (v ++ w)
  | plus {p v w} (hp : Yields production p v) (hrest : Yields production (.star p) w) :
      Yields production (.plus p) (v ++ w)
  | eof : Yields production .eof []
  | validDomain {p w} (h : Yields production p w) : Yields production (.validDomain p) w

/-- What a production leaves the choice between. -/
def choices : Production R → List (Production R)
  | alt p q => p.choices ++ q.choices
  | optional p => optional p :: p.choices
  | validDomain p => p.choices
  | p => [p]

variable {production : R → Production R} {P c : Production R} {w : List UInt8}

/-- What one of the choices derives is derivable. -/
theorem Yields.of_choices (hc : c ∈ P.choices) (h : c.Yields production w) : P.Yields production w := by
  induction P with
  | alt p q ihp ihq =>
    rcases List.mem_append.mp hc with hc | hc
    · exact .left (ihp hc)
    · exact .right (ihq hc)
  | optional p ih =>
    rcases List.mem_cons.mp hc with rfl | hc
    · exact h
    · exact .present (ih hc)
  | validDomain p ih => exact .validDomain (ih hc)
  | _ => rwa [← List.mem_singleton.mp hc]

/-- Whether a production derives the empty word outright. -/
def mayBeEmpty : Production R → Bool
  | optional _ => true
  | star _ => true
  | eof => true
  | _ => false

theorem Yields.of_mayBeEmpty (h : P.mayBeEmpty = true) : P.Yields production [] := by
  cases P with
  | optional p => exact .absent
  | star p => exact .done
  | eof => exact .eof
  | _ => cases h

/-- Whether a production is a terminal that spells a word. -/
def isWord (w : List UInt8) : Production R → Bool
  | terminal t => t.spells w
  | _ => false

theorem Yields.of_isWord (h : P.isWord w = true) : P.Yields production w := by
  cases P with
  | terminal t => exact .terminal h
  | _ => cases h

end Production

end Notation

open Notation Production

/-! ### Stretches that classes and literals take -/

/-- Every byte. -/
def allBytes : List UInt8 := (List.range 256).map UInt8.ofNat

theorem mem_allBytes (b : UInt8) : b ∈ allBytes :=
  List.mem_map.mpr ⟨b.toNat, List.mem_range.mpr b.toNat_lt, UInt8.ofNat_toNat⟩

namespace Text

variable {s : String} {c : ByteClass} {p : Nat}

theorem exists_byte_of_classAt (h : classAt s c p = true) :
    ∃ b, c.contains b = true ∧ bytesBetween s p (p + 1) = [b] := by
  obtain ⟨b, hb, hmem⟩ := (Option.any_eq_true _ _).mp h
  exact ⟨b, hmem, bytesBetween_succ hb⟩

theorem contains_of_mem_skipAtMost (n : Nat) :
    ∀ b ∈ bytesBetween s p (skipAtMost s c n p), c.contains b = true := by
  induction n generalizing p with
  | zero => simp [skipAtMost]
  | succ n ih =>
    rw [skipAtMost]
    split
    · next hp =>
      obtain ⟨b, hb, hbyte⟩ := exists_byte_of_classAt hp
      rw [← bytesBetween_append (Nat.le_succ p) (le_skipAtMost s c n (p + 1)), hbyte]
      exact List.forall_mem_cons.mpr ⟨hb, ih⟩
    · simp

/-- A run of bytes is not empty and consists of bytes of its class. -/
theorem run_of_classAt (h : classAt s c p = true) :
    bytesBetween s p (runEnd s c (p + 1)) ≠ [] ∧
      ∀ b ∈ bytesBetween s p (runEnd s c (p + 1)), c.contains b = true := by
  obtain ⟨b, hb, hbyte⟩ := exists_byte_of_classAt h
  rw [runEnd, ← bytesBetween_append (Nat.le_succ p) (le_skipAtMost ..), hbyte]
  exact ⟨nofun, List.forall_mem_cons.mpr ⟨hb, contains_of_mem_skipAtMost _⟩⟩

theorem bytesBetween_of_spelledAt {w : List UInt8} (h : spelledAt s p w = true) :
    bytesBetween s p (p + w.length) = w := by
  induction w generalizing p with
  | nil => simp
  | cons b w ih =>
    simp only [spelledAt, Bool.and_eq_true, beq_iff_eq] at h
    have hrest := ih h.2
    rw [Nat.add_right_comm] at hrest
    rw [List.length_cons, ← bytesBetween_append (Nat.le_succ p) (by omega), bytesBetween_succ h.1,
      ← Nat.add_assoc, hrest, List.singleton_append]

end Text

/-! ### Expressions in the shape of a production -/

namespace Peg

variable {R : Type}

/-- Whether an expression has the shape of a production. -/
def Expr.follows [DecidableEq R] : Expr R → Production R → Bool
  | succeed, P => P.choices.any mayBeEmpty
  | fail, _ => true
  | byte c, P => allBytes.all fun b => !c.contains b || P.choices.any (isWord [b])
  | run c, P => P.choices.any fun
    | .terminal (.runOf negated pieces) =>
      allBytes.all fun b => !c.contains b || classHolds negated pieces b
    | _ => false
  | literal bytes, P => P.choices.any (isWord bytes)
  | apply r, P => P.choices.any fun
    | .rule q => r == q
    | _ => false
  | andThen e₁ e₂, P => P.choices.any fun
    | .seq p q => e₁.follows p && e₂.follows q
    | .plus p => e₁.follows p && e₂.follows (.star p)
    | _ => false
  | orElse e₁ e₂, P => e₁.restores && e₁.follows P && e₂.follows P
  | attempt e, P => e.follows P
  | many e, P => P.choices.any fun
    | .star p => e.follows p
    | _ => false
  | notAhead _, P => P.choices.any mayBeEmpty
  | ahead _, P => P.choices.any mayBeEmpty
  | capture e, P => e.follows P
  | check e _, P => e.follows P
  | inspect _ _, P => P.choices.any mayBeEmpty

/-- The words that a rule derives, as stretches of an input. -/
abbrev Derivable (production : R → Production R) (input : String) (r : R) (p q : Nat) : Prop :=
  (Production.rule r).Yields production (bytesBetween input p q)

variable [DecidableEq R] {production : R → Production R} {input : String}

/-- **What an expression takes is derivable** from a production of its shape, if what the rules take
is. -/
theorem Expr.Matches.yields {e : Expr R} {p q : Nat} {b : Bool}
    (h : e.Matches input (Allows input (Derivable production input)) p b q) (hb : b = true)
    {P : Production R} (he : e.follows P = true) : P.Yields production (bytesBetween input p q) := by
  have hle : ∀ {e : Expr R} {p b q},
      e.Matches input (Allows input (Derivable production input)) p b q → p ≤ q :=
    fun h => h.le fun _ _ _ _ h => h.advances.le
  have hempty : ∀ {P : Production R} {p}, P.choices.any mayBeEmpty = true →
      P.Yields production (bytesBetween input p p) := by
    intro P p he
    obtain ⟨c, hc, he⟩ := List.any_eq_true.mp he
    rw [bytesBetween_self]
    exact .of_choices hc (.of_mayBeEmpty he)
  induction h generalizing P with
  | succeed | inspect | notAhead_miss | ahead => exact hempty he
  | byte h =>
    obtain ⟨b, hmem, hbyte⟩ := exists_byte_of_classAt h
    have hb := List.all_eq_true.mp he b (mem_allBytes b)
    rw [hmem, Bool.not_true, Bool.false_or] at hb
    obtain ⟨c, hc, hword⟩ := List.any_eq_true.mp hb
    rw [hbyte]
    exact .of_choices hc (.of_isWord hword)
  | run h =>
    obtain ⟨c, hc, he⟩ := List.any_eq_true.mp he
    split at he
    · next negated pieces =>
      obtain ⟨hne, hall⟩ := run_of_classAt h
      refine .of_choices hc (.terminal ?_)
      rw [Terminal.spells, Bool.and_eq_true, Bool.not_eq_true', List.isEmpty_eq_false_iff,
        List.all_eq_true]
      refine ⟨hne, fun b hb => ?_⟩
      have hholds := List.all_eq_true.mp he b (mem_allBytes b)
      rwa [hall b hb, Bool.not_true, Bool.false_or] at hholds
    · cases he
  | literal h =>
    obtain ⟨c, hc, hword⟩ := List.any_eq_true.mp he
    rw [bytesBetween_of_spelledAt h]
    exact .of_choices hc (.of_isWord hword)
  | apply h =>
    subst hb
    obtain ⟨c, hc, he⟩ := List.any_eq_true.mp he
    split at he
    · obtain rfl := eq_of_beq he
      exact .of_choices hc (h.taken rfl)
    · cases he
  | andThen h₁ h₂ ih₁ ih₂ =>
    obtain ⟨c, hc, he⟩ := List.any_eq_true.mp he
    rw [← bytesBetween_append (hle h₁) (hle h₂)]
    split at he
    · obtain ⟨he₁, he₂⟩ := Bool.and_eq_true_iff.mp he
      exact .of_choices hc (.seq (ih₁ rfl he₁) (ih₂ hb he₂))
    · obtain ⟨he₁, he₂⟩ := Bool.and_eq_true_iff.mp he
      exact .of_choices hc (.plus (ih₁ rfl he₁) (ih₂ hb he₂))
    · cases he
  | orElse _ ih =>
    obtain ⟨he₁, -⟩ := Bool.and_eq_true_iff.mp he
    exact ih rfl (Bool.and_eq_true_iff.mp he₁).2
  | orElse_next h₁ _ _ ih₂ =>
    obtain ⟨he₁, he₂⟩ := Bool.and_eq_true_iff.mp he
    obtain rfl := h₁.eq_of_restores rfl (Bool.and_eq_true_iff.mp he₁).1
      fun _ _ _ h => h.advances.eq_of_missed rfl
    exact ih₂ hb he₂
  | attempt _ ih | capture _ ih | check _ _ ih => exact ih rfl he
  | many_miss | many_still =>
    obtain ⟨c, hc, he⟩ := List.any_eq_true.mp he
    split at he
    · rw [bytesBetween_self]
      exact .of_choices hc .done
    · cases he
  | many_next h _ hr ih₁ ih₂ =>
    obtain ⟨c, hc, he⟩ := List.any_eq_true.mp he
    split at he
    · next p =>
      rw [← bytesBetween_append (hle h) (hle hr)]
      refine .of_choices hc (.more (ih₁ rfl he) (ih₂ rfl ?_))
      exact List.any_eq_true.mpr ⟨.star p, List.mem_singleton.mpr rfl, he⟩
    · cases he
  | _ => cases hb

/-- **In a grammar that follows its productions, rules take derivable words only.** -/
theorem Grammar.preserves_yields {g : Grammar R} (hg : ∀ r, (g.body r).follows (production r) = true)
    (input : String) : g.Preserves input (Allows input (Derivable production input)) :=
  preserves_allows fun r _ _ hm => .rule (hm.yields rfl (hg r))

end Peg

end AddressGrammar
