import AddressGrammar.Proofs.Peg.Faithfulness
import AddressGrammar.Proofs.Peg.Nesting
import AddressGrammar.Proofs.Text.Spans

/-!
# Depth paid for by the input

How deeply rule bodies nest is bounded by the rules and the positions of the input, and a recursive
grammar cannot do better for all inputs. It can do better for most: where every way of a rule back to
itself leads past a bracket, say, the bodies that are open inside one another are bounded by the
brackets of the input.

So a toll is charged for some of the bytes. A rule needs a fixed number of bodies inside its own, and
one more for every toll that was paid in front of where they are opened. What is kept is that the
bodies open so far, those still needed and the tolls that are left to pay fit under the bound. It is
kept on failing paths too, since a path can only open bodies behind what it has read. Which bytes an
expression has read for certain when it comes to an application can be seen from the expression.

## Main definitions

* `tollsFrom` — the tolls of the rest of an input
* `Expr.due`, `Expr.fits` — the tolls paid by a match, and whether all applications inside an
  expression have the room that they need
* `Grammar.Tariff` — tolls and needs that fit a grammar

## Main results

* `Derives.pays` — an evaluation that has the room it needs does not hit the bound
-/

namespace AddressGrammar.Peg

open Text

/-! ### Tolls -/

/-- The tolls of the bytes from a position on. -/
def tollsFrom (toll : UInt8 → Nat) (input : String) (p : Nat) : Nat :=
  ((bytes input).drop p).foldr (toll · + ·) 0

section Tolls

variable {toll : UInt8 → Nat} {input : String} {p q : Nat}

theorem tollsFrom_of_byteAt? {a : UInt8} (h : byteAt? input p = some a) :
    tollsFrom toll input p = toll a + tollsFrom toll input (p + 1) := by
  rw [byteAt?_eq_getElem?] at h
  obtain ⟨hlt, rfl⟩ := List.getElem?_eq_some_iff.mp h
  rw [tollsFrom, List.drop_eq_getElem_cons hlt, List.foldr_cons, tollsFrom]

theorem tollsFrom_mono (h : p ≤ q) : tollsFrom toll input q ≤ tollsFrom toll input p := by
  induction h with
  | refl => exact Nat.le_refl _
  | @step q _ ih =>
    refine Nat.le_trans ?_ ih
    cases hb : byteAt? input q with
    | some a =>
      rw [tollsFrom_of_byteAt? hb]
      exact Nat.le_add_left ..
    | none =>
      have hle : (bytes input).length ≤ q + 1 := by
        rw [length_bytes]
        exact Nat.le_succ_of_le (byteAt?_eq_none_iff.mp hb)
      simp [tollsFrom, List.drop_eq_nil_of_le hle]

/-- The toll of every byte of a class, if there is only one. -/
def byteDue (toll : UInt8 → Nat) (c : ByteClass) : Nat :=
  match c.intervals with
  | [(a, b)] => if a = b then toll a else 0
  | _ => 0

theorem tollsFrom_of_classAt {c : ByteClass} (h : classAt input c p = true) :
    tollsFrom toll input (p + 1) + byteDue toll c ≤ tollsFrom toll input p := by
  obtain ⟨b, hb, hmem⟩ := (Option.any_eq_true _ _).mp h
  rw [tollsFrom_of_byteAt? hb, byteDue]
  split
  · next a a' heq =>
    split
    · next haa =>
      subst haa
      have hab : b = a := by
        simp only [ByteClass.contains, heq, List.any_cons, List.any_nil, Bool.or_false,
          Bool.and_eq_true, decide_eq_true_eq] at hmem
        exact UInt8.le_antisymm hmem.2 hmem.1
      rw [hab]
      omega
    · omega
  · omega

end Tolls

variable {R : Type}

namespace Expr

/-- The tolls that an expression has paid for certain when it matches. -/
def due (toll : UInt8 → Nat) : Expr R → Nat
  | byte c => byteDue toll c
  | andThen e₁ e₂ => e₁.due toll + e₂.due toll
  | orElse e₁ e₂ => min (e₁.due toll) (e₂.due toll)
  | attempt e => e.due toll
  | capture e => e.due toll
  | check e _ => e.due toll
  | _ => 0

/-- Whether every rule applied by an expression has the room that it needs, given the room in front
of the expression. Every toll paid on the way makes room for as many bodies. -/
def fits (toll : UInt8 → Nat) (need : R → Nat) : Nat → Expr R → Bool
  | room, apply r => decide (need r < room)
  | room, andThen e₁ e₂ => e₁.fits toll need room && e₂.fits toll need (room + e₁.due toll)
  | room, orElse e₁ e₂ => e₁.fits toll need room && e₂.fits toll need room
  | room, attempt e => e.fits toll need room
  | room, many e => e.fits toll need room
  | room, notAhead e => e.fits toll need room
  | room, ahead e => e.fits toll need room
  | room, capture e => e.fits toll need room
  | room, check e _ => e.fits toll need room
  | _, _ => true

end Expr

/-- Tolls on bytes that pay for the nesting of the rules of a grammar. -/
structure Grammar.Tariff (g : Grammar R) where
  /-- How many bodies a byte pays for. -/
  toll : UInt8 → Nat
  /-- How many bodies may be open inside the body of a rule before a toll is paid. -/
  need : R → Nat
  /-- Every body has room for the rules that it applies. -/
  fits : ∀ r, (g.body r).fits toll need (need r) = true

@[simp] theorem State.depth_enter (s : State R) (r : R) : (s.enter r).depth = s.depth + 1 :=
  s.active.depth_push r s.pos

theorem State.depth_of_active {s t : State R} (h : t.active = s.active) : t.depth = s.depth := by
  rw [State.depth, h, State.depth]

variable {cfg : Setting R}

/-- In this state there is room for so many more bodies: the bodies that are open, these and the
tolls left to pay fit under the bound. -/
def Grammar.Tariff.Room (k : cfg.grammar.Tariff) (s : State R) (room : Nat) : Prop :=
  s.depth + room + tollsFrom k.toll cfg.input s.pos ≤ cfg.maxDepth

namespace Grammar.Tariff

variable {k : cfg.grammar.Tariff} {s t : State R} {room : Nat}

/-- Tolls paid make room. -/
theorem Room.after (h : k.Room s room) (paid : Nat) (ha : t.active = s.active)
    (hpaid : tollsFrom k.toll cfg.input t.pos + paid ≤ tollsFrom k.toll cfg.input s.pos) :
    k.Room t (room + paid) := by
  unfold Room at h ⊢
  rw [State.depth_of_active ha]
  omega

/-- A body takes one of the places that its rule has room for. -/
theorem Room.enter {r : R} (h : k.Room s (room + 1)) : k.Room (s.enter r) room := by
  unfold Room at h ⊢
  rw [State.depth_enter]
  change s.depth + 1 + room + tollsFrom k.toll cfg.input s.pos ≤ cfg.maxDepth
  omega

variable [DecidableEq R]

theorem Room.next (h : k.Room s room) (ht : s.Reaches cfg t) : k.Room t room :=
  h.after 0 ht.active (tollsFrom_mono ht.le)

end Grammar.Tariff

variable [DecidableEq R]

/-- An evaluation that has the room it needs does not hit the bound, and pays its tolls if it
matches. -/
def Judgement.Pays (k : cfg.grammar.Tariff) : Judgement R → Prop
  | .expr e s b t => s.Valid cfg → s.exhausted = false → ∀ room, e.fits k.toll k.need room = true →
      k.Room s room → t.exhausted = false ∧ (b = true →
        tollsFrom k.toll cfg.input t.pos + e.due k.toll ≤ tollsFrom k.toll cfg.input s.pos)
  | .loop e s t => s.Valid cfg → s.exhausted = false → ∀ room, e.fits k.toll k.need room = true →
      k.Room s room → t.exhausted = false
  | .body r s _ t => (s.enter r).Valid cfg → s.exhausted = false → k.Room s (k.need r + 1) →
      t.exhausted = false
  | .growth r start best s _ t => s.Growing cfg r start best → s.exhausted = false →
      k.Room (s.moveTo start) (k.need r + 1) → t.exhausted = false
  | .rule r s _ t => s.Valid cfg → s.exhausted = false → k.Room s (k.need r + 1) →
      t.exhausted = false

/-- **An evaluation that has the room it needs does not hit the bound.** -/
theorem Derives.pays (k : cfg.grammar.Tariff) {j : Judgement R} {h : List (Moment R)}
    (hj : Derives cfg j h) : j.Pays k := by
  induction hj with
  | succeed | inspect => exact fun _ hx _ _ _ => ⟨hx, fun _ => Nat.le_refl _⟩
  | fail => exact fun _ hx _ _ _ => ⟨hx, nofun⟩
  | @byte c s b t hb =>
    refine fun _ hx _ _ _ => ⟨(State.reads_takeByte hb).exhausted.trans hx, ?_⟩
    rintro rfl
    unfold State.takeByte at hb
    split at hb <;> cases hb
    next hc => exact tollsFrom_of_classAt hc
  | run hb =>
    exact fun hv hx _ _ _ => ⟨(State.reads_takeRun hb).exhausted.trans hx,
      fun _ => tollsFrom_mono ((State.reads_takeRun hb).reaches hv).le⟩
  | literal hb =>
    exact fun hv hx _ _ _ => ⟨(State.reads_takeLiteral hb).exhausted.trans hx,
      fun _ => tollsFrom_mono ((State.reads_takeLiteral hb).reaches hv).le⟩
  | apply hr _ ih =>
    intro hv hx room hfit hroom
    have hneed := of_decide_eq_true hfit
    refine ⟨ih hv hx ?_, fun _ => tollsFrom_mono (hr.sound hv).1.le⟩
    unfold Grammar.Tariff.Room at hroom ⊢
    omega
  | andThen he₁ he₂ ih₁ ih₂ =>
    intro hv hx room hfit hroom
    obtain ⟨hfit₁, hfit₂⟩ := Bool.and_eq_true_iff.mp hfit
    have ht := he₁.sound hv
    obtain ⟨hx₁, hdue₁⟩ := ih₁ hv hx room hfit₁ hroom
    obtain ⟨hx₂, hdue₂⟩ := ih₂ ht.valid hx₁ _ hfit₂ (hroom.after _ ht.active (hdue₁ rfl))
    refine ⟨hx₂, fun hb => ?_⟩
    have h₁ := hdue₁ rfl
    have h₂ := hdue₂ hb
    rw [Expr.due]
    omega
  | andThen_miss _ ih =>
    intro hv hx room hfit hroom
    exact ⟨(ih hv hx room (Bool.and_eq_true_iff.mp hfit).1 hroom).1, nofun⟩
  | orElse _ ih =>
    intro hv hx room hfit hroom
    obtain ⟨hx₁, hdue⟩ := ih hv hx room (Bool.and_eq_true_iff.mp hfit).1 hroom
    exact ⟨hx₁, fun hb => Nat.le_trans (Nat.add_le_add_left (Nat.min_le_left ..) _) (hdue hb)⟩
  | @orElse_next e₁ e₂ s t b u h₁ h₂ he₁ _ ih₁ ih₂ =>
    intro hv hx room hfit hroom
    obtain ⟨hfit₁, hfit₂⟩ := Bool.and_eq_true_iff.mp hfit
    have ht := he₁.sound hv
    obtain ⟨hx₁, -⟩ := ih₁ hv hx room hfit₁ hroom
    obtain ⟨hx₂, hdue⟩ := ih₂ ht.valid hx₁ room hfit₂ (hroom.next ht)
    refine ⟨hx₂, fun hb => ?_⟩
    have h₂ := hdue hb
    have hle : tollsFrom k.toll cfg.input t.pos ≤ tollsFrom k.toll cfg.input s.pos :=
      tollsFrom_mono ht.le
    rw [Expr.due]
    omega
  | attempt _ ih | capture _ ih => exact ih
  | attempt_miss _ ih | capture_miss _ ih | check_miss _ ih =>
    intro hv hx room hfit hroom
    exact ⟨(ih hv hx room hfit hroom).1, nofun⟩
  | many hl ih =>
    intro hv hx room hfit hroom
    exact ⟨ih hv hx room hfit hroom, fun _ => tollsFrom_mono (hl.sound hv).le⟩
  | notAhead _ ih =>
    intro hv hx room hfit hroom
    exact ⟨(State.exhausted_miss _).trans (ih hv hx room hfit hroom).1, nofun⟩
  | notAhead_miss _ ih | ahead _ ih =>
    intro hv hx room hfit hroom
    exact ⟨(ih hv hx room hfit hroom).1, fun _ => Nat.le_refl _⟩
  | check _ hp ih =>
    intro hv hx room hfit hroom
    obtain ⟨hx₁, hdue⟩ := ih hv hx room hfit hroom
    refine ⟨(exhausted_askPolicy hp).trans hx₁, fun _ => ?_⟩
    rw [(askPolicy_answer hp).2]
    exact hdue rfl
  | check_refused _ hp ih =>
    intro hv hx room hfit hroom
    exact ⟨(exhausted_askPolicy hp).trans (ih hv hx room hfit hroom).1, nofun⟩
  | loop_miss _ ih | loop_still _ _ ih =>
    intro hv hx room hfit hroom
    exact (ih hv hx room hfit hroom).1
  | loop_next he _ _ ih₁ ih₂ =>
    intro hv hx room hfit hroom
    have ht := he.sound hv
    exact ih₂ ht.valid (ih₁ hv hx room hfit hroom).1 room hfit (hroom.next ht)
  | @body r _ _ _ _ ih | @body_miss r _ _ _ _ ih =>
    intro hv hx hroom
    exact (ih hv hx _ (k.fits r) hroom.enter).1
  | @grow r start best s next t o u h₁ h₂ hb hlt hg ih₁ ih₂ =>
    intro hready hx hroom
    have hc := hb.sound hready.enter
    refine ih₂ (hready.next hc hlt.1) (ih₁ hready.enter hx hroom) ?_
    exact hroom.after 0 (t := (t.settle r start next).moveTo start) hc.active
      (Nat.le_refl _)
  | grow_stop _ _ ih => exact fun hready hx hroom => ih hready.enter hx hroom
  | recalled | reentered => exact fun _ hx _ => hx
  | refused _ hd =>
    intro _ _ hroom
    unfold Grammar.Tariff.Room at hroom
    omega
  | settled hn hd _ _ ih =>
    intro hv hx hroom
    exact ih (hv.enter_begin (State.progress?_eq_none.mpr hn) hd) hx hroom
  | @grown r s seed t o u h₁ h₂ hn hd hb hs _ ih₁ ih₂ =>
    intro hv hx hroom
    have hv' := hv.enter_begin (State.progress?_eq_none.mpr hn) hd
    have hc := hb.sound hv'
    refine ih₂ (hc.growing_seed hv hn hd (Bool.and_eq_true_iff.mp hs).1) (ih₁ hv' hx hroom) ?_
    exact hroom.after 0 (t := (t.settle r s.pos seed).moveTo s.pos) hc.active
      (Nat.le_refl _)

end AddressGrammar.Peg
