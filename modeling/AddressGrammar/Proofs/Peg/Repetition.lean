import AddressGrammar.Proofs.Peg.Preservation
import AddressGrammar.Proofs.Peg.Replay

/-!
# Where a repetition ends

A repetition ends where its body fails, or matches without moving. That is what one evaluation of the
body came to, and what a grammar asks for next may be the same body once more at the same place. As
long as the bound on nesting is not hit, both evaluations come to what the body means. In an exhausted
run that says nothing: a rule was refused somewhere inside, the body failed for that reason alone,
and what was refused may have left traces in the table.

The second evaluation goes the way of the first all the same. Whatever a rule was answered the first
time it is answered the second time without its body being opened: by the table, which remembers
failures like matches; by the rule itself, if it is open; or by the bound, since a refusal leaves no
entry and the depth is what it was. So it is not the meaning of the body that is the same, but what
the final table says about it.

## Main definitions

* `State.Echoes` — a state answers at once what another one does
* `State.AtOnce` — the answers for which no body is evaluated

## Main results

* `Derives.echoes` — a state answers at once what earlier ones did
* `Derives.again` — an evaluation that is made again comes to the same
* `Derives.pos_eq_of_loop` — behind a repetition its body does not move
-/

namespace AddressGrammar.Peg

open Text

variable {R : Type}

theorem State.Reads.active {length : Nat} {s t : State R} {b : Bool} (h : s.Reads length b t) :
    t.active = s.active := by
  obtain ⟨-, p, -, -, rfl⟩ | ⟨-, rfl⟩ := h
  · rfl
  · exact s.active_miss

theorem active_askPolicy {input : String} {policy : Policy} {span : Span} {s t : State R} {b : Bool}
    (h : askPolicy input policy span s = (b, t)) : t.active = s.active := by
  obtain ⟨-, e, rfl⟩ | ⟨-, u, rfl, rfl | ⟨e, rfl⟩⟩ := askPolicy_eq h
  · rfl
  · exact State.active_miss _
  · exact State.active_miss _

variable [DecidableEq R] {cfg : Setting R}

/-- Evaluations close the rules that they open. -/
theorem Derives.active_eq {j : Judgement R} {h : List (Moment R)} (hj : Derives cfg j h) :
    j.after.active = j.before.active := by
  induction hj with
  | succeed | fail | inspect | recalled | reentered | refused | body | body_miss => rfl
  | byte hb => exact (State.reads_takeByte hb).active
  | run hb => exact (State.reads_takeRun hb).active
  | literal hb => exact (State.reads_takeLiteral hb).active
  | andThen _ _ ih₁ ih₂ | orElse_next _ _ ih₁ ih₂ | loop_next _ _ _ ih₁ ih₂ | grow _ _ _ ih₁ ih₂
  | grown _ _ _ _ _ ih₁ ih₂ => exact ih₂.trans ih₁
  | notAhead _ ih => exact (State.active_miss _).trans ih
  | check _ hp ih | check_refused _ hp ih => exact (active_askPolicy hp).trans ih
  | apply _ _ ih | andThen_miss _ ih | orElse _ ih | attempt _ ih | attempt_miss _ ih | many _ ih
  | notAhead_miss _ ih | ahead _ ih | capture _ ih | capture_miss _ ih | check_miss _ ih
  | loop_miss _ ih | loop_still _ _ ih | grow_stop _ _ ih | settled _ _ _ _ ih => exact ih

/-! ### Answers that need no body -/

namespace State

/-- `t` answers at once whatever `s` does, and for the same reason. -/
structure Echoes (cfg : Setting R) (t s : State R) : Prop where
  active : t.active = s.active
  /-- An entry is not taken back. -/
  stage : ∀ A : Progress → Prop, (∀ again, A (.inProgress again) → A (.inProgress true)) →
    ∀ r p, s.AtStage A r p → t.AtStage A r p
  /-- At the bound on nesting no entry is begun. -/
  absent : cfg.maxDepth ≤ s.depth → ∀ r p, s.progress? r p = none → t.progress? r p = none

namespace Echoes

variable {s t u : State R}

theorem refl (s : State R) : s.Echoes cfg s := ⟨rfl, fun _ _ _ _ => id, fun _ _ _ => id⟩

theorem trans (h : u.Echoes cfg t) (h' : t.Echoes cfg s) : u.Echoes cfg s where
  active := h.active.trans h'.active
  stage A hA r p hs := h.stage A hA r p (h'.stage A hA r p hs)
  absent hd r p hn := h.absent (by rwa [depth, h'.active]) r p (h'.absent hd r p hn)

theorem of_memo (h : t.Echoes cfg s) (hm : u.memo = t.memo) (ha : u.active = t.active) :
    u.Echoes cfg s where
  active := ha.trans h.active
  stage A hA r p hs := by
    obtain ⟨x, hk, hx⟩ := h.stage A hA r p hs
    exact ⟨x, (progress?_of_memo_eq hm r p).trans hk, hx⟩
  absent hd r p hn := (progress?_of_memo_eq hm r p).trans (h.absent hd r p hn)

/-- A state that differs in other things is echoed all the same. -/
theorem of_moved (h : u.Echoes cfg t) (hm : t.memo = s.memo) (ha : t.active = s.active) :
    u.Echoes cfg s := h.trans ((refl s).of_memo hm ha)

end Echoes

/-- What a rule is answered at a position in `s` without its body being evaluated. -/
def AtOnce (cfg : Setting R) (s : State R) (r : R) (p : Nat) (b : Bool) (q : Nat) : Prop :=
  (cfg.immediate? r (s.moveTo p)).map (fun answer => (answer.1.matched, answer.1.stop)) = some (b, q)

variable {s : State R} {r : R} {p q q' : Nat} {b b' : Bool} {o : Outcome}

theorem AtOnce.unique (h : s.AtOnce cfg r p b q) (h' : s.AtOnce cfg r p b' q') :
    b' = b ∧ q' = q := by
  cases h.symm.trans h'
  exact ⟨rfl, rfl⟩

theorem atOnce_of_done (h : s.progress? r p = some (.done o)) :
    s.AtOnce cfg r p o.matched o.stop := by
  obtain ⟨k, he⟩ := exists_get?_of_progress? h
  simp [AtOnce, Setting.immediate?, he]

theorem atOnce_of_inProgress {again : Bool} (h : s.progress? r p = some (.inProgress again)) :
    s.AtOnce cfg r p false p := by
  obtain ⟨k, he⟩ := exists_get?_of_progress? h
  simp [AtOnce, Setting.immediate?, he, Outcome.missed, Outcome.stop]

theorem atOnce_of_refused (hn : s.progress? r p = none) (hd : cfg.maxDepth ≤ s.depth) :
    s.AtOnce cfg r p false p := by
  have hd' : cfg.maxDepth ≤ (s.moveTo p).depth := hd
  simp [AtOnce, Setting.immediate?, progress?_eq_none.mp hn, hd', Outcome.missed, Outcome.stop]

end State

/-! ### Making an evaluation again -/

/-- An evaluation ends in a state that answers at once what the state did in which it begins. Nothing
is said about bodies and their growth, which write the entry of a rule that is open. -/
def Judgement.Echoes (cfg : Setting R) : Judgement R → Prop
  | .body _ _ _ _ | .growth _ _ _ _ _ _ => True
  | .expr _ s _ t | .loop _ s t | .rule _ s _ t => t.Echoes cfg s

/-- **States echo earlier ones.** -/
theorem Derives.echoes {j : Judgement R} {h : List (Moment R)} (hj : Derives cfg j h) :
    j.Echoes cfg := by
  induction hj with
  | succeed | fail => exact .refl _
  | inspect => exact (State.Echoes.refl _).of_memo rfl rfl
  | byte hb =>
    have hreads := State.reads_takeByte hb
    exact (State.Echoes.refl _).of_memo hreads.memo hreads.active
  | run hb =>
    have hreads := State.reads_takeRun hb
    exact (State.Echoes.refl _).of_memo hreads.memo hreads.active
  | literal hb =>
    have hreads := State.reads_takeLiteral hb
    exact (State.Echoes.refl _).of_memo hreads.memo hreads.active
  | andThen _ _ ih₁ ih₂ | orElse_next _ _ ih₁ ih₂ | loop_next _ _ _ ih₁ ih₂ => exact ih₂.trans ih₁
  | apply _ _ ih | andThen_miss _ ih | orElse _ ih | attempt _ ih | many _ ih | loop_still _ _ ih =>
    exact ih
  | attempt_miss _ ih | notAhead_miss _ ih | ahead _ ih | capture _ ih | capture_miss _ ih
  | check_miss _ ih | loop_miss _ ih => exact ih.of_memo rfl rfl
  | notAhead _ ih => exact ih.of_memo (State.memo_miss _) (State.active_miss _)
  | check _ hp ih => exact ih.of_memo (memo_askPolicy hp) (active_askPolicy hp)
  | check_refused _ hp ih =>
    have hu := ih.of_memo (memo_askPolicy hp) (active_askPolicy hp)
    exact hu.of_memo rfl rfl
  | body | body_miss | grow | grow_stop => trivial
  | recalled he =>
    have hd : Derives cfg _ _ := .recalled he
    exact ⟨rfl, fun _ hA => hd.sustains hA, fun _ r p hn => by rwa [State.progress?_reuse]⟩
  | @reentered r s again k he =>
    have hd : Derives cfg _ _ := .reentered he
    have hk := State.progress?_of_get? he
    refine ⟨rfl, fun _ hA => hd.sustains hA, fun _ q p hn => ?_⟩
    rw [State.progress?_reenter hk, if_neg, hn]
    rintro ⟨rfl, rfl⟩
    cases hk.symm.trans hn
  | refused => exact ⟨rfl, fun _ _ _ _ => id, fun _ _ _ => id⟩
  | settled hn hlt hb hg =>
    have hd := Derives.settled hn hlt hb hg
    exact ⟨hd.active_eq, fun _ hA => hd.sustains hA, fun hle => absurd hlt (Nat.not_lt_of_le hle)⟩
  | grown hn hlt hb hs hg =>
    have hd := Derives.grown hn hlt hb hs hg
    exact ⟨hd.active_eq, fun _ hA => hd.sustains hA, fun hle => absurd hlt (Nat.not_lt_of_le hle)⟩

/-- An evaluation does what the answers say that later states give at once. -/
def Judgement.Echoed (cfg : Setting R) : Judgement R → Prop
  | .expr e s b t => ∀ u : State R, u.Echoes cfg t →
      e.Matches cfg.input (u.AtOnce cfg) s.pos b t.pos
  | .loop e s t => ∀ u : State R, u.Echoes cfg t →
      (Expr.many e).Matches cfg.input (u.AtOnce cfg) s.pos true t.pos
  | .body _ _ o t | .growth _ _ _ _ o t => t.pos = o.stop
  | .rule r s o t => t.pos = o.stop ∧ ∀ u : State R, u.Echoes cfg t →
      u.AtOnce cfg r s.pos o.matched o.stop

/-- **Later states tell what an evaluation did.** -/
theorem Derives.echoed {j : Judgement R} {h : List (Moment R)} (hj : Derives cfg j h) :
    j.Echoed cfg := by
  -- An outcome that is remembered at the end of an application is answered at once.
  have remembered : ∀ {r : R} {p : Nat} {o : Outcome} {t u : State R},
      t.progress? r p = some (.done o) → u.Echoes cfg t → u.AtOnce cfg r p o.matched o.stop := by
    intro r p o t u hk hu
    obtain ⟨x, hx, rfl⟩ := hu.stage (· = .done o) nofun r p ⟨_, hk, rfl⟩
    exact State.atOnce_of_done hx
  induction hj with
  | succeed => exact fun _ _ => .succeed
  | fail => exact fun _ _ => .fail
  | inspect => exact fun _ _ => .inspect
  | byte hb => exact fun _ _ => State.takeByte_matches hb
  | run hb => exact fun _ _ => State.takeRun_matches hb
  | literal hb => exact fun _ _ => State.takeLiteral_matches hb
  | apply _ hb ih =>
    intro u hu
    obtain ⟨hpos, hm⟩ := ih
    subst hb
    exact .apply (hpos ▸ hm u hu)
  | andThen _ he₂ ih₁ ih₂ => exact fun u hu => .andThen (ih₁ u (hu.trans he₂.echoes)) (ih₂ u hu)
  | orElse_next _ he₂ ih₁ ih₂ =>
    exact fun u hu => .orElse_next (ih₁ u (hu.trans he₂.echoes)) (ih₂ u hu)
  | loop_next _ hpos hl ih₁ ih₂ =>
    exact fun u hu => .many_next (ih₁ u (hu.trans hl.echoes)) hpos (ih₂ u hu)
  | andThen_miss _ ih => exact fun u hu => .andThen_miss (ih u hu)
  | orElse _ ih => exact fun u hu => .orElse (ih u hu)
  | attempt _ ih => exact fun u hu => .attempt (ih u hu)
  | many _ ih => exact ih
  | attempt_miss _ ih => exact fun u hu => .attempt_miss (ih u (hu.of_moved rfl rfl))
  | notAhead_miss _ ih => exact fun u hu => .notAhead_miss (ih u (hu.of_moved rfl rfl))
  | ahead _ ih => exact fun u hu => .ahead (ih u (hu.of_moved rfl rfl))
  | capture _ ih => exact fun u hu => .capture (ih u (hu.of_moved rfl rfl))
  | capture_miss _ ih => exact fun u hu => .capture_miss (ih u (hu.of_moved rfl rfl))
  | check_miss _ ih => exact fun u hu => .check_miss (ih u (hu.of_moved rfl rfl))
  | loop_miss _ ih => exact fun u hu => .many_miss (ih u (hu.of_moved rfl rfl))
  | notAhead _ ih =>
    intro u hu
    rw [State.pos_miss]
    exact .notAhead (ih u (hu.of_moved (State.memo_miss _) (State.active_miss _)))
  | check _ ha ih =>
    intro u hu
    obtain ⟨hanswer, hpos⟩ := askPolicy_answer ha
    rw [hpos]
    exact .check (ih u (hu.of_moved (memo_askPolicy ha) (active_askPolicy ha))) hanswer
  | @check_refused e policy s t v h _ ha ih =>
    intro u hu
    have hv : u.Echoes cfg v := hu.of_moved rfl rfl
    exact .check_refused (ih u (hv.of_moved (memo_askPolicy ha) (active_askPolicy ha)))
      (askPolicy_answer ha).1
  | @loop_still e s t _ _ hpos ih =>
    intro u hu
    rw [hpos]
    exact .many_still (hpos ▸ ih u hu)
  | body | body_miss | grow_stop => rfl
  | grow _ _ _ _ ih => exact ih
  | recalled he =>
    exact ⟨rfl, fun u => remembered (by rw [State.progress?_reuse]; exact State.progress?_of_get? he)⟩
  | reentered he =>
    refine ⟨rfl, fun u hu => ?_⟩
    obtain ⟨_, hx, again, rfl⟩ := (hu.trans (Derives.reentered he).echoes).stage
      (fun x => ∃ again, x = .inProgress again) (fun _ _ => ⟨true, rfl⟩) _ _
      ⟨_, State.progress?_of_get? he, _, rfl⟩
    exact State.atOnce_of_inProgress hx
  | refused hn hd =>
    refine ⟨rfl, fun u hu => ?_⟩
    have hu' := hu.trans (Derives.refused hn hd).echoes
    exact State.atOnce_of_refused (hu'.absent hd _ _ (State.progress?_eq_none.mpr hn))
      (by rwa [State.depth, hu'.active])
  | settled _ _ _ _ ih => exact ⟨ih, fun u => remembered (by simp [State.progress?_settle])⟩
  | grown _ _ _ _ hg _ ih =>
    exact ⟨ih, fun u => remembered
      (hg.replays (K := fun _ => True) (by simp [State.progress?_settle]))⟩

variable {e : Expr R} {s s' t t' u : State R} {b b' : Bool} {h h' : List (Moment R)}

/-- **An evaluation that is made again comes to the same**, wherever what happened in between took
nothing back. -/
theorem Derives.again (hd : Derives cfg (.expr e s b t) h) (hd' : Derives cfg (.expr e s' b' t') h')
    (hpos : s'.pos = s.pos) (hs : s'.Echoes cfg t) : b' = b ∧ t'.pos = t.pos := by
  have hfirst := hd.echoed t' (State.Echoes.trans hd'.echoes hs)
  have hsecond := hd'.echoed t' (.refl t')
  rw [hpos] at hsecond
  exact hfirst.unique (fun _ _ _ _ _ _ => State.AtOnce.unique) hsecond

/-- The last evaluation of the body of a repetition fails or does not move. -/
theorem Derives.exists_last (hl : Derives cfg (.loop e s t) h) :
    ∃ s' b u h', Derives cfg (.expr e s' b u) h' ∧ t.Echoes cfg u ∧ t.pos = s'.pos ∧
      (b = true → u.pos = s'.pos) := by
  generalize hj : Judgement.loop e s t = j at hl
  induction hl generalizing s with
  | loop_miss he =>
    cases hj
    exact ⟨_, _, _, _, he, (State.Echoes.refl _).of_memo rfl rfl, rfl, nofun⟩
  | loop_still he hpos =>
    cases hj
    exact ⟨_, _, _, _, he, .refl _, hpos, fun _ => hpos⟩
  | loop_next _ _ _ _ ih =>
    cases hj
    exact ih rfl
  | _ => cases hj

/-- **Behind a repetition its body does not move**, though it may match. -/
theorem Derives.pos_eq_of_loop (hl : Derives cfg (.loop e s t) h)
    (he : Derives cfg (.expr e t true u) h') : u.pos = t.pos := by
  obtain ⟨s', b, v, h'', hlast, hechoes, hpos, hstill⟩ := hl.exists_last
  obtain ⟨hb, hu⟩ := hlast.again he hpos hechoes
  rw [hu, hstill hb.symm, hpos]

end AddressGrammar.Peg
