import AddressGrammar.Proofs.Peg.Persistence

/-!
# Runs in step with each other

An evaluation depends on the reading position, on the room for rule bodies and on what is remembered
about the rules that it can come to. It does not depend on the farthest failure, on the reports, on
the counts of requests, or on what is remembered about any other rule. So two grammars that agree on
a set of rules, closed under application, take the same steps on expressions over that set, whatever
else they contain; and more room changes nothing as long as the bound is not hit.

## Main definitions

* `Expr.applied`, `Expr.Within` — the rules that an expression applies, and a set that holds them
* `Setting.Shares` — two settings agree on a closed set of rules
* `State.Alike` — two states agree on everything that such rules depend on

## Main results

* `Derives.mirrors` — alike states lead to the same answers and to alike states
* `Derives.with_room` — more room for rule bodies changes nothing
* `Derives.untouched` — what is remembered about other rules stays as it is
-/

namespace AddressGrammar.Peg

open Text

variable {R : Type}

/-! ### Closed sets of rules -/

namespace Expr

/-- The rules that an expression applies. -/
def applied : Expr R → List R
  | succeed => []
  | fail => []
  | byte _ => []
  | run _ => []
  | literal _ => []
  | apply r => [r]
  | andThen e₁ e₂ => e₁.applied ++ e₂.applied
  | orElse e₁ e₂ => e₁.applied ++ e₂.applied
  | attempt e => e.applied
  | many e => e.applied
  | notAhead e => e.applied
  | ahead e => e.applied
  | capture e => e.applied
  | check e _ => e.applied
  | inspect _ _ => []

/-- An expression applies rules of the set only. -/
def Within (K : R → Prop) (e : Expr R) : Prop := ∀ r ∈ e.applied, K r

theorem within_andThen {K : R → Prop} {e₁ e₂ : Expr R} :
    (andThen e₁ e₂).Within K ↔ e₁.Within K ∧ e₂.Within K := List.forall_mem_append

theorem within_orElse {K : R → Prop} {e₁ e₂ : Expr R} :
    (orElse e₁ e₂).Within K ↔ e₁.Within K ∧ e₂.Within K := List.forall_mem_append

theorem within_apply {K : R → Prop} {r : R} : (apply r).Within K ↔ K r := List.forall_mem_singleton

end Expr

/-- The rules of a set apply rules of the set only. -/
def Setting.Closed (K : R → Prop) (cfg : Setting R) : Prop :=
  ∀ r, K r → (cfg.grammar.body r).Within K

/-- Two settings read the same input and agree on the rules of a closed set. -/
structure Setting.Shares (K : R → Prop) (cfg cfg' : Setting R) : Prop where
  closed : cfg.Closed K
  input : cfg'.input = cfg.input
  body : ∀ r, K r → cfg'.grammar.body r = cfg.grammar.body r

variable {K : R → Prop} {cfg cfg' : Setting R} {spare : Nat}

theorem Setting.Shares.closed_right (h : cfg.Shares K cfg') : cfg'.Closed K := by
  intro r hr
  rw [h.body r hr]
  exact h.closed r hr

/-- What holds of an evaluation as a whole holds of its first part. -/
theorem State.Since.or_not_exhausted {s t : State R} (h : t.Since s)
    (ht : spare = 0 ∨ t.exhausted = false) : spare = 0 ∨ s.exhausted = false :=
  ht.imp_right h.not_exhausted

variable [DecidableEq R]

/-- Two states agree on all that the rules of a set depend on. There is `spare` more room for rule
bodies in the second one. -/
structure State.Alike (K : R → Prop) (cfg cfg' : Setting R) (spare : Nat) (s s' : State R) :
    Prop where
  pos : s'.pos = s.pos
  exhausted : s'.exhausted = s.exhausted
  room : s.depth + cfg'.maxDepth = s'.depth + cfg.maxDepth + spare
  progress : ∀ r p, K r → s'.progress? r p = s.progress? r p

namespace State

theorem exists_get?_of_progress? {s : State R} {r : R} {p : Nat} {progress : Progress}
    (h : s.progress? r p = some progress) : ∃ k, s.memo.get? r p = some ⟨progress, k⟩ := by
  obtain ⟨⟨progress, k⟩, he, rfl⟩ := Option.map_eq_some_iff.mp h
  exact ⟨k, he⟩

namespace Alike

variable {s s' t t' : State R} {r : R} {o : Outcome}

theorem refl (s : State R) : s.Alike K cfg cfg 0 s := ⟨rfl, rfl, rfl, fun _ _ _ => rfl⟩

theorem moveTo (h : s.Alike K cfg cfg' spare s') (p : Nat) :
    (s.moveTo p).Alike K cfg cfg' spare (s'.moveTo p) := ⟨rfl, h.exhausted, h.room, h.progress⟩

theorem miss (h : s.Alike K cfg cfg' spare s') : s.miss.Alike K cfg cfg' spare s'.miss :=
  ⟨by rw [pos_miss, pos_miss, h.pos], by rw [exhausted_miss, exhausted_miss, h.exhausted],
    by rw [depth_miss, depth_miss, h.room],
    fun r p hr => by rw [progress?_miss, progress?_miss, h.progress r p hr]⟩

theorem report (h : s.Alike K cfg cfg' spare s') (e e' : Event R) :
    (s.report e).Alike K cfg cfg' spare (s'.report e') := ⟨h.pos, h.exhausted, h.room, h.progress⟩

theorem record (h : s.Alike K cfg cfg' spare s') (q q' : R) (i i' : Nat) :
    (s.record q i).Alike K cfg cfg' spare (s'.record q' i') :=
  ⟨h.pos, h.exhausted, h.room, h.progress⟩

theorem enter (h : s.Alike K cfg cfg' spare s') (q q' : R) :
    (s.enter q).Alike K cfg cfg' spare (s'.enter q') where
  pos := h.pos
  exhausted := h.exhausted
  room := by
    have := h.room
    simp only [State.enter, depth, OpenRules.depth_push] at this ⊢
    omega
  progress := h.progress

theorem leaveTo (ht : t.Alike K cfg cfg' spare t') (hs : s.Alike K cfg cfg' spare s') :
    (t.leaveTo s).Alike K cfg cfg' spare (t'.leaveTo s') :=
  ⟨ht.pos, ht.exhausted, hs.room, ht.progress⟩

theorem begin (h : s.Alike K cfg cfg' spare s') (r : R) :
    (s.begin r).Alike K cfg cfg' spare (s'.begin r) where
  pos := h.pos
  exhausted := h.exhausted
  room := h.room
  progress := fun q p hq => by rw [progress?_begin, progress?_begin, h.pos, h.progress q p hq]

theorem settle (h : s.Alike K cfg cfg' spare s') (r : R) (p : Nat) (o : Outcome) :
    (s.settle r p o).Alike K cfg cfg' spare (s'.settle r p o) where
  pos := h.pos
  exhausted := h.exhausted
  room := h.room
  progress := fun q i hq => by rw [progress?_settle, progress?_settle, h.progress q i hq]

theorem reuse (h : s.Alike K cfg cfg' spare s') (r : R) (o : Outcome) :
    (s.reuse r o).Alike K cfg cfg' spare (s'.reuse r o) where
  pos := rfl
  exhausted := h.exhausted
  room := h.room
  progress := fun q i hq => by rw [progress?_reuse, progress?_reuse, h.progress q i hq]

theorem reenter (h : s.Alike K cfg cfg' spare s') (hr : K r) {again : Bool}
    (hk : s.progress? r s.pos = some (.inProgress again)) :
    (s.reenter r).Alike K cfg cfg' spare (s'.reenter r) where
  pos := h.pos
  exhausted := h.exhausted
  room := h.room
  progress := fun q i hq => by
    have hk' : s'.progress? r s'.pos = some (.inProgress again) := by
      rw [h.pos, h.progress r _ hr, hk]
    rw [progress?_reenter hk, progress?_reenter hk', h.pos, h.progress q i hq]

theorem refuse (h : s.Alike K cfg cfg' spare s') (r : R) :
    (s.refuse r).Alike K cfg cfg' spare (s'.refuse r) := ⟨h.pos, rfl, h.room, h.progress⟩

/-- On one side, what the rules of the set do not depend on may change. -/
theorem left (h : s.Alike K cfg cfg' spare s') (ht : s.Alike K cfg cfg 0 t) :
    t.Alike K cfg cfg' spare s' where
  pos := h.pos.trans ht.pos.symm
  exhausted := h.exhausted.trans ht.exhausted.symm
  room := by
    have h₁ := h.room
    have h₂ := ht.room
    omega
  progress := fun r p hr => (h.progress r p hr).trans (ht.progress r p hr).symm

/-- The rules of the set are found in the same way at the reading positions. -/
theorem progress?_pos (h : s.Alike K cfg cfg' spare s') (hr : K r) :
    s'.progress? r s'.pos = s.progress? r s.pos := by
  rw [h.pos, h.progress r _ hr]

theorem get?_eq_none (h : s.Alike K cfg cfg' spare s') (hr : K r)
    (hn : s.memo.get? r s.pos = none) : s'.memo.get? r s'.pos = none := by
  rw [← progress?_eq_none, h.progress?_pos hr]
  exact progress?_eq_none.mpr hn

/-- Where there is room for one more body, there is room in the second state as well. -/
theorem depth_lt (h : s.Alike K cfg cfg' spare s') (hd : s.depth < cfg.maxDepth) :
    s'.depth < cfg'.maxDepth := by
  have := h.room
  omega

theorem isReentered_eq (h : s.Alike K cfg cfg' spare s') (hr : K r) (p : Nat) :
    s'.memo.isReentered r p = s.memo.isReentered r p := by
  rw [Bool.eq_iff_iff, isReentered_iff, isReentered_iff, h.progress r p hr]

theorem moveIf (h : s.Alike K cfg cfg' spare s') {test : Bool} {stop : Nat} {b : Bool}
    (ht : s.moveIf test stop = (b, t)) :
    ∃ t', s'.moveIf test stop = (b, t') ∧ t.Alike K cfg cfg' spare t' := by
  cases test <;> cases ht
  · exact ⟨_, rfl, h.miss⟩
  · exact ⟨_, rfl, h.moveTo _⟩

theorem takeByte (h : s.Alike K cfg cfg' spare s') {input : String} {c : ByteClass} {b : Bool}
    (ht : s.takeByte input c = (b, t)) :
    ∃ t', s'.takeByte input c = (b, t') ∧ t.Alike K cfg cfg' spare t' := by
  rw [takeByte_eq, h.pos]
  exact h.moveIf ht

theorem takeRun (h : s.Alike K cfg cfg' spare s') {input : String} {c : ByteClass} {b : Bool}
    (ht : s.takeRun input c = (b, t)) :
    ∃ t', s'.takeRun input c = (b, t') ∧ t.Alike K cfg cfg' spare t' := by
  rw [takeRun_eq, h.pos]
  exact h.moveIf ht

theorem takeLiteral (h : s.Alike K cfg cfg' spare s') {input : String} {bytes : List UInt8}
    {b : Bool} (ht : s.takeLiteral input bytes = (b, t)) :
    ∃ t', s'.takeLiteral input bytes = (b, t') ∧ t.Alike K cfg cfg' spare t' := by
  rw [takeLiteral_eq, h.pos]
  exact h.moveIf ht

theorem askPolicy (h : s.Alike K cfg cfg' spare s') {input : String} {policy : Policy} {span : Span}
    {b : Bool} (ht : askPolicy input policy span s = (b, t)) :
    ∃ t', Peg.askPolicy input policy span s' = (b, t') ∧ t.Alike K cfg cfg' spare t' := by
  unfold Peg.askPolicy at ht ⊢
  split at ht
  · dsimp only at ht ⊢
    split at ht <;> cases ht
    · next ha => exact ⟨_, if_pos ha, h.report _ _⟩
    · next ha => exact ⟨_, if_neg ha, (h.report _ _).miss⟩
  · cases ht
    exact ⟨_, rfl, h.miss⟩

end Alike

end State

/-! ### Alike states lead to alike states -/

/-- An evaluation over the set of rules that does not hit the bound, or has no less room at hand,
goes the same way from every state that is alike. -/
def Judgement.Mirrors (K : R → Prop) (cfg cfg' : Setting R) (spare : Nat) : Judgement R → Prop
  | .expr e s b t => e.Within K → spare = 0 ∨ t.exhausted = false →
      ∀ s', s.Alike K cfg cfg' spare s' →
        ∃ t' h', Derives cfg' (.expr e s' b t') h' ∧ t.Alike K cfg cfg' spare t'
  | .loop e s t => e.Within K → spare = 0 ∨ t.exhausted = false →
      ∀ s', s.Alike K cfg cfg' spare s' →
        ∃ t' h', Derives cfg' (.loop e s' t') h' ∧ t.Alike K cfg cfg' spare t'
  | .body r s o t => K r → spare = 0 ∨ t.exhausted = false →
      ∀ s', s.Alike K cfg cfg' spare s' →
        ∃ t' h', Derives cfg' (.body r s' o t') h' ∧ t.Alike K cfg cfg' spare t'
  | .growth r start best s o t => K r → spare = 0 ∨ t.exhausted = false →
      ∀ s', s.Alike K cfg cfg' spare s' →
        ∃ t' h', Derives cfg' (.growth r start best s' o t') h' ∧ t.Alike K cfg cfg' spare t'
  | .rule r s o t => K r → spare = 0 ∨ t.exhausted = false →
      ∀ s', s.Alike K cfg cfg' spare s' →
        ∃ t' h', Derives cfg' (.rule r s' o t') h' ∧ t.Alike K cfg cfg' spare t'

/-- **Alike states lead to the same answers and to alike states.** -/
theorem Derives.mirrors (hshare : cfg.Shares K cfg') {j : Judgement R} {h : List (Moment R)}
    (hj : Derives cfg j h) : j.Mirrors K cfg cfg' spare := by
  induction hj with
  | succeed => exact fun _ _ s' hs => ⟨s', _, .succeed, hs⟩
  | fail => exact fun _ _ s' hs => ⟨s', _, .fail, hs⟩
  | inspect => exact fun _ _ s' hs => ⟨_, _, .inspect, hs.report _ _⟩
  | byte hb =>
    intro _ _ s' hs
    obtain ⟨t', ht', ha⟩ := hs.takeByte hb
    exact ⟨t', _, .byte (hshare.input ▸ ht'), ha⟩
  | run hb =>
    intro _ _ s' hs
    obtain ⟨t', ht', ha⟩ := hs.takeRun hb
    exact ⟨t', _, .run (hshare.input ▸ ht'), ha⟩
  | literal hb =>
    intro _ _ s' hs
    obtain ⟨t', ht', ha⟩ := hs.takeLiteral hb
    exact ⟨t', _, .literal (hshare.input ▸ ht'), ha⟩
  | apply _ hb ih =>
    intro hk hx s' hs
    obtain ⟨t', h', hd, ha⟩ := ih (Expr.within_apply.mp hk) hx s' hs
    exact ⟨t', h', .apply hd hb, ha⟩
  | andThen _ he₂ ih₁ ih₂ =>
    intro hk hx s' hs
    obtain ⟨hk₁, hk₂⟩ := Expr.within_andThen.mp hk
    obtain ⟨t', h₁', hd₁, ha⟩ := ih₁ hk₁ (he₂.since.or_not_exhausted hx) s' hs
    obtain ⟨u', h₂', hd₂, hau⟩ := ih₂ hk₂ hx t' ha
    exact ⟨u', _, .andThen hd₁ hd₂, hau⟩
  | andThen_miss _ ih =>
    intro hk hx s' hs
    obtain ⟨t', h', hd, ha⟩ := ih (Expr.within_andThen.mp hk).1 hx s' hs
    exact ⟨t', h', .andThen_miss hd, ha⟩
  | orElse _ ih =>
    intro hk hx s' hs
    obtain ⟨t', h', hd, ha⟩ := ih (Expr.within_orElse.mp hk).1 hx s' hs
    exact ⟨t', h', .orElse hd, ha⟩
  | orElse_next _ he₂ ih₁ ih₂ =>
    intro hk hx s' hs
    obtain ⟨hk₁, hk₂⟩ := Expr.within_orElse.mp hk
    obtain ⟨t', h₁', hd₁, ha⟩ := ih₁ hk₁ (he₂.since.or_not_exhausted hx) s' hs
    obtain ⟨u', h₂', hd₂, hau⟩ := ih₂ hk₂ hx t' ha
    exact ⟨u', _, .orElse_next hd₁ hd₂, hau⟩
  | attempt _ ih =>
    intro hk hx s' hs
    obtain ⟨t', h', hd, ha⟩ := ih hk hx s' hs
    exact ⟨t', h', .attempt hd, ha⟩
  | attempt_miss _ ih =>
    intro hk hx s' hs
    obtain ⟨t', h', hd, ha⟩ := ih hk hx s' hs
    exact ⟨_, h', .attempt_miss hd, hs.pos ▸ ha.moveTo _⟩
  | many _ ih =>
    intro hk hx s' hs
    obtain ⟨t', h', hd, ha⟩ := ih hk hx s' hs
    exact ⟨t', h', .many hd, ha⟩
  | notAhead _ ih =>
    intro hk hx s' hs
    rw [State.exhausted_miss] at hx
    obtain ⟨t', h', hd, ha⟩ := ih hk hx s' hs
    exact ⟨_, h', .notAhead hd, hs.pos ▸ (ha.moveTo _).miss⟩
  | notAhead_miss _ ih =>
    intro hk hx s' hs
    obtain ⟨t', h', hd, ha⟩ := ih hk hx s' hs
    exact ⟨_, h', .notAhead_miss hd, hs.pos ▸ ha.moveTo _⟩
  | ahead _ ih =>
    intro hk hx s' hs
    obtain ⟨t', h', hd, ha⟩ := ih hk hx s' hs
    exact ⟨_, h', .ahead hd, hs.pos ▸ ha.moveTo _⟩
  | capture _ ih =>
    intro hk hx s' hs
    obtain ⟨t', h', hd, ha⟩ := ih hk hx s' hs
    exact ⟨_, h', .capture hd, ha.report _ _⟩
  | capture_miss _ ih =>
    intro hk hx s' hs
    obtain ⟨t', h', hd, ha⟩ := ih hk hx s' hs
    exact ⟨_, h', .capture_miss hd, hs.pos ▸ ha.moveTo _⟩
  | check _ hp ih =>
    intro hk hx s' hs
    obtain ⟨t', h', hd, ha⟩ := ih hk ((since_askPolicy hp).or_not_exhausted hx) s' hs
    obtain ⟨u', hp', hau⟩ := ha.askPolicy hp
    rw [← hs.pos, ← ha.pos, ← hshare.input] at hp'
    exact ⟨u', h', .check hd hp', hau⟩
  | check_refused _ hp ih =>
    intro hk hx s' hs
    obtain ⟨t', h', hd, ha⟩ := ih hk ((since_askPolicy hp).or_not_exhausted hx) s' hs
    obtain ⟨u', hp', hau⟩ := ha.askPolicy hp
    rw [← hs.pos, ← ha.pos, ← hshare.input] at hp'
    exact ⟨_, h', .check_refused hd hp', hs.pos ▸ hau.moveTo _⟩
  | check_miss _ ih =>
    intro hk hx s' hs
    obtain ⟨t', h', hd, ha⟩ := ih hk hx s' hs
    exact ⟨_, h', .check_miss hd, hs.pos ▸ ha.moveTo _⟩
  | loop_miss _ ih =>
    intro hk hx s' hs
    obtain ⟨t', h', hd, ha⟩ := ih hk hx s' hs
    exact ⟨_, h', .loop_miss hd, hs.pos ▸ ha.moveTo _⟩
  | loop_still _ hpos ih =>
    intro hk hx s' hs
    obtain ⟨t', h', hd, ha⟩ := ih hk hx s' hs
    exact ⟨t', h', .loop_still hd (by rw [ha.pos, hs.pos, hpos]), ha⟩
  | loop_next _ hpos hl ih₁ ih₂ =>
    intro hk hx s' hs
    obtain ⟨t', h₁', hd₁, ha⟩ := ih₁ hk (hl.since.or_not_exhausted hx) s' hs
    obtain ⟨u', h₂', hd₂, hau⟩ := ih₂ hk hx t' ha
    exact ⟨u', _, .loop_next hd₁ (by rwa [ha.pos, hs.pos]) hd₂, hau⟩
  | @body r s t h _ ih =>
    intro hk hx s' hs
    obtain ⟨t', h', hd, ha⟩ := ih (hshare.closed r hk) hx _ (hs.enter r r)
    rw [← hshare.body r hk] at hd
    have hb := Derives.body (s := s') hd
    rw [hs.pos, ha.pos] at hb
    exact ⟨_, _, hb, ha.leaveTo hs⟩
  | @body_miss r s t h _ ih =>
    intro hk hx s' hs
    obtain ⟨t', h', hd, ha⟩ := ih (hshare.closed r hk) hx _ (hs.enter r r)
    rw [← hshare.body r hk] at hd
    have hb := Derives.body_miss (s := s') hd
    rw [hs.pos] at hb
    exact ⟨_, _, hb, ((ha.leaveTo hs).moveTo s.pos).record r r s.pos s.pos⟩
  | grow _ hlt hg ih₁ ih₂ =>
    intro hk hx s' hs
    have hsince := hg.since
    obtain ⟨t', h₁', hd₁, ha⟩ := ih₁ hk (hsince.or_not_exhausted hx) _ (hs.moveTo _)
    obtain ⟨u', h₂', hd₂, hau⟩ := ih₂ hk hx _ (ha.settle _ _ _)
    exact ⟨u', _, .grow hd₁ hlt hd₂, hau⟩
  | grow_stop _ hle ih =>
    intro hk hx s' hs
    obtain ⟨t', h', hd, ha⟩ := ih hk hx _ (hs.moveTo _)
    exact ⟨_, h', .grow_stop hd hle, ha.moveTo _⟩
  | @recalled r s o k he =>
    intro hk _ s' hs
    have hp := State.progress?_of_get? he
    obtain ⟨k', he'⟩ := State.exists_get?_of_progress? ((hs.progress?_pos hk).trans hp)
    exact ⟨_, _, .recalled he', hs.reuse r o⟩
  | @reentered r s again k he =>
    intro hk _ s' hs
    have hp := State.progress?_of_get? he
    obtain ⟨k', he'⟩ := State.exists_get?_of_progress? ((hs.progress?_pos hk).trans hp)
    have hd : Derives cfg' _ _ := .reentered he'
    rw [hs.pos] at hd
    exact ⟨_, _, hd, hs.reenter hk hp⟩
  | @refused r s hn hd =>
    intro hk hx s' hs
    have hspare : spare = 0 := hx.resolve_right fun h => by cases h
    have hd' : cfg'.maxDepth ≤ s'.depth := by
      have := hs.room
      omega
    have hr := Derives.refused (hs.get?_eq_none hk hn) hd'
    rw [hs.pos] at hr
    exact ⟨_, _, hr, hs.refuse r⟩
  | @settled r s o t h hn hd hb hg ih =>
    intro hk hx s' hs
    obtain ⟨t', h', hd₁, ha⟩ := ih hk hx _ (hs.begin r)
    rw [← ha.isReentered_eq hk, ← hs.pos] at hg
    refine ⟨_, _, .settled (hs.get?_eq_none hk hn) (hs.depth_lt hd) hd₁ hg, ?_⟩
    rw [hs.pos]
    exact ha.settle r s.pos o
  | @grown r s seed t o u h₁ h₂ hn hd hb hseed hg ih₁ ih₂ =>
    intro hk hx s' hs
    have hsince := hg.since
    obtain ⟨t', h₁', hd₁, ha⟩ := ih₁ hk (hsince.or_not_exhausted hx) _ (hs.begin r)
    obtain ⟨u', h₂', hd₂, hau⟩ := ih₂ hk hx _ (ha.settle r s.pos seed)
    rw [← ha.isReentered_eq hk, ← hs.pos] at hseed
    rw [← hs.pos] at hd₂
    exact ⟨u', _, .grown (hs.get?_eq_none hk hn) (hs.depth_lt hd) hd₁ hseed hd₂, hau⟩

/-- **More room changes nothing** about an application that does not hit the bound on nesting. -/
theorem Derives.with_room {g : Grammar R} {input : String} {d room : Nat} {r : R} {s t : State R}
    {o : Outcome} {h : List (Moment R)} (hd : Derives ⟨g, input, d⟩ (.rule r s o t) h)
    (hex : t.exhausted = false) (hroom : d ≤ room) :
    ∃ t' h', Derives ⟨g, input, room⟩ (.rule r s o t') h' := by
  have hshare : Setting.Shares (fun _ => True) ⟨g, input, d⟩ ⟨g, input, room⟩ :=
    ⟨fun _ _ _ _ => trivial, rfl, fun _ _ => rfl⟩
  have ha : s.Alike (fun _ => True) ⟨g, input, d⟩ ⟨g, input, room⟩ (room - d) s := by
    refine ⟨rfl, rfl, ?_, fun _ _ _ => rfl⟩
    change s.depth + room = s.depth + d + (room - d)
    omega
  obtain ⟨t', h', hd', -⟩ := hd.mirrors hshare trivial (.inr hex) s ha
  exact ⟨t', h', hd'⟩

/-! ### Other rules are left alone -/

/-- What is remembered about a rule outside the set stays as it is. -/
def Judgement.Untouched (K : R → Prop) (x : R) : Judgement R → Prop
  | .expr e s _ t => e.Within K → ∀ p, t.progress? x p = s.progress? x p
  | .loop e s t => e.Within K → ∀ p, t.progress? x p = s.progress? x p
  | .body r s _ t => K r → ∀ p, t.progress? x p = s.progress? x p
  | .growth r _ _ s _ t => K r → ∀ p, t.progress? x p = s.progress? x p
  | .rule r s _ t => K r → ∀ p, t.progress? x p = s.progress? x p

/-- **Rules outside the set are left alone.** -/
theorem Derives.untouched (hclosed : cfg.Closed K) {x : R} (hx : ¬K x) {j : Judgement R}
    {h : List (Moment R)} (hj : Derives cfg j h) : j.Untouched K x := by
  have hne : ∀ {r : R}, K r → r ≠ x := fun hr heq => hx (heq ▸ hr)
  induction hj with
  | succeed | fail | inspect => exact fun _ _ => rfl
  | byte hb => exact fun _ => State.progress?_of_memo_eq (State.reads_takeByte hb).memo x
  | run hb => exact fun _ => State.progress?_of_memo_eq (State.reads_takeRun hb).memo x
  | literal hb => exact fun _ => State.progress?_of_memo_eq (State.reads_takeLiteral hb).memo x
  | apply _ _ ih => exact fun hk => ih (Expr.within_apply.mp hk)
  | andThen _ _ ih₁ ih₂ =>
    intro hk p
    obtain ⟨hk₁, hk₂⟩ := Expr.within_andThen.mp hk
    exact (ih₂ hk₂ p).trans (ih₁ hk₁ p)
  | orElse_next _ _ ih₁ ih₂ =>
    intro hk p
    obtain ⟨hk₁, hk₂⟩ := Expr.within_orElse.mp hk
    exact (ih₂ hk₂ p).trans (ih₁ hk₁ p)
  | andThen_miss _ ih => exact fun hk => ih (Expr.within_andThen.mp hk).1
  | orElse _ ih => exact fun hk => ih (Expr.within_orElse.mp hk).1
  | attempt _ ih | attempt_miss _ ih | many _ ih | notAhead_miss _ ih | ahead _ ih | capture _ ih
  | capture_miss _ ih | check_miss _ ih | loop_miss _ ih | loop_still _ _ ih => exact ih
  | notAhead _ ih =>
    intro hk p
    rw [State.progress?_miss]
    exact ih hk p
  | check _ hp ih | check_refused _ hp ih =>
    exact fun hk p => (State.progress?_of_memo_eq (memo_askPolicy hp) x p).trans (ih hk p)
  | loop_next _ _ _ ih₁ ih₂ => exact fun hk p => (ih₂ hk p).trans (ih₁ hk p)
  | body _ ih | body_miss _ ih => exact fun hk => ih (hclosed _ hk)
  | grow _ _ _ ih₁ ih₂ =>
    intro hk p
    rw [ih₂ hk p, State.progress?_settle_of_ne (hne hk)]
    exact ih₁ hk p
  | grow_stop _ _ ih => exact ih
  | recalled => exact fun _ p => State.progress?_reuse _ _ _ x p
  | reentered he =>
    intro hk p
    exact State.progress?_reenter_of_ne (hne hk) (State.progress?_of_get? he) p
  | refused => exact fun _ p => State.progress?_refuse _ _ x p
  | settled _ _ _ _ ih =>
    intro hk p
    rw [State.progress?_settle_of_ne (hne hk), ih hk p, State.progress?_begin_of_ne (hne hk)]
  | grown _ _ _ _ _ ih₁ ih₂ =>
    intro hk p
    rw [ih₂ hk p, State.progress?_settle_of_ne (hne hk), ih₁ hk p,
      State.progress?_begin_of_ne (hne hk)]

end AddressGrammar.Peg
