import AddressGrammar.Proofs.Peg.Faithfulness
import AddressGrammar.Proofs.Peg.Nesting

/-!
# Grammars without left recursion

A rule asks for itself at the position where it is being evaluated only if its body can get there
without moving ahead. Which rules a body can apply before it moves is read off the body, given which
rules can match the empty text. If these left calls descend along some ranking of the rules, no run
of the grammar ever finds a rule in progress: the rules that are open at the reading position all
rank higher than the rules that can be asked for there.

## Main definitions

* `Expr.nullable`, `Expr.leftCalls` — whether an expression can match without moving, and the rules
  that it can apply before it moves
* `Grammar.Ranking` — a ranking along which left calls descend

## Main results

* `Derives.descends` — no rule of a ranked grammar is found in progress
* `Run.History.not_reenters` — nor in any run
* `Grammar.Ranking.exists_matches` — so every expression has a plain answer
-/

namespace AddressGrammar.Peg

open Text

variable {R : Type}

/-! ### Left calls -/

namespace Expr

/-- Whether an expression can match the empty text, given which rules can. Conditions are taken to
hold. -/
def nullable (null : R → Bool) : Expr R → Bool
  | succeed => true
  | fail => false
  | byte _ => false
  | run _ => false
  | literal bytes => bytes.isEmpty
  | apply r => null r
  | andThen e₁ e₂ => e₁.nullable null && e₂.nullable null
  | orElse e₁ e₂ => e₁.nullable null || e₂.nullable null
  | attempt e => e.nullable null
  | many _ => true
  | notAhead _ => true
  | ahead _ => true
  | capture e => e.nullable null
  | check e _ => e.nullable null
  | inspect _ _ => true

/-- The rules that an expression can apply at the position where it begins. -/
def leftCalls (null : R → Bool) : Expr R → List R
  | succeed => []
  | fail => []
  | byte _ => []
  | run _ => []
  | literal _ => []
  | apply r => [r]
  | andThen e₁ e₂ => e₁.leftCalls null ++ if e₁.nullable null then e₂.leftCalls null else []
  | orElse e₁ e₂ => e₁.leftCalls null ++ e₂.leftCalls null
  | attempt e => e.leftCalls null
  | many e => e.leftCalls null
  | notAhead e => e.leftCalls null
  | ahead e => e.leftCalls null
  | capture e => e.leftCalls null
  | check e _ => e.leftCalls null
  | inspect _ _ => []

end Expr

/-- A ranking of the rules of a grammar along which left calls descend. -/
structure Grammar.Ranking (g : Grammar R) where
  /-- The rules that may match the empty text. -/
  null : R → Bool
  /-- The rank of a rule. -/
  rank : R → Nat
  /-- No other rule matches the empty text. -/
  null_of_nullable : ∀ r, (g.body r).nullable null = true → null r = true
  /-- A left call goes to a rule of lower rank. -/
  rank_lt : ∀ r, ∀ q ∈ (g.body r).leftCalls null, rank q < rank r

/-! ### Primitives that move -/

namespace State

/-- A byte that was read is behind the reading position. -/
theorem lt_of_takeByte {s t : State R} {input : String} {c : ByteClass}
    (h : s.takeByte input c = (true, t)) : s.pos < t.pos := by
  unfold takeByte at h
  split at h <;> cases h
  exact Nat.lt_succ_self s.pos

theorem lt_of_takeRun {s t : State R} {input : String} {c : ByteClass}
    (h : s.takeRun input c = (true, t)) : s.pos < t.pos := by
  unfold takeRun at h
  split at h <;> cases h
  exact le_skipAtMost input c _ (s.pos + 1)

theorem pos_takeLiteral {s t : State R} {input : String} {bytes : List UInt8}
    (h : s.takeLiteral input bytes = (true, t)) : t.pos = s.pos + bytes.length := by
  unfold takeLiteral at h
  split at h <;> cases h
  rfl

end State

/-! ### Asking for rules of lower rank -/

namespace Grammar.Ranking

variable {g : Grammar R} (k : g.Ranking)

/-- A rule matched the empty text only if it may. -/
def Respects (r : R) (p : Nat) (o : Outcome) : Prop :=
  o.matched = true → o.stop = p → k.null r = true

/-- The rules open at the reading position rank higher than the given ones. -/
def Above (s : State R) (calls : List R) : Prop :=
  ∀ r, (r, s.pos) ∈ s.active.frames → ∀ q ∈ calls, k.rank q < k.rank r

variable {k} {s t : State R} {calls calls' : List R}

theorem Above.mono (h : k.Above s calls) (hsub : calls' ⊆ calls) : k.Above s calls' :=
  fun r hr q hq => h r hr q (hsub hq)

/-- A body is evaluated where its own rule and those above it are open. -/
theorem Above.enter {r : R} (h : k.Above s [r]) :
    k.Above (s.enter r) ((g.body r).leftCalls k.null) := by
  intro q hq p hp
  have hr := k.rank_lt r p hp
  rcases List.mem_cons.mp hq with heq | hmem
  · cases heq
    exact hr
  · have := h q hmem r (List.mem_singleton.mpr rfl)
    omega

variable [DecidableEq R] {cfg : Setting R}

/-- Behind a position where all open rules were begun, none is open. -/
theorem above_of_ne (hv : s.Valid cfg) (ht : s.Reaches cfg t) (hne : t.pos ≠ s.pos) :
    k.Above t calls := by
  intro r hr
  rw [ht.active] at hr
  have h₁ := (hv.opened hr).1
  have h₂ := ht.le
  omega

/-- An evaluation goes on at the position where it began, or where no rule is open. -/
theorem Above.next (h : k.Above s calls) (hv : s.Valid cfg) (ht : s.Reaches cfg t) :
    k.Above t calls := by
  by_cases hpos : t.pos = s.pos
  · intro r hr
    rw [hpos, ht.active] at hr
    exact h r hr
  · exact above_of_ne hv ht hpos

/-- A rule that may be asked for is not in progress. -/
theorem Above.not_findsInProgress {r : R} (h : k.Above s [r]) (hv : s.Valid cfg) :
    ¬s.FindsInProgress r := by
  rintro ⟨again, hk⟩
  have := h r (hv.inProgress hk) r (List.mem_singleton.mpr rfl)
  omega

end Grammar.Ranking

variable [DecidableEq R] {cfg : Setting R}

/-- An evaluation that asks for lower rules only finds none of them in progress, and what it
matches without moving may be matched so. Nothing is said about growth, which takes a rule that
asked for itself. -/
def Judgement.Descends (k : cfg.grammar.Ranking) (h : List (Moment R)) : Judgement R → Prop
  | .expr e s b t => s.Valid cfg → s.Records k.Respects → k.Above s (e.leftCalls k.null) →
      t.Records k.Respects ∧ (∀ m ∈ h, ¬m.Reenters) ∧
        (b = true → t.pos = s.pos → e.nullable k.null = true)
  | .loop e s t => s.Valid cfg → s.Records k.Respects → k.Above s (e.leftCalls k.null) →
      t.Records k.Respects ∧ ∀ m ∈ h, ¬m.Reenters
  | .body r s o t => (s.enter r).Valid cfg → s.Records k.Respects → k.Above s [r] →
      t.Records k.Respects ∧ (∀ m ∈ h, ¬m.Reenters) ∧ k.Respects r s.pos o
  | .growth _ _ _ _ _ _ => True
  | .rule r s o t => s.Valid cfg → s.Records k.Respects → k.Above s [r] →
      t.Records k.Respects ∧ (∀ m ∈ h, ¬m.Reenters) ∧ k.Respects r s.pos o

/-- **No rule of a ranked grammar is found in progress.** -/
theorem Derives.descends (k : cfg.grammar.Ranking) {j : Judgement R} {h : List (Moment R)}
    (hj : Derives cfg j h) : j.Descends k h := by
  induction hj with
  | succeed => exact fun _ hs _ => ⟨hs, by simp, fun _ _ => rfl⟩
  | fail => exact fun _ hs _ => ⟨hs, by simp, fun hb => by cases hb⟩
  | inspect => exact fun _ hs _ => ⟨hs.of_memo rfl, by simp, fun _ _ => rfl⟩
  | byte hb =>
    refine fun _ hs _ => ⟨hs.of_memo (State.reads_takeByte hb).memo, by simp, fun hm hpos => ?_⟩
    subst hm
    have := State.lt_of_takeByte hb
    omega
  | run hb =>
    refine fun _ hs _ => ⟨hs.of_memo (State.reads_takeRun hb).memo, by simp, fun hm hpos => ?_⟩
    subst hm
    have := State.lt_of_takeRun hb
    omega
  | literal hb =>
    refine fun _ hs _ => ⟨hs.of_memo (State.reads_takeLiteral hb).memo, by simp, fun hm hpos => ?_⟩
    subst hm
    have := State.pos_takeLiteral hb
    exact List.isEmpty_iff_length_eq_zero.mpr (by omega)
  | apply hr hb ih =>
    intro hv hs ha
    obtain ⟨ht, hm, hnull⟩ := ih hv hs ha
    exact ⟨ht, hm, fun hb' hpos => hnull (hb.trans hb') ((hr.sound hv).2.2 ▸ hpos)⟩
  | @andThen e₁ e₂ s t b u h₁ h₂ he₁ he₂ ih₁ ih₂ =>
    intro hv hs ha
    have ht := he₁.sound hv
    have hu := he₂.sound ht.valid
    obtain ⟨hrt, hm₁, hnull₁⟩ := ih₁ hv hs (ha.mono (List.subset_append_left _ _))
    have ha₂ : k.Above t (e₂.leftCalls k.null) := by
      by_cases hpos : t.pos = s.pos
      · refine (ha.next hv ht).mono ?_
        rw [Expr.leftCalls, if_pos (hnull₁ rfl hpos)]
        exact List.subset_append_right _ _
      · exact Grammar.Ranking.above_of_ne hv ht hpos
    obtain ⟨hru, hm₂, hnull₂⟩ := ih₂ ht.valid hrt ha₂
    refine ⟨hru, List.forall_mem_append.mpr ⟨hm₁, hm₂⟩, fun hb hpos => ?_⟩
    have h₁ := ht.le
    have h₂ := hu.le
    exact Bool.and_eq_true_iff.mpr ⟨hnull₁ rfl (by omega), hnull₂ hb (by omega)⟩
  | andThen_miss _ ih =>
    intro hv hs ha
    obtain ⟨ht, hm, -⟩ := ih hv hs (ha.mono (List.subset_append_left _ _))
    exact ⟨ht, hm, fun hb => by cases hb⟩
  | orElse _ ih =>
    intro hv hs ha
    obtain ⟨ht, hm, hnull⟩ := ih hv hs (ha.mono (List.subset_append_left _ _))
    exact ⟨ht, hm, fun hb hpos => Bool.or_eq_true_iff.mpr (.inl (hnull hb hpos))⟩
  | orElse_next he₁ he₂ ih₁ ih₂ =>
    intro hv hs ha
    have ht := he₁.sound hv
    have hu := he₂.sound ht.valid
    obtain ⟨hrt, hm₁, -⟩ := ih₁ hv hs (ha.mono (List.subset_append_left _ _))
    obtain ⟨hru, hm₂, hnull⟩ :=
      ih₂ ht.valid hrt ((ha.next hv ht).mono (List.subset_append_right _ _))
    refine ⟨hru, List.forall_mem_append.mpr ⟨hm₁, hm₂⟩, fun hb hpos => ?_⟩
    have h₁ := ht.le
    have h₂ := hu.le
    exact Bool.or_eq_true_iff.mpr (.inr (hnull hb (by omega)))
  | attempt _ ih => exact ih
  | attempt_miss _ ih =>
    intro hv hs ha
    obtain ⟨ht, hm, -⟩ := ih hv hs ha
    exact ⟨ht.of_memo rfl, hm, fun hb => by cases hb⟩
  | many _ ih =>
    intro hv hs ha
    obtain ⟨ht, hm⟩ := ih hv hs ha
    exact ⟨ht, hm, fun _ _ => rfl⟩
  | notAhead _ ih =>
    intro hv hs ha
    obtain ⟨ht, hm, -⟩ := ih hv hs ha
    exact ⟨ht.of_memo (State.memo_miss _), hm, fun _ _ => rfl⟩
  | notAhead_miss _ ih | ahead _ ih =>
    intro hv hs ha
    obtain ⟨ht, hm, -⟩ := ih hv hs ha
    exact ⟨ht.of_memo rfl, hm, fun _ _ => rfl⟩
  | capture _ ih =>
    intro hv hs ha
    obtain ⟨ht, hm, hnull⟩ := ih hv hs ha
    exact ⟨ht.of_memo rfl, hm, hnull⟩
  | capture_miss _ ih | check_miss _ ih =>
    intro hv hs ha
    obtain ⟨ht, hm, -⟩ := ih hv hs ha
    exact ⟨ht.of_memo rfl, hm, fun hb => by cases hb⟩
  | check _ hp ih =>
    intro hv hs ha
    obtain ⟨ht, hm, hnull⟩ := ih hv hs ha
    exact ⟨ht.of_memo (memo_askPolicy hp), hm, fun hb hpos =>
      hnull hb ((askPolicy_answer hp).2 ▸ hpos)⟩
  | check_refused _ hp ih =>
    intro hv hs ha
    obtain ⟨ht, hm, -⟩ := ih hv hs ha
    have hu := ht.of_memo (memo_askPolicy hp)
    exact ⟨hu.of_memo rfl, hm, fun hb => by cases hb⟩
  | loop_miss _ ih =>
    intro hv hs ha
    obtain ⟨ht, hm, -⟩ := ih hv hs ha
    exact ⟨ht.of_memo rfl, hm⟩
  | loop_still _ _ ih =>
    intro hv hs ha
    obtain ⟨ht, hm, -⟩ := ih hv hs ha
    exact ⟨ht, hm⟩
  | loop_next he _ hl ih₁ ih₂ =>
    intro hv hs ha
    have ht := he.sound hv
    obtain ⟨hrt, hm₁, -⟩ := ih₁ hv hs ha
    obtain ⟨hru, hm₂⟩ := ih₂ ht.valid hrt (ha.next hv ht)
    exact ⟨hru, List.forall_mem_append.mpr ⟨hm₁, hm₂⟩⟩
  | @body r s t h he ih =>
    intro hv hs ha
    obtain ⟨ht, hm, hnull⟩ := ih hv (hs.of_memo rfl) ha.enter
    exact ⟨ht.of_memo rfl, List.forall_mem_cons.mpr ⟨id, hm⟩,
      fun _ hpos => k.null_of_nullable r (hnull rfl hpos)⟩
  | body_miss _ ih =>
    intro hv hs ha
    obtain ⟨ht, hm, -⟩ := ih hv (hs.of_memo rfl) ha.enter
    exact ⟨ht.of_memo rfl, List.forall_mem_cons.mpr ⟨id, hm⟩, fun hb => by cases hb⟩
  | grow | grow_stop => trivial
  | recalled he =>
    intro hv hs ha
    have ho := hs.done (State.progress?_of_get? he)
    exact ⟨hs.of_progress? fun q p => State.progress?_reuse _ _ _ q p,
      List.forall_mem_singleton.mpr (ha.not_findsInProgress hv), ho⟩
  | reentered he =>
    intro hv _ ha
    exact absurd ⟨_, State.progress?_of_get? he⟩ (ha.not_findsInProgress hv)
  | refused =>
    intro hv hs ha
    exact ⟨hs.of_progress? fun q p => State.progress?_refuse _ _ q p,
      List.forall_mem_singleton.mpr (ha.not_findsInProgress hv), fun hb => by cases hb⟩
  | settled hn hd _ _ ih =>
    intro hv hs ha
    have hn' := State.progress?_eq_none.mpr hn
    obtain ⟨ht, hm, ho⟩ := ih (hv.enter_begin hn' hd) (hs.begin _) ha
    exact ⟨ht.settle ho, List.forall_mem_append.mpr
      ⟨hm, List.forall_mem_singleton.mpr (ha.not_findsInProgress hv)⟩, ho⟩
  | grown hn hd _ hg _ ih =>
    intro hv hs ha
    have hn' := State.progress?_eq_none.mpr hn
    obtain ⟨ht, -⟩ := ih (hv.enter_begin hn' hd) (hs.begin _) ha
    rw [Bool.and_eq_true, State.isReentered_iff] at hg
    exact absurd hg.2 ht.unmarked

/-- **No run of a ranked grammar finds a rule in progress.** -/
theorem Run.History.not_reenters {g : Grammar R} (k : g.Ranking) {run : Run R}
    {steps : List (Step R)} {h : List (Moment R)} (hh : run.History steps h)
    (hg : run.setting.grammar = g) (hv : run.state.Valid run.setting)
    (ha : run.state.active.frames = []) (hr : run.state.Records k.Respects) :
    ∀ m ∈ h, ¬m.Reenters := by
  induction hh with
  | nil => simp
  | @cons run step rest h₁ h₂ hs hrest ih =>
    subst hg
    have hv' : run.forgetReports.state.Valid run.setting := hv.clearEvents
    have hr' : run.forgetReports.state.Records k.Respects := hr.of_memo rfl
    have habove : ∀ calls, k.Above run.forgetReports.state calls := by
      intro calls r hmem
      rw [show run.forgetReports.state.active.frames = [] from ha] at hmem
      cases hmem
    have hnext : (run.step step).2.state.Records k.Respects ∧ ∀ m ∈ h₁, ¬m.Reenters := by
      obtain ⟨r, o, hd⟩ | ⟨e, b, hd⟩ := hs.derives
      · obtain ⟨ht, hm, -⟩ := hd.descends k hv' hr' (habove _)
        exact ⟨ht, hm⟩
      · obtain ⟨ht, hm, -⟩ := hd.descends k hv' hr' (habove _)
        exact ⟨ht, hm⟩
    have hactive : (run.step step).2.state.active.frames = [] := by
      rw [(hs.reaches hv).active]
      exact ha
    have hset := run.setting_step hv step
    exact List.forall_mem_append.mpr
      ⟨hnext.2, ih (congrArg Setting.grammar hset) (Run.valid_step hv step) hactive hnext.1⟩

/-- **A ranked grammar has an answer to every question**: every expression matches or fails at every
position of an input. -/
theorem Grammar.Ranking.exists_matches {g : Grammar R} (k : g.Ranking) {input : String} {p : Nat}
    (hp : p ≤ input.utf8ByteSize) (e : Expr R) :
    ∃ b q, e.Matches input (g.Matches input) p b q := by
  let cfg : Setting R := ⟨g, input, g.rules.length * (input.utf8ByteSize + 1)⟩
  let run : Run R := ⟨cfg, State.initial.moveTo p⟩
  have hv : run.state.Valid cfg :=
    (State.valid_initial cfg).moveTo hp fun h => absurd h List.not_mem_nil
  have hf : ∀ P, run.state.Records P := fun P => State.Records.initial.of_memo rfl
  obtain ⟨b, t, h, -, hd⟩ := run.exists_eval hv e
  have hx : t.exhausted = false := (hd.nests hv).spared (Nat.le_refl _) rfl
  obtain ⟨-, hm, -⟩ := hd.descends k hv (hf _) fun r hr => absurd hr List.not_mem_nil
  exact ⟨b, t.pos, (hd.faithful hx hm (hf _)).2.2⟩

/-- An expression that does not match at a position inside the input fails there. -/
theorem Grammar.Ranking.exists_miss {g : Grammar R} (k : g.Ranking) {input : String} {p : Nat}
    (hp : p ≤ input.utf8ByteSize) {e : Expr R}
    (h : ∀ q, ¬e.Matches input (g.Matches input) p true q) :
    ∃ q, e.Matches input (g.Matches input) p false q := by
  obtain ⟨b, q, he⟩ := k.exists_matches hp e
  cases b with
  | true => exact absurd he (h q)
  | false => exact ⟨q, he⟩

end AddressGrammar.Peg
