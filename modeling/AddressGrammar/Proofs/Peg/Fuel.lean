import AddressGrammar.Proofs.Peg.History
import Mathlib.Data.List.MinMax

/-!
# One fuel for the whole engine

The evaluator bounds each repetition, each growth and the nesting of bodies by a count of its own.
The engine of this module has no such counts. It repeats and grows without a limit, opens bodies
inside one another without a limit, and pays for everything from one supply: a unit of fuel for each
expression, each iteration, each body and each application. Without a supply nothing would make it a
function, since a rule may ask for itself, and a repetition for the empty text.

There is an amount of fuel that always suffices. It is computed from the number of rules, the size
of the largest body and the length of the input alone. No single quantity becomes smaller from call
to call, so the amount is put together from three. Below an open body there are fewer rules and
positions that may still be opened, an iteration of a repetition or of a growth has fewer positions
ahead of it, and the parts of an expression are smaller.

## Main definitions

* `Setting.evalFueled`, `Setting.repeatFueled`, `Setting.bodyFueled`, `Setting.growFueled`,
  `Setting.applyFueled` — the engine
* `Expr.size`, `Grammar.largestBody` — the sizes that the fuel depends on
* `enoughFuel` — an amount that suffices

## Main results

* `Derives.fueled` — the engine answers what is derivable, with any amount that suffices
* `engine_terminates` — so every application and every evaluation ends
-/

namespace AddressGrammar.Peg

variable {R : Type}

/-! ### How much fuel suffices -/

/-- The number of constructors of an expression. -/
def Expr.size : Expr R → Nat
  | succeed => 1
  | fail => 1
  | byte _ => 1
  | run _ => 1
  | literal _ => 1
  | apply _ => 1
  | andThen e₁ e₂ => e₁.size + e₂.size + 1
  | orElse e₁ e₂ => e₁.size + e₂.size + 1
  | attempt e => e.size + 1
  | many e => e.size + 1
  | notAhead e => e.size + 1
  | ahead e => e.size + 1
  | capture e => e.size + 1
  | check e _ => e.size + 1
  | inspect _ _ => 1

/-- The size of the largest body. -/
def Grammar.largestBody (g : Grammar R) : Nat := (g.rules.map fun r => (g.body r).size).foldr max 0

theorem Grammar.size_le_largestBody (g : Grammar R) (r : R) : (g.body r).size ≤ g.largestBody := by
  have hmem := List.mem_map_of_mem (f := fun r => (g.body r).size) (g.mem_rules r)
  exact List.le_max_of_le' 0 hmem (Nat.le_refl _)

/-- Fuel that suffices for an expression of a size over a grammar of so many rules, the largest
body and the input being of those sizes. -/
def enoughFuel (rules largest length size : Nat) : Nat :=
  size * (length + 3) + (rules * (length + 1) * ((largest + 1) * (length + 3)) + 1)

namespace Setting

variable {cfg : Setting R} {s t : State R}

/-- Fuel for an application: what each rule and position that is not open yet may take, and a unit
for an answer without a body. -/
def ruleFuel (cfg : Setting R) (s : State R) : Nat :=
  (cfg.nestingRoom - s.active.frames.length) *
    ((cfg.grammar.largestBody + 1) * (cfg.length + 3)) + 1

/-- Fuel for an expression. -/
def exprFuel (cfg : Setting R) (size : Nat) (s : State R) : Nat :=
  size * (cfg.length + 3) + cfg.ruleFuel s

/-- Fuel for a body, in a state in which its rule is open. -/
def bodyFuel (cfg : Setting R) (s : State R) : Nat := cfg.exprFuel cfg.grammar.largestBody s + 1

theorem ruleFuel_congr (h : t.active = s.active) : cfg.ruleFuel t = cfg.ruleFuel s := by
  rw [ruleFuel, h, ruleFuel]

theorem exprFuel_congr (h : t.active = s.active) (size : Nat) :
    cfg.exprFuel size t = cfg.exprFuel size s := by
  rw [exprFuel, ruleFuel_congr h, exprFuel]

theorem bodyFuel_enter_congr (h : t.active = s.active) (r : R) :
    cfg.bodyFuel (t.enter r) = cfg.bodyFuel (s.enter r) := by
  have hlen : (t.enter r).active.frames.length = (s.enter r).active.frames.length := by
    change t.active.frames.length + 1 = s.active.frames.length + 1
    rw [h]
  simp only [bodyFuel, exprFuel, ruleFuel, hlen]

/-- A larger expression has fuel for one more round through the input. -/
theorem exprFuel_lt {m n : Nat} (h : m < n) (s : State R) :
    cfg.exprFuel m s + (cfg.length + 3) ≤ cfg.exprFuel n s := by
  have hmul : (m + 1) * (cfg.length + 3) ≤ n * (cfg.length + 3) := Nat.mul_le_mul_right _ h
  rw [Nat.succ_mul] at hmul
  simp only [exprFuel]
  omega

/-- An amount that suffices whatever rules are open. -/
theorem exprFuel_le_enoughFuel (cfg : Setting R) (size : Nat) (s : State R) :
    cfg.exprFuel size s ≤
      enoughFuel cfg.grammar.rules.length cfg.grammar.largestBody cfg.length size := by
  have hroom : cfg.nestingRoom - s.active.frames.length ≤ cfg.nestingRoom := Nat.sub_le ..
  exact Nat.add_le_add_left (Nat.add_le_add_right (Nat.mul_le_mul_right _ hroom) 1) _

/-- Fuel for an expression is fuel for one call and, after that, for each smaller expression. -/
theorem exists_of_exprFuel {k n : Nat} (hn : cfg.exprFuel k s ≤ n) :
    ∃ m, n = m + 1 ∧ ∀ i < k, cfg.exprFuel i s + (cfg.length + 2) ≤ m := by
  refine ⟨n - 1, ?_, fun i hi => ?_⟩
  · have : 1 ≤ cfg.exprFuel k s := Nat.le_add_left ..
    omega
  · have hlt : cfg.exprFuel i s + (cfg.length + 3) ≤ cfg.exprFuel k s := exprFuel_lt hi s
    omega

end Setting

variable [DecidableEq R]

/-! ### The engine -/

namespace Setting

mutual

/-- Evaluates an expression. -/
def evalFueled (cfg : Setting R) : Nat → Expr R → State R → Option (Bool × State R)
  | 0, _, _ => none
  | _ + 1, .succeed, s => some (true, s)
  | _ + 1, .fail, s => some (false, s)
  | _ + 1, .byte c, s => some (s.takeByte cfg.input c)
  | _ + 1, .run c, s => some (s.takeRun cfg.input c)
  | _ + 1, .literal bytes, s => some (s.takeLiteral cfg.input bytes)
  | n + 1, .apply r, s => (cfg.applyFueled n r s).map fun (o, t) => (o.matched, t)
  | n + 1, .andThen e₁ e₂, s =>
    match cfg.evalFueled n e₁ s with
    | some (true, t) => cfg.evalFueled n e₂ t
    | other => other
  | n + 1, .orElse e₁ e₂, s =>
    match cfg.evalFueled n e₁ s with
    | some (false, t) => cfg.evalFueled n e₂ t
    | other => other
  | n + 1, .attempt e, s => (cfg.evalFueled n e s).map (restoreOnFailure s.pos)
  | n + 1, .many e, s => (cfg.repeatFueled n e s).map fun t => (true, t)
  | n + 1, .notAhead e, s =>
    (cfg.evalFueled n e s).map fun (matched, t) =>
      let t := t.moveTo s.pos
      if matched then (false, t.miss) else (true, t)
  | n + 1, .ahead e, s => (cfg.evalFueled n e s).map fun (matched, t) => (matched, t.moveTo s.pos)
  | n + 1, .capture e, s =>
    (cfg.evalFueled n e s).map fun (matched, t) =>
      if matched then
        (true, t.report (.captured ⟨s.pos, t.pos⟩ (Text.slice? cfg.input s.pos t.pos)))
      else (false, t.moveTo s.pos)
  | n + 1, .check e policy, s =>
    (cfg.evalFueled n e s).map fun (matched, t) =>
      if matched then restoreOnFailure s.pos (askPolicy cfg.input policy ⟨s.pos, t.pos⟩ t)
      else (false, t.moveTo s.pos)
  | _ + 1, .inspect r pos, s => some (true, s.report (.inspected r pos (s.memo.get? r pos)))

/-- Repeats an expression until it fails or does not move. -/
def repeatFueled (cfg : Setting R) : Nat → Expr R → State R → Option (State R)
  | 0, _, _ => none
  | n + 1, e, s =>
    match (cfg.evalFueled n e s).map (restoreOnFailure s.pos) with
    | none => none
    | some (matched, t) => if matched && t.pos != s.pos then cfg.repeatFueled n e t else some t

/-- Evaluates the body of a rule at the reading position. -/
def bodyFueled (cfg : Setting R) : Nat → R → State R → Option (Outcome × State R)
  | 0, _, _ => none
  | n + 1, r, s =>
    match cfg.evalFueled n (cfg.grammar.body r) (s.enter r) with
    | none => none
    | some (true, t) => some (.hit s.pos t.pos, t.leaveTo s)
    | some (false, t) => some (.missed s.pos, ((t.leaveTo s).moveTo s.pos).record r s.pos)

/-- Evaluates the body of a rule again and again as long as its match becomes longer. -/
def growFueled (cfg : Setting R) :
    Nat → R → Nat → Outcome → State R → Option (Outcome × State R)
  | 0, _, _, _, _ => none
  | n + 1, r, start, best, s =>
    match cfg.bodyFueled n r (s.moveTo start) with
    | none => none
    | some (next, t) =>
      if next.matched && decide (best.stop < next.stop) then
        cfg.growFueled n r start next (t.settle r start next)
      else some (best, t.moveTo best.stop)

/-- Applies a rule at the reading position. -/
def applyFueled (cfg : Setting R) : Nat → R → State R → Option (Outcome × State R)
  | 0, _, _ => none
  | n + 1, r, s =>
    match cfg.immediate? r s with
    | some answer => some answer
    | none =>
      match cfg.bodyFueled n r (s.begin r) with
      | none => none
      | some (seed, t) =>
        if seed.matched && t.memo.isReentered r s.pos then
          cfg.growFueled n r s.pos seed (t.settle r s.pos seed)
        else some (seed, t.settle r s.pos seed)

end

end Setting

/-! ### The engine has enough fuel -/

namespace Setting

variable {cfg : Setting R} {s : State R}

/-- A rule without an entry is not answered without its body below the bound on nesting. -/
theorem immediate?_of_none {r : R} (hn : s.memo.get? r s.pos = none) (hd : s.depth < cfg.maxDepth) :
    cfg.immediate? r s = none := by
  rw [immediate?, hn]
  exact if_neg (Nat.not_le_of_lt hd)

/-- Opening a rule leaves room for one body less, and that pays for the body and its growth. -/
theorem bodyFuel_enter (hv : s.Valid cfg) {r : R} (hr : (r, s.pos) ∉ s.active.frames) :
    cfg.bodyFuel (s.enter r) + (cfg.length + 2) ≤ cfg.ruleFuel s := by
  have hroom := hv.length_frames_lt hv.pos_le hr
  obtain ⟨k, hk⟩ : ∃ k, cfg.nestingRoom - s.active.frames.length = k + 1 :=
    ⟨cfg.nestingRoom - s.active.frames.length - 1, by omega⟩
  have henter : cfg.nestingRoom - (s.enter r).active.frames.length = k := by
    change cfg.nestingRoom - (s.active.frames.length + 1) = k
    omega
  simp only [bodyFuel, exprFuel, ruleFuel, hk, henter, Nat.succ_mul]
  omega

end Setting

/-- With enough fuel the engine gives the answer that is derivable. -/
def Judgement.Fueled (cfg : Setting R) : Judgement R → Prop
  | .expr e s b t => s.Valid cfg → ∀ n, cfg.exprFuel e.size s ≤ n →
      cfg.evalFueled n e s = some (b, t)
  | .loop e s t => s.Valid cfg → ∀ n, cfg.exprFuel e.size s + (cfg.length + 1 - s.pos) ≤ n →
      cfg.repeatFueled n e s = some t
  | .body r s o t => (s.enter r).Valid cfg → ∀ n, cfg.bodyFuel (s.enter r) ≤ n →
      cfg.bodyFueled n r s = some (o, t)
  | .growth r start best s o t => s.Growing cfg r start best →
      ∀ n, cfg.bodyFuel ((s.moveTo start).enter r) + (cfg.length + 1 - best.stop) ≤ n →
        cfg.growFueled n r start best s = some (o, t)
  | .rule r s o t => s.Valid cfg → ∀ n, cfg.ruleFuel s ≤ n → cfg.applyFueled n r s = some (o, t)

variable {cfg : Setting R}

/-- **With enough fuel the engine gives the answer that is derivable.** -/
theorem Derives.fueled {j : Judgement R} {h : List (Moment R)} (hj : Derives cfg j h) :
    j.Fueled cfg := by
  induction hj with
  | succeed | fail | inspect =>
    intro _ n hn
    obtain ⟨m, rfl, -⟩ := Setting.exists_of_exprFuel hn
    rfl
  | byte hb | run hb | literal hb =>
    intro _ n hn
    obtain ⟨m, rfl, -⟩ := Setting.exists_of_exprFuel hn
    rw [Setting.evalFueled, hb]
  | @apply r s o b t h _ hb ih =>
    intro hv n hn
    obtain ⟨m, rfl, hm⟩ := Setting.exists_of_exprFuel hn
    have := hm 0 Nat.one_pos
    rw [Setting.exprFuel, Nat.zero_mul] at this
    rw [Setting.evalFueled, ih hv m (by omega), ← hb]
    rfl
  | @andThen e₁ e₂ s t b u h₁ h₂ he₁ _ ih₁ ih₂ =>
    intro hv n hn
    obtain ⟨m, rfl, hm⟩ := Setting.exists_of_exprFuel hn
    have ht := he₁.sound hv
    have h₁ := hm e₁.size (by rw [Expr.size]; omega)
    have h₂ := hm e₂.size (by rw [Expr.size]; omega)
    rw [← Setting.exprFuel_congr ht.active] at h₂
    rw [Setting.evalFueled, ih₁ hv m (by omega)]
    exact ih₂ ht.valid m (by omega)
  | @andThen_miss e₁ e₂ s t h _ ih =>
    intro hv n hn
    obtain ⟨m, rfl, hm⟩ := Setting.exists_of_exprFuel hn
    have h₁ := hm e₁.size (by rw [Expr.size]; omega)
    rw [Setting.evalFueled, ih hv m (by omega)]
  | @orElse e₁ e₂ s t h _ ih =>
    intro hv n hn
    obtain ⟨m, rfl, hm⟩ := Setting.exists_of_exprFuel hn
    have h₁ := hm e₁.size (by rw [Expr.size]; omega)
    rw [Setting.evalFueled, ih hv m (by omega)]
  | @orElse_next e₁ e₂ s t b u h₁ h₂ he₁ _ ih₁ ih₂ =>
    intro hv n hn
    obtain ⟨m, rfl, hm⟩ := Setting.exists_of_exprFuel hn
    have ht := he₁.sound hv
    have h₁ := hm e₁.size (by rw [Expr.size]; omega)
    have h₂ := hm e₂.size (by rw [Expr.size]; omega)
    rw [← Setting.exprFuel_congr ht.active] at h₂
    rw [Setting.evalFueled, ih₁ hv m (by omega)]
    exact ih₂ ht.valid m (by omega)
  | attempt _ ih | attempt_miss _ ih | notAhead _ ih | notAhead_miss _ ih | ahead _ ih
  | capture _ ih | capture_miss _ ih | check_miss _ ih =>
    intro hv n hn
    obtain ⟨m, rfl, hm⟩ := Setting.exists_of_exprFuel hn
    have := hm _ (Nat.lt_succ_self _)
    rw [Setting.evalFueled, ih hv m (by omega)]
    rfl
  | check _ hp ih | check_refused _ hp ih =>
    intro hv n hn
    obtain ⟨m, rfl, hm⟩ := Setting.exists_of_exprFuel hn
    have := hm _ (Nat.lt_succ_self _)
    rw [Setting.evalFueled, ih hv m (by omega), Option.map_some]
    simp only [↓reduceIte, hp, restoreOnFailure]
  | many _ ih =>
    intro hv n hn
    obtain ⟨m, rfl, hm⟩ := Setting.exists_of_exprFuel hn
    have := hm _ (Nat.lt_succ_self _)
    rw [Setting.evalFueled, ih hv m (by omega)]
    rfl
  | @loop_miss e s t h _ ih =>
    intro hv n hn
    have := hv.pos_le
    obtain ⟨m, rfl⟩ : ∃ m, n = m + 1 := ⟨n - 1, by omega⟩
    rw [Setting.repeatFueled, ih hv m (by omega)]
    rfl
  | @loop_still e s t h _ hpos ih =>
    intro hv n hn
    have := hv.pos_le
    obtain ⟨m, rfl⟩ : ∃ m, n = m + 1 := ⟨n - 1, by omega⟩
    rw [Setting.repeatFueled, ih hv m (by omega)]
    simp [restoreOnFailure, hpos]
  | @loop_next e s t u h₁ h₂ he hpos _ ih₁ ih₂ =>
    intro hv n hn
    have ht := he.sound hv
    have hle := ht.le
    have hend := ht.valid.pos_le
    obtain ⟨m, rfl⟩ : ∃ m, n = m + 1 := ⟨n - 1, by omega⟩
    rw [Setting.repeatFueled, ih₁ hv m (by omega)]
    simp only [Option.map_some, restoreOnFailure, Bool.true_and, bne_iff_ne, if_pos hpos]
    rw [← Setting.exprFuel_congr ht.active] at hn
    exact ih₂ ht.valid m (by omega)
  | @body r s t h _ ih | @body_miss r s t h _ ih =>
    intro hv n hn
    obtain ⟨m, rfl⟩ : ∃ m, n = m + 1 := ⟨n - 1, by rw [Setting.bodyFuel] at hn; omega⟩
    have hsize : cfg.exprFuel (cfg.grammar.body r).size (s.enter r) ≤ m := by
      rw [Setting.bodyFuel] at hn
      refine Nat.le_trans (Nat.add_le_add_right (Nat.mul_le_mul_right _ ?_) _) (Nat.le_of_succ_le_succ hn)
      exact cfg.grammar.size_le_largestBody r
    rw [Setting.bodyFueled, ih hv m hsize]
  | @grow r start best s next t o u h₁ h₂ hb hlt _ ih₁ ih₂ =>
    intro hg n hn
    have hc := hb.sound hg.enter
    have hnext := hg.next hc hlt.1
    have hend := hnext.fits.stop_le
    obtain ⟨m, rfl⟩ : ∃ m, n = m + 1 := ⟨n - 1, by omega⟩
    have hsame : cfg.bodyFuel (((t.settle r start next).moveTo start).enter r) =
        cfg.bodyFuel ((s.moveTo start).enter r) := Setting.bodyFuel_enter_congr hc.active r
    have hmatched : (next.matched && decide (best.stop < next.stop)) = true := by simp [hlt]
    rw [Setting.growFueled, ih₁ hg.enter m (by omega)]
    simp only [if_pos hmatched]
    exact ih₂ hnext m (by omega)
  | @grow_stop r start best s next t h _ hle ih =>
    intro hg n hn
    have hend := hg.fits.stop_le
    obtain ⟨m, rfl⟩ : ∃ m, n = m + 1 := ⟨n - 1, by omega⟩
    have hmatched : ¬(next.matched && decide (best.stop < next.stop)) = true := by simpa using hle
    rw [Setting.growFueled, ih hg.enter m (by omega)]
    simp only [if_neg hmatched]
  | recalled he | reentered he =>
    intro _ n hn
    obtain ⟨m, rfl⟩ : ∃ m, n = m + 1 := ⟨n - 1, by rw [Setting.ruleFuel] at hn; omega⟩
    rw [Setting.applyFueled, Setting.immediate?, he]
    rfl
  | refused hn hd =>
    intro _ n hfuel
    obtain ⟨m, rfl⟩ : ∃ m, n = m + 1 := ⟨n - 1, by rw [Setting.ruleFuel] at hfuel; omega⟩
    rw [Setting.applyFueled, Setting.immediate?, hn]
    simp only [if_pos hd]
    rfl
  | @settled r s o t h hn hd _ hg ih =>
    intro hv n hfuel
    have hnone := State.progress?_eq_none.mpr hn
    have hbody : cfg.bodyFuel ((s.begin r).enter r) + (cfg.length + 2) ≤ cfg.ruleFuel s :=
      Setting.bodyFuel_enter hv (hv.not_mem_of_progress? hnone)
    obtain ⟨m, rfl⟩ : ∃ m, n = m + 1 := ⟨n - 1, by omega⟩
    rw [Setting.applyFueled, Setting.immediate?_of_none hn hd,
      ih (hv.enter_begin hnone hd) m (by omega)]
    simp only [hg, Bool.false_eq_true, ↓reduceIte]
  | @grown r s seed t o u h₁ h₂ hn hd hb hs _ ih₁ ih₂ =>
    intro hv n hfuel
    have hnone := State.progress?_eq_none.mpr hn
    have hbody : cfg.bodyFuel ((s.begin r).enter r) + (cfg.length + 2) ≤ cfg.ruleFuel s :=
      Setting.bodyFuel_enter hv (hv.not_mem_of_progress? hnone)
    obtain ⟨m, rfl⟩ : ∃ m, n = m + 1 := ⟨n - 1, by omega⟩
    have hc := hb.sound (hv.enter_begin hnone hd)
    have hgrow := hc.growing_seed hv hn hd (Bool.and_eq_true_iff.mp hs).1
    have hsame : cfg.bodyFuel (((t.settle r s.pos seed).moveTo s.pos).enter r) =
        cfg.bodyFuel ((s.begin r).enter r) := Setting.bodyFuel_enter_congr hc.active r
    rw [Setting.applyFueled, Setting.immediate?_of_none hn hd,
      ih₁ (hv.enter_begin hnone hd) m (by omega)]
    simp only [hs, ↓reduceIte]
    exact ih₂ hgrow m (by omega)

/-! ### Every evaluation ends -/

/-- **The engine terminates on every grammar.** From every offset of the input and whatever steps
were made before, an amount of fuel that depends on the number of rules, the sizes of the bodies, of
the expression and of the input suffices for every application and for every expression, at any
bound on nesting, and the answer is that of the run. -/
theorem engine_terminates (g : Grammar R) (input : String) (maxDepth : Nat) (steps : List (Step R))
    (p : Nat) (hp : p ≤ input.utf8ByteSize) :
    let cfg : Setting R := ⟨g, input, maxDepth⟩
    let s := ((Run.start g input maxDepth).steps steps).2.state.moveTo p
    let enough := enoughFuel g.rules.length g.largestBody input.utf8ByteSize
    (∀ r n, enough 1 ≤ n → ∃ o t, cfg.applyFueled n r s = some (o, t) ∧
      (⟨cfg, s⟩ : Run R).apply r = (o, ⟨cfg, t⟩)) ∧
    ∀ e n, enough e.size ≤ n → ∃ b t, cfg.evalFueled n e s = some (b, t) ∧
      (⟨cfg, s⟩ : Run R).eval e = (b, ⟨cfg, t⟩) := by
  intro cfg s enough
  have hv : s.Valid cfg := by
    obtain ⟨-, hv, hactive⟩ := Run.steps_kept (Run.valid_start g input maxDepth) steps
    refine hv.moveTo hp fun h => ?_
    rw [hactive] at h
    exact absurd h List.not_mem_nil
  refine ⟨fun r n hn => ?_, fun e n hn => ?_⟩
  · obtain ⟨o, t, h, hrun, hd⟩ := (⟨cfg, s⟩ : Run R).exists_apply hv r
    have hfuel : cfg.ruleFuel s ≤ cfg.exprFuel 1 s := Nat.le_add_left ..
    exact ⟨o, t, hd.fueled hv n (hfuel.trans ((cfg.exprFuel_le_enoughFuel 1 s).trans hn)), hrun⟩
  · obtain ⟨b, t, h, hrun, hd⟩ := (⟨cfg, s⟩ : Run R).exists_eval hv e
    exact ⟨b, t, hd.fueled hv n ((cfg.exprFuel_le_enoughFuel e.size s).trans hn), hrun⟩

/-- A rule that asks for itself and nothing else, and a rule that repeats it, a letter and nothing at
all. -/
def restless : Grammar Bool where
  rules := [false, true]
  root := false
  name := fun r => if r then "loop" else "items"
  label := fun r => if r then "loop" else "items"
  production := fun _ => ""
  body := fun r => if r then .apply true else .many (.alt [.apply true, .token 'a', .succeed])
  mem_rules := by decide

/-- The repetition ends behind the last letter. -/
theorem engine_terminates_restless :
    1 ≤ "aab".utf8ByteSize ∧
      ∃ t, Setting.applyFueled ⟨restless, "aab", 18446744073709551615⟩ (enoughFuel 2 6 3 1) false
        (State.initial.moveTo 1) = some (.hit 1 2, t) := by
  refine ⟨by decide, ?_⟩
  obtain ⟨hrules, -⟩ := engine_terminates restless "aab" 18446744073709551615 [] 1 (by decide)
  obtain ⟨o, t, ht, hrun⟩ := hrules false _ (Nat.le_refl _)
  have hfuel : enoughFuel restless.rules.length restless.largestBody "aab".utf8ByteSize 1 =
      enoughFuel 2 6 3 1 := by decide +kernel
  have ho : o = .hit 1 2 := by
    have hfst := congrArg Prod.fst hrun
    exact hfst.symm.trans (by decide +kernel)
  rw [← ho, ← hfuel]
  exact ⟨t, ht⟩

end AddressGrammar.Peg
