import AddressGrammar.Proofs.Peg.Persistence

/-!
# Two ways to take a run

A longest run of bytes of a class is taken by the expression made for it, or by repeating a single byte
of the class. The first passes over the run in one go. The second makes an iteration for each byte:
every one of them moves, and none leaves the position elsewhere when it fails, so neither the guard
of the repetition nor the restored position ever matters. What remains is the iteration that ends the
repetition, behind the run or at the end of the input. It fails, and its failure is charged to the
innermost open rule. Outside every rule there is none to charge it to, and the two ways are the same.

## Main results

* `ByteClass.exists_contains` — every set of bytes is a class
* `eval_many_byte` — a repeated byte ends behind the run, with one more failure
* `run_agrees_with_repetition` — the two ways side by side
-/

namespace AddressGrammar

namespace Text

/-- **Every set of bytes is a class.** -/
theorem ByteClass.exists_contains (f : UInt8 → Bool) : ∃ c : ByteClass, ∀ a, c.contains a = f a := by
  refine ⟨⟨((List.range 256).filter fun n => f (UInt8.ofNat n)).map
    fun n => (UInt8.ofNat n, UInt8.ofNat n)⟩, fun a => Bool.eq_iff_iff.mpr ?_⟩
  simp only [contains, List.any_map, List.any_eq_true, List.mem_filter, List.mem_range,
    Function.comp_apply, Bool.and_eq_true, decide_eq_true_eq]
  constructor
  · rintro ⟨n, ⟨-, hf⟩, hle, hge⟩
    rwa [UInt8.le_antisymm hge hle]
  · intro hf
    refine ⟨a.toNat, ⟨a.toNat_lt, ?_⟩, ?_⟩
    all_goals rw [UInt8.ofNat_toNat]
    · exact hf
    · exact ⟨UInt8.le_refl a, UInt8.le_refl a⟩

variable {input : String} {c : ByteClass} {p : Nat}

/-- A run with a byte of the class in front of it is longer by that byte. -/
theorem runEnd_of_classAt (h : classAt input c p = true) :
    runEnd input c p = runEnd input c (p + 1) := by
  have hlt := lt_of_classAt h
  obtain ⟨n, hn⟩ : ∃ n, input.utf8ByteSize - p = n + 1 := ⟨input.utf8ByteSize - (p + 1), by omega⟩
  rw [runEnd, hn, skipAtMost, if_pos h, runEnd]
  congr 1
  omega

theorem runEnd_of_not_classAt (h : ¬classAt input c p = true) : runEnd input c p = p := by
  rw [runEnd]
  cases input.utf8ByteSize - p with
  | zero => rfl
  | succ n => rw [skipAtMost, if_neg h]

end Text

namespace Peg

open Text

variable {R : Type} {input : String} {c : ByteClass} {s : State R}

/-- One byte leaves the position alone when it is missed. -/
theorem restoreOnFailure_takeByte (s : State R) (input : String) (c : ByteClass) :
    restoreOnFailure s.pos (s.takeByte input c) = s.takeByte input c := by
  rw [State.takeByte]
  split
  · rfl
  · exact congrArg (false, ·) (State.moveTo_of_pos s.pos_miss)

/-- **A repeated byte ends behind the run**, with one more failure there. -/
theorem repeatUpTo_takeByte {n : Nat} (hs : s.pos ≤ input.utf8ByteSize)
    (hn : input.utf8ByteSize < s.pos + n) :
    repeatUpTo (fun t => some (t.takeByte input c)) n s =
      some (s.moveTo (runEnd input c s.pos)).miss := by
  induction n generalizing s with
  | zero => exact absurd hn (Nat.not_lt.mpr hs)
  | succ n ih =>
    rw [repeatUpTo, State.takeByte]
    by_cases hc : classAt input c s.pos = true
    · have hnext := ih (s := s.moveTo (s.pos + 1)) (lt_of_classAt hc)
        (by rw [State.pos_moveTo]; omega)
      rw [if_pos hc, runEnd_of_classAt hc]
      simpa using hnext
    · rw [if_neg hc, runEnd_of_not_classAt hc, State.moveTo_of_pos rfl]
      rfl

variable [DecidableEq R] {call : R → State R → Option (Bool × State R)}

theorem eval_many_byte (hs : s.pos ≤ input.utf8ByteSize) :
    (Expr.many (.byte c)).eval input call s =
      some (true, (s.moveTo (runEnd input c s.pos)).miss) := by
  have hbody : (fun t : State R => ((Expr.byte c).eval input call t).map (restoreOnFailure t.pos)) =
      fun t => some (t.takeByte input c) := by
    funext t
    rw [Expr.eval, Option.map_some, restoreOnFailure_takeByte]
  rw [Expr.eval, hbody, repeatUpTo_takeByte hs (by omega), Option.map_some]

/-- **At least one byte, and then as many as there are.** Where there is none, one failure is recorded
by the first byte; where there are some, by the byte that is looked for behind them. -/
theorem eval_many1_byte (s : State R) :
    (Expr.many1 (.byte c)).eval input call s =
      some (if classAt input c s.pos then (true, (s.moveTo (runEnd input c (s.pos + 1))).miss)
        else (false, s.miss)) := by
  rw [Expr.many1, Expr.eval, Expr.eval, Expr.eval, Option.map_some, restoreOnFailure_takeByte,
    State.takeByte]
  by_cases hc : classAt input c s.pos = true
  · rw [if_pos hc, if_pos hc]
    exact eval_many_byte (s := s.moveTo (s.pos + 1)) (lt_of_classAt hc)
  · rw [if_neg hc, if_neg hc]

/-- **A run and a repeated byte come to the same.** Every set of bytes is a class. For every class, input
and state, inside a rule or outside of all of them, the expression for a run and the repetition of a
byte, at least one, give the same verdict and leave the same position, table, open rules, exhaustion
and reports. The farthest failure is the same when they fail. When they match, the repetition has
recorded one more failure of the innermost open rule, at the end of the run, if a rule is open. -/
theorem run_agrees_with_repetition :
    (∀ f : UInt8 → Bool, ∃ c : ByteClass, ∀ a, c.contains a = f a) ∧
    ∀ (R : Type) [DecidableEq R] (input : String)
      (call : R → State R → Option (Bool × State R)) (c : ByteClass) (s : State R),
      ∃ b t t', (Expr.run c).eval input call s = some (b, t) ∧
        (Expr.many1 (.byte c)).eval input call s = some (b, t') ∧
        t'.pos = t.pos ∧ t'.memo = t.memo ∧ t'.active = t.active ∧ t'.depth = t.depth ∧
        t'.exhausted = t.exhausted ∧ t'.events = t.events ∧
        t'.failure =
          if b then s.current?.elim t.failure fun r => t.failure.record r t.pos else t.failure := by
  refine ⟨ByteClass.exists_contains, fun R _ input call c s => ?_⟩
  rw [eval_many1_byte, Expr.eval, State.takeRun]
  by_cases hc : classAt input c s.pos = true
  · -- Both have moved behind the run, and the repetition has missed a byte there.
    let t := s.moveTo (runEnd input c (s.pos + 1))
    have hfailure : t.miss.failure = s.current?.elim t.failure fun r => t.failure.record r t.pos := by
      rw [State.miss, show t.current? = s.current? from rfl]
      cases s.current? <;> rfl
    rw [if_pos hc, if_pos hc]
    exact ⟨true, t, t.miss, rfl, rfl, t.pos_miss, t.memo_miss, t.active_miss, t.depth_miss,
      t.exhausted_miss, t.events_miss, hfailure⟩
  · rw [if_neg hc, if_neg hc]
    exact ⟨false, s.miss, s.miss, rfl, rfl, rfl, rfl, rfl, rfl, rfl, rfl, rfl⟩

end Peg

end AddressGrammar
