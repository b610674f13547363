import AddressGrammar.Proofs.Peg.Locality
import AddressGrammar.Proofs.Validation.Verdict

/-!
# Errors are reported in time

Where a check reports a mismatch inside its input, the input was lost there: nothing that could
follow the reported byte would have saved it. Both address grammars are accountable, so the run that
led to the report has looked at nothing behind the offset, and on any other input that begins with
the same bytes it takes the same steps to the same report.

## Main definitions

* `Diagnostic.SamePlace` — two diagnostics point at the same place and blame the same rule

## Main results

* `upTo_blame` — a rejection is explained at or behind everything that was looked at
* `checkWhole_of_agree`, `mismatch_of_agree` — a mismatch inside the input stays whatever follows
-/

namespace AddressGrammar

open Text Peg

theorem Modern.accountable_body (policy : Option Policy) (r : Modern.Rule) :
    (Modern.body policy r).accountable = true := by
  cases policy <;> cases r <;> rfl

theorem Legacy.accountable_body (policy : Option Policy) (r : Legacy.Rule) :
    (Legacy.body policy r).accountable = true := by
  cases policy <;> cases r <;> rfl

namespace Validation

/-- Two diagnostics point at the same place and blame the same rule. They may find different
characters there, and different text around it. -/
structure Diagnostic.SamePlace (d d' : Diagnostic) : Prop where
  offset : d'.offset = d.offset
  rule : d'.rule = d.rule
  production : d'.production = d.production
  line : d'.line = d.line
  column : d'.column = d.column

variable {R : Type} [DecidableEq R] {g : Grammar R} {maxDepth : Nat} {name s t : String}
  {d : Diagnostic}

/-- **What explains a rejection lies behind everything that was looked at.** -/
theorem upTo_blame {input : String} {rule : R} {o : Outcome} {u : State R} {h : List (Moment R)}
    (hd : Derives ⟨g, input, maxDepth⟩ (.rule rule .initial o u) h) :
    u.UpTo (blame rule o.matched u).2 := by
  obtain ⟨-, hfits, hpos⟩ := hd.sound (State.valid_initial _)
  unfold blame
  cases hf : u.failure with
  | none =>
    refine ⟨Nat.le_refl _, fun p hp => ?_⟩
    obtain ⟨r, offset, hsome, -⟩ := hp
    cases hf.symm.trans hsome
  | some f =>
    have hcovers : ∀ p, u.failure.Covers p → p ≤ f.2 := by
      rintro p ⟨r, offset, hsome, hp⟩
      cases hf.symm.trans hsome
      exact hp
    dsimp only
    split
    · next hb =>
      refine ⟨?_, hcovers⟩
      cases hm : o.matched with
      | true => simpa [hm] using hb
      | false =>
        obtain ⟨hstop, hc⟩ := hfits.of_missed hm
        rw [hpos, hstop]
        exact hcovers _ hc
    · next hb =>
      simp only [Bool.or_eq_true, decide_eq_true_eq, not_or, Nat.not_le] at hb
      exact ⟨Nat.le_refl _, fun p hp => Nat.le_trans (hcovers p hp) (Nat.le_of_lt hb.2)⟩

/-- A mismatch inside the input is one of every input that begins with the same bytes. -/
theorem checkWhole_of_agree (hg : ∀ r, (g.body r).accountable = true)
    (hs : checkWhole g maxDepth name s = .error (.mismatch d)) (hagree : Agree s t d.offset) :
    ∃ d', checkWhole g maxDepth name t = .error (.mismatch d') ∧ d.SamePlace d' := by
  cases hr : g.ruleNamed? name with
  | none =>
    rw [checkWhole_of_ruleNamed? hr] at hs
    cases hs
  | some rule =>
    obtain ⟨o, u, h, hd, hverdict⟩ := exists_verdict s maxDepth hr
    obtain ⟨hx, -, rfl⟩ := verdict_eq_mismatch_iff.mp (hverdict.symm.trans hs)
    have hu := upTo_blame hd
    have hd' := hd.carries hagree hg (State.valid_initial _) hu
    obtain ⟨o', u', h', hd'', hverdict'⟩ := exists_verdict t maxDepth hr
    obtain ⟨rfl, rfl, -⟩ := hd'.determined _ _ _ hd''
    refine ⟨_, hverdict'.trans (verdict_eq_mismatch_iff.mpr ⟨hx, fun _ => ?_, rfl⟩), ?_⟩
    · exact Nat.lt_of_le_of_lt hu.pos_le hagree.lt_right
    · have hplace := hagree.lineColumn_eq
      exact ⟨rfl, rfl, rfl, congrArg Prod.fst hplace, congrArg Prod.snd hplace⟩

/-- **Errors are reported in time.** If a check reports a mismatch at a byte of its input, then it
reports the same place and the same rule for every input that has the same bytes up to that one, so
none of these is accepted. -/
theorem mismatch_of_agree (v : Validator) (hs : v.checkRule name s = .error (.mismatch d))
    (hoffset : d.offset < s.utf8ByteSize) (hbytes : ∀ i ≤ d.offset, byteAt? t i = byteAt? s i) :
    (∃ d', v.checkRule name t = .error (.mismatch d') ∧ d.SamePlace d') ∧
      v.validateRule name t = false := by
  have hagree : Agree s t d.offset := ⟨hoffset, hbytes⟩
  have hsame : ∃ d', v.checkRule name t = .error (.mismatch d') ∧ d.SamePlace d' := by
    unfold Validator.checkRule at hs ⊢
    cases hkind : v.syntaxKind with
    | modern =>
      rw [hkind] at hs
      exact checkWhole_of_agree (Modern.accountable_body v.policy) hs hagree
    | legacy =>
      rw [hkind] at hs
      exact checkWhole_of_agree (Legacy.accountable_body v.policy) hs hagree
  refine ⟨hsame, ?_⟩
  obtain ⟨d', ht, -⟩ := hsame
  rw [Validator.validateRule, ht]
  rfl

/-- The offset of a mismatch. -/
def mismatchOffset? : Except ParseError Unit → Option Nat
  | .error (.mismatch d) => some d.offset
  | _ => none

theorem eq_mismatch_of_offset {r : Except ParseError Unit} {offset : Nat}
    (h : mismatchOffset? r = some offset) : ∃ d, r = .error (.mismatch d) ∧ d.offset = offset := by
  cases r with
  | ok u => cases h
  | error e =>
    cases e with
    | mismatch d => exact ⟨d, rfl, Option.some.inj h⟩
    | tooDeep | unknownRule => cases h

/-- Two dots in a row, with a rest that would be fine otherwise and with another one. -/
theorem mismatch_of_agree_doubledDot :
    ∃ d, Validator.modern.checkRule "root" "a..b@c" = .error (.mismatch d) ∧ d.offset = 2 ∧
      (∃ d', Validator.modern.checkRule "root" "a..é" = .error (.mismatch d') ∧ d.SamePlace d') ∧
      Validator.modern.validateRule "root" "a..é" = false := by
  have hmismatch : mismatchOffset? (Validator.modern.checkRule "root" "a..b@c") = some 2 := by
    decide +kernel
  have hbytes : ∀ i < 3, byteAt? "a..é" i = byteAt? "a..b@c" i := by decide +kernel
  obtain ⟨d, hd, hoffset⟩ := eq_mismatch_of_offset hmismatch
  refine ⟨d, hd, hoffset, mismatch_of_agree _ hd ?_ fun i hi => hbytes i ?_⟩
  · rw [hoffset]
    decide +kernel
  · omega

end Validation

end AddressGrammar
