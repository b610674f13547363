import AddressGrammar.Proofs.Peg.LeftCalls

/-!
# Grammars that mean the same

Two grammars over the same rules may differ in some bodies and still mean the same. For one direction
it is enough to look at each body of the second one by itself: if the rules inside do what they do in
the first grammar, then the body must do what its rule does there. Nothing has to be known about the
rules in the second grammar, so no body is compared with more than its own rule, and a mutual
recursion among the rules is dealt with once and for all.

The other direction is free where the second grammar has an answer to every question, as it has
without left recursion. Runs of such grammars answer by the plain meaning of their rules unless they
hit the bound on nesting, so the runs agree as well.

## Main definitions

* `Grammar.Keeps` — each body does what its rule does in another grammar

## Main results

* `Grammar.Keeps.matches_iff` — the grammars mean the same
* `Grammar.Keeps.apply_eq` — their runs come to the same outcomes
-/

namespace AddressGrammar.Peg

variable {R : Type} {g g' : Grammar R} {input : String} {p q : Nat} {b : Bool} {r : R}

/-- With rules that do what they do in `g`, each body of `g'` does what its rule does in `g`. -/
def Grammar.Keeps (g' g : Grammar R) (input : String) : Prop :=
  ∀ r p b i, (g'.body r).Matches input (g.Matches input) p b i →
    g.Matches input r p b (if b then i else p)

namespace Grammar.Keeps

/-- Every answer of the second grammar is one of the first. -/
theorem matches_of (hk : g'.Keeps g input) (h : g'.Matches input r p b q) :
    g.Matches input r p b q :=
  h.rule_induction fun r p b i hi => hk r p b i (hi.mono (·.2))

variable [DecidableEq R]

/-- **The grammars mean the same** at every position of the input. -/
theorem matches_iff (hk : g'.Keeps g input) (k : g'.Ranking) (hp : p ≤ input.utf8ByteSize) :
    g'.Matches input r p b q ↔ g.Matches input r p b q := by
  refine ⟨hk.matches_of, fun h => ?_⟩
  obtain ⟨b', q', h'⟩ := k.exists_matches hp (.apply r)
  have hrule := Expr.matches_apply.mp h'
  -- The answer that `g'` has is one of `g`, hence the one that is asked for.
  obtain ⟨rfl, rfl⟩ := h.unique (hk.matches_of hrule)
  exact hrule

end Grammar.Keeps

variable [DecidableEq R] {d d' : Nat}

/-- Without left recursion, a rule that is applied on a fresh run comes to the outcome that the
grammar means, unless the bound on nesting is hit. -/
theorem Run.matches_of_apply (k : g.Ranking) (hp : p ≤ input.utf8ByteSize)
    (hex : ((Run.startAt g input d p).apply r).2.isExhausted = false) :
    ∃ o, ((Run.startAt g input d p).apply r).1 = o ∧ o.span.start = p ∧
      g.Matches input r p o.matched o.stop := by
  have hv := Run.valid_startAt (g := g) (d := d) hp
  have hf : ∀ P, (Run.startAt g input d p).state.Records P := fun P =>
    State.Records.initial.of_memo rfl
  obtain ⟨o, t, h, heq, hd⟩ := (Run.startAt g input d p).exists_apply hv r
  rw [heq] at hex ⊢
  obtain ⟨-, hm, -⟩ := hd.descends k hv (hf _) fun r hr => absurd hr List.not_mem_nil
  exact ⟨o, rfl, (hd.sound hv).2.1.start_eq, (hd.faithful hex hm (hf _)).2.2.2⟩

/-- **Runs of the grammars come to the same outcomes**, wherever a rule is applied on fresh ones and
whatever their bounds on nesting are, unless one of them hits its bound. -/
theorem Grammar.Keeps.apply_eq (hk : g'.Keeps g input) (k : g.Ranking) (k' : g'.Ranking)
    (hp : p ≤ input.utf8ByteSize)
    (hex : ((Run.startAt g input d p).apply r).2.isExhausted = false)
    (hex' : ((Run.startAt g' input d' p).apply r).2.isExhausted = false) :
    ((Run.startAt g input d p).apply r).1 = ((Run.startAt g' input d' p).apply r).1 := by
  obtain ⟨⟨matched, span⟩, heq, hstart, hm⟩ := Run.matches_of_apply k hp hex
  obtain ⟨⟨matched', span'⟩, heq', hstart', hm'⟩ := Run.matches_of_apply k' hp hex'
  obtain ⟨hmatched, hstop⟩ := (hk.matches_of hm').unique hm
  rw [heq, heq', Outcome.mk.injEq]
  refine ⟨hmatched, ?_⟩
  obtain ⟨start, stop⟩ := span
  obtain ⟨start', stop'⟩ := span'
  rw [Span.mk.injEq]
  exact ⟨hstart.trans hstart'.symm, hstop⟩

end AddressGrammar.Peg
