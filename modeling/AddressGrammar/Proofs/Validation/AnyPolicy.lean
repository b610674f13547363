import AddressGrammar.Proofs.Validation.Narrowing

/-!
# Which policies narrow a grammar

A policy on domains is meant to make a grammar accept less. In the legacy grammar every policy does:
a domain is asked about once, and if it is refused nothing else can be made of it.

The modern grammar asks about two forms of a domain, and they need not end at the same place. The
dotted form stops in front of white space that a dot follows, the obsolete form goes on behind it. A
policy that refuses the shorter text and accepts the longer one makes the choice fall on the second
form, which the plain grammar never comes to, since it is content with the first. So such a policy
makes inputs acceptable that are not acceptable without it. Nothing else does: where a domain can
stand, a policy that does not prefer the second form only narrows.

## Main definitions

* `Peg.Grammar.TakesAll` — a rule takes a whole input in a fresh run below the bound on nesting
* `Peg.Grammar.Narrows` — a grammar whose rules take no whole input that those of another one reject
* `spacedPolicy` — a policy that prefers the obsolete form

## Main results

* `not_narrows` — not every policy narrows both grammars
* `narrows_of_steady` — every policy narrows the legacy grammar, and one that is steady on an input
  narrows the modern grammar on it
-/

namespace AddressGrammar

open Text Peg

namespace Peg.Grammar

variable {R : Type} [DecidableEq R]

/-- In a fresh run, the parse of a rule succeeds below the bound on nesting and leaves nothing. -/
def TakesAll (g : Grammar R) (input : String) (maxDepth : Nat) (r : R) : Prop :=
  ((Run.start g input maxDepth).parse r).1 = true ∧
    ((Run.start g input maxDepth).parse r).2.atEnd = true

/-- What a rule of the one grammar takes as a whole is taken as a whole by the same rule of the
other one, in any runs that do not hit their bounds on nesting. -/
def Narrows (g g' : Grammar R) (input : String) : Prop :=
  ∀ r d d', g.TakesAll input d r →
    ((Run.start g' input d').parse r).2.isExhausted = false → g'.TakesAll input d' r

end Peg.Grammar

namespace Validation

section Grammars

variable {R : Type} [DecidableEq R] {g g' : Grammar R} {input : String} {d : Nat} {r : R}

/-- The evaluation behind a parse. -/
theorem exists_derives_parse (g : Grammar R) (input : String) (d : Nat) (r : R) :
    ∃ o t h, Derives ⟨g, input, d⟩ (.rule r .initial o t) h ∧
      ((Run.start g input d).parse r).2.isExhausted = t.exhausted ∧
      (g.TakesAll input d r ↔
        o.matched = true ∧ t.exhausted = false ∧ input.utf8ByteSize ≤ t.pos) := by
  obtain ⟨o, t, h, heq, hd⟩ := (Run.start g input d).exists_apply (Run.valid_start ..) r
  refine ⟨o, t, h, hd, by rw [Run.parse, heq]; rfl, ?_⟩
  rw [Grammar.TakesAll, Run.parse, heq]
  simp [Run.atEnd, Run.isExhausted, Run.pos, Run.start, byteAt?_eq_none_iff, and_assoc]

/-- **A grammar narrows the one without its policies** if no rule takes a whole input after it has
come to a refusal. -/
theorem narrows_unchecked (k : g.Ranking) (k' : g'.Ranking)
    (hbody : ∀ r, g'.body r = (g.body r).unchecked)
    (hwhole : ∀ r, g.Refuses input r 0 → ¬g.Matches input r 0 true input.utf8ByteSize) :
    g.Narrows g' input := by
  intro r d d' htakes hex
  obtain ⟨o, t, h, hd, -, hiff⟩ := exists_derives_parse g input d r
  obtain ⟨hb, hx, hend⟩ := hiff.mp htakes
  obtain ⟨t₁, h₁, hd₁, hx₁, hpos₁⟩ := exists_unchecked k hbody hwhole hd hb hx hend
  -- both runs of the plain grammar answer what it means
  obtain ⟨-, hle₁, hplain₁⟩ := plain_of_derives k' hd₁
  obtain ⟨hstop₁, hmatch₁⟩ := hplain₁ hx₁
  obtain ⟨o', t', h', hd', hex', hiff'⟩ := exists_derives_parse g' input d' r
  rw [hex'] at hex
  obtain ⟨-, -, hplain'⟩ := plain_of_derives k' hd'
  obtain ⟨hstop', hmatch'⟩ := hplain' hex
  obtain ⟨hb', hstop⟩ := hmatch₁.unique hmatch'
  refine hiff'.mpr ⟨hb'.trans hb, hex, ?_⟩
  omega

end Grammars

/-- A policy that accepts a single text, in which white space stands in front of a dot. -/
def spacedPolicy : Policy := ⟨"spaced", fun text => text == "a .b"⟩

/-- **Not every policy narrows.** With this one the modern grammar accepts a bare address whose
domain it cuts off at the white space without it. -/
theorem not_narrows :
    ¬∀ (policy : Policy) (input : String),
      (Modern.grammar (some policy)).Narrows (Modern.grammar none) input ∧
        (Legacy.grammar (some policy)).Narrows (Legacy.grammar none) input := by
  intro h
  have hchecked : (Modern.grammar (some spacedPolicy)).TakesAll "x@a .b" 256 .onlyAddrSpec :=
    ⟨by decide +kernel, by decide +kernel⟩
  have hplain := (h spacedPolicy "x@a .b").1 .onlyAddrSpec 256 256 hchecked (by decide +kernel)
  exact absurd hplain.1 (by decide +kernel)

/-- **A policy narrows unless it prefers the obsolete form.** Every policy narrows the legacy
grammar. The modern grammar is narrowed on every input in which the policy, where a domain can
begin, refuses the text of the obsolete form whenever it refuses that of the dotted form. -/
theorem narrows_of_steady :
    (∀ (policy : Policy) (input : String),
      (Legacy.grammar (some policy)).Narrows (Legacy.grammar none) input) ∧
    ∀ (policy : Policy) (input : String), Modern.Steady policy input →
      (Modern.grammar (some policy)).Narrows (Modern.grammar none) input := by
  refine ⟨fun policy input => ?_, fun policy input hsteady => ?_⟩
  · exact narrows_unchecked (Legacy.ranking _) (Legacy.ranking none) (Legacy.body_unchecked policy)
      fun _ => Legacy.not_takes_of_refuses
  · exact narrows_unchecked (Modern.ranking _) (Modern.ranking none) (Modern.body_unchecked policy)
      fun _ h => Modern.not_takes_all_of_refuses hsteady h (.inl rfl)

/-- The policy for host names is steady, as everything is that keeps clear of comments and white
space. -/
theorem narrows_of_steady_hostname :
    Modern.Steady Hostname.policy "a.b@c.d" ∧
    (Modern.grammar (some Hostname.policy)).TakesAll "a.b@c.d" 64 .root ∧
    (Modern.grammar none).TakesAll "a.b@c.d" 32 .root ∧
    (Legacy.grammar (some Hostname.policy)).TakesAll "a.b@c.d" 64 .root ∧
    (Legacy.grammar none).TakesAll "a.b@c.d" 32 .root := by
  have hsteady := Modern.keepsClear_hostname.steady "a.b@c.d"
  have hmodern : (Modern.grammar (some Hostname.policy)).TakesAll "a.b@c.d" 64 .root :=
    ⟨by decide +kernel, by decide +kernel⟩
  have hlegacy : (Legacy.grammar (some Hostname.policy)).TakesAll "a.b@c.d" 64 .root :=
    ⟨by decide +kernel, by decide +kernel⟩
  exact ⟨hsteady, hmodern, narrows_of_steady.2 _ _ hsteady _ _ _ hmodern (by decide +kernel),
    hlegacy, narrows_of_steady.1 _ _ _ _ _ hlegacy (by decide +kernel)⟩

end Validation

end AddressGrammar
