import AddressGrammar.Proofs.Peg.Trimming
import AddressGrammar.Proofs.Validation.PlainCheck

/-!
# Obsolete forms that are never reached

Local parts, domains, phrases and quoted pairs have an obsolete form as their last alternative. Since
alternatives are tried in order, it only matters where all earlier ones have failed, and there it
fails as well:

* an obsolete local part begins with a word, which is an atom or a quoted string, and where a dotted
  atom fails, an atom does;
* an obsolete domain begins with an atom;
* an obsolete phrase begins with a word, and so does every phrase;
* an obsolete quoted pair begins with a backslash, and behind a backslash a plain quoted pair never
  fails, since obsolete text may be empty.

So the grammar means the same without these alternatives. In particular, dots with comments, white
space or quotation marks between them are never matched through a local part or a domain. Elsewhere
in the grammar obsolete forms do matter.

## Main definitions

* `currentBody`, `currentForms` — the grammar without the four alternatives

## Main results

* `keeps_currentForms` — where the other alternatives fail, the obsolete one does
* `obsolete_forms_unreached` — the grammars come to the same outcomes
-/

namespace AddressGrammar.Modern

open Peg Peg.Expr Rule

/-- The parsing expression of a rule, without the obsolete alternatives of local parts, domains,
phrases and quoted pairs. -/
def currentBody : Rule → Expr Rule
  | quotedPair => seq [token '\\', apply text]
  | phrase => many1 (apply word)
  | localPart => choice [dotAtom, quotedString]
  | domain => alt [apply dotAtom, apply domainLiteral]
  | r => body none r

/-- The modern grammar without these alternatives, and without a policy on domains. -/
def currentForms : Grammar Rule := { grammar none with body := currentBody }

/-- It has no left recursion either. -/
def currentRanking : currentForms.Ranking where
  null := mayBeEmpty
  rank := rank
  null_of_nullable r := by cases r <;> decide
  rank_lt r := by cases r <;> decide

variable {input : String} {p q i : Nat} {b : Bool}

/-! ### What never fails -/

section

variable {call : Rule → Nat → Bool → Nat → Prop} {e₁ e₂ e₃ : Expr Rule}

/-- A choice may be made between the first two alternatives first. -/
theorem matches_orElse_assoc : (orElse e₁ (orElse e₂ e₃)).Matches input call p b q ↔
    (orElse (orElse e₁ e₂) e₃).Matches input call p b q := by
  cases b
  · simp only [misses_orElse]
    grind
  · simp only [matches_orElse, misses_orElse]
    grind

end

/-- Obsolete text may be empty. -/
theorem not_misses_obsText : ¬(grammar none).Matches input obsText p false q := by
  intro h
  obtain ⟨j, hj, -⟩ := Grammar.matches_iff.mp h
  obtain ⟨-, k, hk⟩ := misses_attempt.mp hj
  rcases misses_andThen.mp hk with hlfs | ⟨l, -, hrest⟩
  · exact not_misses_many hlfs
  · rcases misses_andThen.mp hrest with hcrs | ⟨m, -, hchars⟩
    · exact not_misses_many hcrs
    · exact not_misses_many hchars

/-- So text never fails. -/
theorem not_misses_text : ¬(grammar none).Matches input text p false q := by
  intro h
  obtain ⟨j, hj, -⟩ := Grammar.matches_iff.mp h
  obtain ⟨k, -, hobs⟩ := misses_orElse.mp hj
  exact not_misses_obsText (matches_apply.mp hobs)

/-! ### Where the other alternatives fail -/

/-- Where a dotted atom fails, atom characters are missing behind the gap, so an atom fails. -/
theorem misses_atom (h : (grammar none).Matches input dotAtom p false q) :
    (grammar none).Matches input atom p false p := by
  obtain ⟨j, hj, -⟩ := Grammar.matches_iff.mp h
  obtain ⟨-, k, hk⟩ := misses_attempt.mp hj
  rcases misses_andThen.mp hk with hgap | ⟨l, hgap, hrest⟩
  · exact absurd hgap not_misses_opt
  · rcases misses_andThen.mp hrest with htext | ⟨m, -, hbehind⟩
    · obtain ⟨n, hn, -⟩ := Grammar.matches_iff.mp (matches_apply.mp htext)
      obtain ⟨-, o, ho⟩ := misses_attempt.mp hn
      rcases misses_andThen.mp ho with hchars | ⟨_, -, hdots⟩
      · exact .of_body (.attempt_miss (.andThen hgap (.andThen_miss hchars)))
      · exact absurd hdots not_misses_many
    · exact absurd hbehind not_misses_opt

/-- A rule whose first part is a rule fails where that one does. -/
theorem misses_of_first {r first : Rule} {rest : Expr Rule}
    (hbody : body none r = attempt (andThen (apply first) rest))
    (h : (grammar none).Matches input first p false q) :
    (grammar none).Matches input r p false p := by
  have hmiss : (body none r).Matches input ((grammar none).Matches input) p false p := by
    rw [hbody]
    exact .attempt_miss (.andThen_miss (.apply h))
  exact .of_body hmiss

theorem misses_word (hatom : (grammar none).Matches input atom p false p)
    (hquoted : (grammar none).Matches input quotedString p false p) :
    (grammar none).Matches input word p false p :=
  .of_body (.orElse_next (.apply hatom) (.apply hquoted))

theorem misses_obsLocalPart
    (h : (currentBody localPart).Matches input ((grammar none).Matches input) p false i) :
    i = p ∧ (grammar none).Matches input obsLocalPart p false p := by
  obtain ⟨j, hdotted, hquoted⟩ := misses_orElse.mp h
  have hdotted := matches_apply.mp hdotted
  have hquoted := matches_apply.mp hquoted
  obtain rfl := hdotted.eq_of_missed
  obtain rfl := hquoted.eq_of_missed
  exact ⟨rfl, misses_of_first rfl (misses_word (misses_atom hdotted) hquoted)⟩

theorem misses_obsDomain
    (h : (currentBody domain).Matches input ((grammar none).Matches input) p false i) :
    i = p ∧ (grammar none).Matches input obsDomain p false p := by
  obtain ⟨j, hdotted, hliteral⟩ := misses_orElse.mp h
  have hdotted := matches_apply.mp hdotted
  obtain rfl := hdotted.eq_of_missed
  exact ⟨(matches_apply.mp hliteral).eq_of_missed, misses_of_first rfl (misses_atom hdotted)⟩

theorem misses_obsPhrase
    (h : (currentBody phrase).Matches input ((grammar none).Matches input) p false i) :
    i = p ∧ (grammar none).Matches input obsPhrase p false p := by
  obtain ⟨rfl, j, hword⟩ := misses_many1.mp h
  exact ⟨rfl, misses_of_first rfl (matches_apply.mp hword)⟩

theorem misses_obsQp
    (h : (currentBody quotedPair).Matches input ((grammar none).Matches input) p false i) :
    i = p ∧ (grammar none).Matches input obsQp p false p := by
  obtain ⟨rfl, j, hj⟩ := misses_attempt.mp h
  rcases misses_andThen.mp hj with hback | ⟨k, -, htext⟩
  · exact ⟨rfl, .of_body (.attempt_miss (.andThen_miss hback))⟩
  · exact absurd (matches_apply.mp htext) not_misses_text

/-! ### The grammar without them -/

/-- A last alternative that fails where the others do may be left out. -/
theorem matches_of_currentBody {r last : Rule}
    (hbody : ∀ p b i, (orElse (currentBody r) (apply last)).Matches input
      ((grammar none).Matches input) p b i →
        (body none r).Matches input ((grammar none).Matches input) p b i)
    (hlast : ∀ p i, (currentBody r).Matches input ((grammar none).Matches input) p false i →
      i = p ∧ (grammar none).Matches input last p false p)
    (h : (currentBody r).Matches input ((grammar none).Matches input) p b i) :
    (grammar none).Matches input r p b (if b then i else p) := by
  cases b with
  | true => exact .of_body (hbody _ _ _ (.orElse h))
  | false =>
    obtain ⟨rfl, hmiss⟩ := hlast p i h
    exact .of_body (hbody _ _ _ (.orElse_next h (.apply hmiss)))

/-- **Each rule does without the obsolete alternatives what it does with them**, given the same of
the rules inside. -/
theorem keeps_currentForms (input : String) : currentForms.Keeps (grammar none) input := by
  intro r p b i h
  cases r with
  | quotedPair => exact matches_of_currentBody (fun _ _ _ h => h) (fun _ _ => misses_obsQp) h
  | phrase => exact matches_of_currentBody (fun _ _ _ h => h) (fun _ _ => misses_obsPhrase) h
  | localPart =>
    exact matches_of_currentBody (fun _ _ _ => matches_orElse_assoc.mpr)
      (fun _ _ => misses_obsLocalPart) h
  | domain =>
    exact matches_of_currentBody (fun _ _ _ => matches_orElse_assoc.mpr)
      (fun _ _ => misses_obsDomain) h
  | _ => exact .of_body h

/-- **The obsolete alternatives of local parts, domains, phrases and quoted pairs are never
reached.** At every position of every input, each rule of the modern grammar comes to the same
outcome with and without them, in fresh runs of any two bounds on nesting that are not hit. The
rules mean the same, and what one of them takes is taken by another alternative. -/
theorem obsolete_forms_unreached (input : String) {p : Nat} (hp : p ≤ input.utf8ByteSize)
    (r : Rule) :
    (∀ d d', ((Run.startAt (grammar none) input d p).apply r).2.isExhausted = false →
      ((Run.startAt currentForms input d' p).apply r).2.isExhausted = false →
        ((Run.startAt (grammar none) input d p).apply r).1 =
          ((Run.startAt currentForms input d' p).apply r).1) ∧
    (∀ b q, (grammar none).Matches input r p b q ↔ currentForms.Matches input r p b q) ∧
    ∀ q, (grammar none).Matches input r p true q →
      (currentBody r).Matches input ((grammar none).Matches input) p true q := by
  have hk := keeps_currentForms input
  refine ⟨fun d d' hex hex' => ?_, fun b q => ?_, fun q h => ?_⟩
  · exact hk.apply_eq (ranking none) currentRanking hp hex hex'
  · exact (hk.matches_iff currentRanking hp).symm
  · have hcurrent := Grammar.matches_body.mp ((hk.matches_iff currentRanking hp).mpr h)
    exact hcurrent.mono fun h => hk.matches_of h

/-- Dots with blanks around them: a local part ends in front of the first one, with and without its
obsolete form, which would go on. -/
theorem obsolete_forms_unreached_spaced_dots :
    ((Run.startAt (grammar none) "a . b@c" 32 0).apply localPart).1 =
      ((Run.startAt currentForms "a . b@c" 24 0).apply localPart).1 ∧
    ((Run.startAt (grammar none) "a . b@c" 32 0).apply localPart).1 = .hit 0 2 ∧
    ((Run.startAt (grammar none) "a . b@c" 32 0).apply obsLocalPart).1 = .hit 0 5 := by
  refine ⟨?_, by decide +kernel, by decide +kernel⟩
  exact (obsolete_forms_unreached "a . b@c" (Nat.zero_le _) localPart).1 32 24
    (by decide +kernel) (by decide +kernel)

end AddressGrammar.Modern
