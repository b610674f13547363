import AddressGrammar.Proofs.Modern.Marks

/-!
# The elements of a list, inside the list

An address that is a whole text is an address as well where it stands in a list. Behind it there is a
comma now, or still nothing, and all that the rules see of what follows is this comma. Two things
might go wrong. A rule might have failed in the text for want of a mark that the list goes on to
supply; but a text that is an address leaves no mark open, and no rule is asked for between two
marks. And a rule that takes commas might go on with the next element; but in an address these are
rules for routes and groups, and they have to find a colon or a semicolon at their end.

So rules that know no commas do the same in the text and in the list, whether they match or fail.
Rules that know commas match in the list if they match in the text.

## Main definitions

* `Lexes` — from a position on, all marks of a text are closed
* `inElement` — the rules that know no commas
* `CarriedInto` — an expression does the same inside the list

## Main results

* `lexes_iff_of_takes` — rules do not end between two marks
* `Element.carried` — rules without commas do the same inside the list
* `Element.takes_address` — an address is one inside the list
-/

namespace AddressGrammar.Modern

open Text Peg Peg.Expr

/-! ### Closed marks -/

/-- From the position on, the text is made of plain bytes and of what stands between two marks, up to
its end. -/
inductive Lexes (policy : Option Policy) (s : String) : Nat → Prop where
  | done : Lexes policy s s.utf8ByteSize
  | byte {p} (hb : classAt s plainBytes p = true) (hrest : Lexes policy s (p + 1)) :
      Lexes policy s p
  | enclosed {p q} (m : Mark) (hm : m.enclosed.Matches s ((grammar policy).Matches s) p true q)
      (hrest : Lexes policy s q) : Lexes policy s p

variable {policy : Option Policy} {s t input : String} {off p q i j : Nat} {r : Rule}

namespace Lexes

theorem opens_of_enclosed {m : Mark}
    (hm : m.enclosed.Matches s ((grammar policy).Matches s) p true q) :
    byteAt? s p = some m.opens := (Mark.matches_enclosed.mp hm).1

theorem not_opens (hb : classAt s plainBytes p = true) (m : Mark) : byteAt? s p ≠ some m.opens :=
  byteAt?_ne_of_classAt hb (by cases m <;> decide)

theorem le_size (h : Lexes policy s p) : p ≤ s.utf8ByteSize := by
  cases h with
  | done => exact Nat.le_refl _
  | byte hb => exact Nat.le_of_lt (lt_of_classAt hb)
  | enclosed m hm => exact Nat.le_of_lt (lt_of_byteAt?_eq_some (opens_of_enclosed hm))

theorem next (h : Lexes policy s p) (hb : classAt s plainBytes p = true) :
    Lexes policy s (p + 1) := by
  cases h with
  | done => exact absurd (lt_of_classAt hb) (Nat.lt_irrefl _)
  | byte _ hrest => exact hrest
  | enclosed m hm => exact absurd (opens_of_enclosed hm) (not_opens hb m)

/-- A mark is closed. -/
theorem of_opens (h : Lexes policy s p) {m : Mark} (hp : byteAt? s p = some m.opens) :
    ∃ q, m.enclosed.Matches s ((grammar policy).Matches s) p true q ∧ Lexes policy s q := by
  cases h with
  | done => exact absurd (lt_of_byteAt?_eq_some hp) (Nat.lt_irrefl _)
  | byte hb => exact absurd hp (not_opens hb m)
  | @enclosed _ q m' hm hrest =>
    have heq := Option.some.inj (hp.symm.trans (opens_of_enclosed hm))
    obtain rfl : m = m' := by cases m <;> cases m' <;> first | rfl | cases heq
    exact ⟨q, hm, hrest⟩

end Lexes

theorem lexes_iff_of_classAt (hb : classAt s plainBytes p = true) :
    Lexes policy s p ↔ Lexes policy s (p + 1) :=
  ⟨fun h => h.next hb, .byte hb⟩

theorem lexes_iff_of_enclosed {m : Mark}
    (hm : m.enclosed.Matches s ((grammar policy).Matches s) p true q) :
    Lexes policy s p ↔ Lexes policy s q := by
  refine ⟨fun h => ?_, .enclosed m hm⟩
  obtain ⟨q', hm', hq'⟩ := h.of_opens (Lexes.opens_of_enclosed hm)
  obtain ⟨-, rfl⟩ := hm.unique Grammar.matches_unique hm'
  exact hq'

/-! ### Quoted strings and literals -/

/-- What stands between two marks, with gaps around it. -/
def Mark.spaced (m : Mark) : Expr Rule := seq [optCfws, m.enclosed, optCfws]

/-- The rule for this, if there is one. -/
def Mark.spacedRule? : Mark → Option Rule
  | paren => none
  | quote => some .quotedString
  | bracket => some .domainLiteral

theorem Mark.matches_spaced {m : Mark} (hr : m.spacedRule? = some r)
    {call : Rule → Nat → Bool → Nat → Prop} {b : Bool} :
    ((grammar policy).body r).Matches input call p b q ↔ m.spaced.Matches input call p b q := by
  have hbody : (grammar policy).body r =
      attempt (chain [optCfws, exactly m.opens, m.parts, optFws, exactly m.closes, optCfws]) := by
    cases m <;> cases hr <;> rfl
  -- The second gap is grouped with the marks in front of it.
  have hchain : ∀ {b q}, (chain [optCfws, exactly m.opens, m.parts, optFws, exactly m.closes,
      optCfws]).Matches input call p b q ↔
      (chain [optCfws, m.enclosed, optCfws]).Matches input call p b q :=
    matches_andThen_congr fun _ _ _ =>
      .trans (matches_andThen_congr fun _ _ _ =>
        .trans (matches_andThen_congr fun _ _ _ => matches_andThen_assoc.symm)
          matches_andThen_assoc.symm) matches_andThen_assoc.symm
  rw [hbody]
  cases b with
  | true => exact matches_attempt.trans (hchain.trans matches_attempt.symm)
  | false =>
    refine misses_attempt.trans (.trans ?_ misses_attempt.symm)
    exact and_congr_right fun _ => exists_congr fun _ => hchain

/-! ### Rules do not end between two marks -/

/-- The rules that are not asked for between two marks. -/
def isOutside : Rule → Bool
  | .noWsCtl | .text | .quotedPair | .ctext | .ccontent | .qtext | .qcontent | .utext
  | .unstructured | .dcontent | .dtext | .obsQp | .obsText | .obsChar | .obsUtext => false
  | _ => true

/-- The rules that are made of what stands between two marks. -/
def isMarked : Rule → Bool
  | .comment | .quotedString | .domainLiteral => true
  | _ => false

theorem covered_outside (policy : Option Policy) (hr : isOutside r = true)
    (hm : isMarked r = false) :
    ((grammar policy).body r).covered plainBytes.includes isOutside = true := by
  have hnone : (body policy r).covered plainBytes.includes isOutside =
      (body none r).covered plainBytes.includes isOutside := by
    cases policy <;> cases r <;> rfl
  refine hnone.trans ?_
  cases r <;> first
    | decide
    | exact absurd hr (by decide)
    | exact absurd hm (by decide)

/-- **All marks are closed behind what a rule takes** if they are in front of it, and the other way
round. -/
theorem lexes_iff_of_takes (hr : isOutside r = true) (h : Takes policy s r p q) :
    Lexes policy s p ↔ Lexes policy s q := by
  let call (r : Rule) (p : Nat) (b : Bool) (q : Nat) : Prop :=
    (grammar policy).Matches s r p b q ∧
      (b = true → isOutside r = true → (Lexes policy s p ↔ Lexes policy s q))
  have hcovered : ∀ {e : Expr Rule} {p q}, e.covered plainBytes.includes isOutside = true →
      e.Matches s call p true q → (Lexes policy s p ↔ Lexes policy s q) := fun he h =>
    h.covered (fun _ => .rfl) .trans (fun hc h => lexes_iff_of_classAt (classAt_of_includes hc h))
      (fun _ _ _ h => h.1.eq_of_missed) (fun hr h => h.2 rfl hr) rfl he
  have henclosed : ∀ {m : Mark} {p q}, m.enclosed.Matches s call p true q →
      (Lexes policy s p ↔ Lexes policy s q) := fun h => lexes_iff_of_enclosed (h.mono And.left)
  have hspaced : ∀ {m : Mark} {r : Rule} {p q}, m.spacedRule? = some r →
      ((grammar policy).body r).Matches s call p true q →
      (Lexes policy s p ↔ Lexes policy s q) := by
    intro m r p q hr h
    obtain ⟨i, hgap, h⟩ := matches_andThen.mp (matches_attempt.mp ((Mark.matches_spaced hr).mp h))
    obtain ⟨j, hmarks, hgap'⟩ := matches_andThen.mp h
    exact (hcovered rfl hgap).trans ((henclosed hmarks).trans (hcovered rfl hgap'))
  have hstep : ∀ r p b i, ((grammar policy).body r).Matches s call p b i →
      b = true → isOutside r = true →
        (Lexes policy s p ↔ Lexes policy s (if b then i else p)) := by
    rintro r p b i hi rfl hr
    cases hm : isMarked r with
    | false => exact hcovered (covered_outside policy hr hm) hi
    | true =>
      cases r with
      | comment => exact henclosed (m := .paren) (matches_attempt.mp hi)
      | quotedString => exact hspaced (m := .quote) rfl hi
      | domainLiteral => exact hspaced (m := .bracket) rfl hi
      | _ => cases hm
  exact h.rule_induction hstep rfl hr

/-- A text that is an address leaves no mark open. -/
theorem lexes_of_takes (hr : isOutside r = true) (h : Takes policy s r p s.utf8ByteSize) :
    Lexes policy s p := (lexes_iff_of_takes hr h).mpr .done

/-! ### Rules without commas -/

/-- From where all marks are closed, the expression does the same inside the list. -/
abbrev CarriedInto (policy : Option Policy) (s t : String) (off : Nat) (e : Expr Rule) : Prop :=
  e.Carried s t ((grammar policy).Matches s) ((grammar policy).Matches t) off (Lexes policy s)

/-- White space and comments, rule by rule. -/
def isGapRule : Rule → Bool
  | .cfws => true
  | r => isWhite r

/-- Words, names and bare addresses, and their parts. -/
def isWording : Rule → Bool
  | .alpha | .digit | .atext | .atom | .dotAtom | .dotAtomText | .word | .phrase | .displayName
  | .addrSpec | .localPart | .domain | .obsPhrase | .obsLocalPart | .obsDomain => true
  | _ => false

/-- The rules that know no commas. -/
def inElement (r : Rule) : Bool := isGapRule r || isMarked r || isWording r

namespace Element

variable (h : Element s t off)
include h

theorem window_lexes (policy : Option Policy) : Window isPlain (Lexes policy s) s t off where
  classAt_eq := fun hc hp => h.window.classAt_eq hc hp.le_size
  next := fun hc hp hb =>
    hp.next (classAt_of_includes (Bool.and_eq_true_iff.mp hc).1 hb)
  slice?_eq := fun hp hq => h.placed.slice?_eq hp.le_size hq.le_size

/-- A mark is closed in the text, so it is closed by the same mark in the larger one. -/
theorem carried_enclosed (policy : Option Policy) (m : Mark) :
    CarriedInto policy s t off m.enclosed := by
  intro p b q hp hm
  cases b with
  | true => exact ⟨h.enclosed hm, (lexes_iff_of_enclosed hm).mp hp⟩
  | false =>
    have hopen : byteAt? s p ≠ some m.opens := fun hopen => by
      obtain ⟨q', hm', -⟩ := hp.of_opens hopen
      cases (hm'.unique Grammar.matches_unique hm).1
    rcases misses_andThen.mp hm with hmiss | ⟨i, hmark, -⟩
    · obtain ⟨-, rfl⟩ := misses_exactly.mp hmiss
      have hclass : classAt t (.single m.opens) (off + q) = classAt s (.single m.opens) q :=
        h.classAt_eq (by cases m <;> decide) hp.le_size
      have hopen' : byteAt? t (off + q) ≠ some m.opens := fun hopen' =>
        hopen (classAt_single.mp (hclass.symm.trans (classAt_single.mpr hopen')))
      exact ⟨.andThen_miss (misses_exactly.mpr ⟨hopen', rfl⟩), hp⟩
    · exact absurd (matches_exactly.mp hmark).1 hopen

theorem carried_comment (policy : Option Policy) :
    CarriedInto policy s t off (apply .comment) :=
  Grammar.carried_rule (carried_attempt (h.carried_enclosed policy .paren))

theorem carried_gapRule (policy : Option Policy) {r : Rule} (hr : isGapRule r = true) :
    CarriedInto policy s t off (apply r) := by
  refine Grammar.carried_rules (h.window_lexes policy) (· == .comment) isGapRule
    (fun r hr => ?_) (fun r hr => ?_) r hr
  · obtain rfl := eq_of_beq hr
    exact h.carried_comment policy
  · refine (reads_body _ _ policy r).trans ?_
    cases r <;> first
      | decide
      | cases hr

theorem carried_spaced (policy : Option Policy) {m : Mark} {r : Rule}
    (hr : m.spacedRule? = some r) : CarriedInto policy s t off (apply r) := by
  have hgap : CarriedInto policy s t off optCfws :=
    carried_of_reads (h.window_lexes policy) (fun _ => h.carried_gapRule policy) rfl
  have hspaced := carried_attempt
    (carried_andThen hgap (carried_andThen (h.carried_enclosed policy m) hgap))
  refine Grammar.carried_rule fun p b q hp hm => ?_
  obtain ⟨hm', hq⟩ := hspaced p b q hp ((Mark.matches_spaced hr).mp hm)
  exact ⟨(Mark.matches_spaced hr).mpr hm', hq⟩

/-- **Rules without commas do the same inside the list.** -/
theorem carried_rule (policy : Option Policy) {r : Rule} (hr : inElement r = true) :
    CarriedInto policy s t off (apply r) := by
  have hgiven : ∀ r, (isGapRule r || isMarked r) = true →
      CarriedInto policy s t off (apply r) := by
    intro r hr
    rcases Bool.or_eq_true_iff.mp hr with hgap | hmarked
    · exact h.carried_gapRule policy hgap
    · cases r with
      | comment => exact h.carried_comment policy
      | quotedString => exact h.carried_spaced policy (m := .quote) rfl
      | domainLiteral => exact h.carried_spaced policy (m := .bracket) rfl
      | _ => cases hmarked
  rcases Bool.or_eq_true_iff.mp hr with hr | hr
  · exact hgiven r hr
  · refine Grammar.carried_rules (h.window_lexes policy) _ isWording hgiven (fun r hr => ?_) r hr
    refine (reads_body _ _ policy r).trans ?_
    cases r <;> first
      | decide
      | cases hr

/-- Expressions that are made of them. -/
theorem carried (policy : Option Policy) {e : Expr Rule} (he : e.reads isPlain inElement = true) :
    CarriedInto policy s t off e :=
  carried_of_reads (h.window_lexes policy) (fun _ => h.carried_rule policy) he

end Element

end AddressGrammar.Modern
