import AddressGrammar.Proofs.Peg.LeftCalls
import AddressGrammar.Proofs.Validation.Verdict

/-!
# Checks and the plain meaning of the grammars

Neither address grammar is left-recursive, so a check that does not hit the bound on nesting answers
by the plain meaning of its grammar: the table saves work and changes nothing.

## Main definitions

* `Modern.ranking`, `Legacy.ranking` — left calls descend in both grammars, under any policy
* `Peg.Grammar.MatchesWhole` — the rule of a name takes a whole input
* `Validator.MatchesPlainly` — the same for the grammar of a validator

## Main results

* `checkWhole_eq_ok_iff` — a check that is not too deep accepts what the rule takes
* `Peg.packrat_sound` — what runs remember and answer, and what checks accept, is plain
-/

namespace AddressGrammar

open Peg

namespace Modern

/-- The rules that may match the empty text. -/
def mayBeEmpty : Rule → Bool
  | .text | .obsText | .utext | .obsUtext | .unstructured => true
  | _ => false

/-- A ranking of the rules. A comment and what stands behind a fixed byte rank lowest, whole inputs
highest. -/
def rank : Rule → Nat
  | .wsp | .lf | .cr | .alpha | .digit | .noWsCtl | .obsChar | .obsQp | .comment | .obsDomainList => 0
  | .crlf | .obsText | .quotedPair | .ctext | .atext | .qtext | .dtext => 1
  | .text | .obsUtext | .obsFws | .ccontent | .dotAtomText | .qcontent | .dcontent => 2
  | .fws | .utext => 3
  | .cfws | .unstructured => 4
  | .atom | .dotAtom | .quotedString | .domainLiteral | .obsAngleAddr | .obsRoute => 5
  | .word | .angleAddr | .obsDomain => 6
  | .obsPhrase | .obsLocalPart | .domain => 7
  | .phrase | .localPart => 8
  | .displayName | .addrSpec | .obsPhraseList => 9
  | .nameAddr | .group | .onlyAddrSpec => 10
  | .mailbox => 11
  | .address => 12
  | .obsMboxList | .obsAddrList | .root => 13
  | .mailboxList | .addressList => 14
  | .onlyAddressList => 15

/-- A policy on domains stands in the way of no left call. -/
theorem leftCalls_body (policy : Option Policy) (r : Rule) :
    (body policy r).leftCalls mayBeEmpty = (body none r).leftCalls mayBeEmpty := by
  cases policy <;> cases r <;> rfl

theorem nullable_body (policy : Option Policy) (r : Rule) :
    (body policy r).nullable mayBeEmpty = (body none r).nullable mayBeEmpty := by
  cases policy <;> cases r <;> rfl

/-- **The modern grammar has no left recursion.** -/
def ranking (policy : Option Policy) : (grammar policy).Ranking where
  null := mayBeEmpty
  rank := rank
  null_of_nullable := by
    intro r
    rw [show (grammar policy).body r = body policy r from rfl, nullable_body]
    cases r <;> decide
  rank_lt := by
    intro r
    rw [show (grammar policy).body r = body policy r from rfl, leftCalls_body]
    cases r <;> decide

end Modern

namespace Legacy

/-- The rules that may match the empty text. -/
def mayBeEmpty : Rule → Bool
  | .spaces | .ocms => true
  | _ => false

/-- A ranking of the rules. -/
def rank : Rule → Nat
  | .htab | .lf | .cr | .space | .atSign | .char | .ctl | .special | .atom | .quotedPair
  | .quotedString | .domainLiteral | .comment | .angleAddr => 0
  | .spaces | .lwspChar | .crlf | .ocms | .word | .domainRef | .route => 1
  | .linearWhiteSpace | .phrase | .localPart | .subDomain => 2
  | .ctext | .dtext | .qtext | .addrSpec | .domain | .group => 3
  | .mailbox | .onlyAddrSpec => 4
  | .address => 5
  | .valid => 6
  | .root => 7

/-- A policy on domains stands in the way of no left call. -/
theorem leftCalls_body (policy : Option Policy) (r : Rule) :
    (body policy r).leftCalls mayBeEmpty = (body none r).leftCalls mayBeEmpty := by
  cases policy <;> cases r <;> rfl

theorem nullable_body (policy : Option Policy) (r : Rule) :
    (body policy r).nullable mayBeEmpty = (body none r).nullable mayBeEmpty := by
  cases policy <;> cases r <;> rfl

/-- **The legacy grammar has no left recursion.** -/
def ranking (policy : Option Policy) : (grammar policy).Ranking where
  null := mayBeEmpty
  rank := rank
  null_of_nullable := by
    intro r
    rw [show (grammar policy).body r = body policy r from rfl, nullable_body]
    cases r <;> decide
  rank_lt := by
    intro r
    rw [show (grammar policy).body r = body policy r from rfl, leftCalls_body]
    cases r <;> decide

end Legacy

/-- The rule of that name takes the whole input. -/
def Peg.Grammar.MatchesWhole {R : Type} (g : Grammar R) (name input : String) : Prop :=
  ∃ r, g.ruleNamed? name = some r ∧ g.Matches input r 0 true input.utf8ByteSize

namespace Validation

section Checks

variable {R : Type} [DecidableEq R] {g : Grammar R} {maxDepth : Nat} {name input : String}

/-- If left calls descend, no rule asks for itself where it is being evaluated, and unless the bound
on nesting is hit, a fresh run answers what the grammar means by its rule. -/
theorem plain_of_derives (k : g.Ranking) {input : String} {rule : R} {o : Outcome} {t : State R}
    {h : List (Moment R)} (hd : Derives ⟨g, input, maxDepth⟩ (.rule rule .initial o t) h) :
    (∀ m ∈ h, ¬m.Reenters) ∧ t.pos ≤ input.utf8ByteSize ∧
      (t.exhausted = false → t.pos = o.stop ∧ g.Matches input rule 0 o.matched o.stop) := by
  have hv := State.valid_initial (⟨g, input, maxDepth⟩ : Setting R)
  have habove : k.Above (State.initial : State R) [rule] :=
    fun _ hmem => absurd hmem List.not_mem_nil
  obtain ⟨-, hm, -⟩ := hd.descends k hv .initial habove
  exact ⟨hm, (hd.sound hv).1.valid.pos_le, fun hx => (hd.faithful hx hm .initial).2.2⟩

/-- **A check answers by the plain meaning of its grammar** if left calls descend in it and the
check is not too deep. -/
theorem checkWhole_eq_ok_iff (k : g.Ranking)
    (hdeep : ∀ limit, checkWhole g maxDepth name input ≠ .error (.tooDeep limit)) :
    checkWhole g maxDepth name input = .ok () ↔ g.MatchesWhole name input := by
  cases hr : g.ruleNamed? name with
  | none =>
    rw [checkWhole_of_ruleNamed? hr]
    refine ⟨fun h => (by cases h), ?_⟩
    rintro ⟨r, hr', -⟩
    cases hr.symm.trans hr'
  | some rule =>
    obtain ⟨o, t, h, hd, hverdict⟩ := exists_verdict input maxDepth hr
    obtain ⟨-, hle, hplain⟩ := plain_of_derives k hd
    have hx : t.exhausted = false := by
      refine Bool.eq_false_iff.mpr fun hx => hdeep maxDepth ?_
      rw [hverdict]
      exact verdict_eq_tooDeep_iff.mpr ⟨hx, rfl⟩
    obtain ⟨hpos, hmatch⟩ := hplain hx
    rw [hverdict, verdict_eq_ok_iff]
    constructor
    · rintro ⟨hb, -, hend⟩
      have hstop : o.stop = input.utf8ByteSize := by omega
      exact ⟨rule, hr, by rwa [hb, hstop] at hmatch⟩
    · rintro ⟨r, hr', hwhole⟩
      obtain rfl : rule = r := Option.some.inj (hr.symm.trans hr')
      obtain ⟨hb, hstop⟩ := hwhole.unique hmatch
      exact ⟨hb, hx, by omega⟩

/-- What a check accepts is a plain match. -/
theorem matchesWhole_of_checkWhole (k : g.Ranking) (h : checkWhole g maxDepth name input = .ok ()) :
    g.MatchesWhole name input := by
  refine (checkWhole_eq_ok_iff k fun limit hdeep => ?_).mp h
  cases h.symm.trans hdeep

end Checks

/-- The named rule of the grammar that applies takes the whole input. -/
def Validator.MatchesPlainly (v : Validator) (name input : String) : Prop :=
  match v.syntaxKind with
  | .modern => (Modern.grammar v.policy).MatchesWhole name input
  | .legacy => (Legacy.grammar v.policy).MatchesWhole name input

/-- The rules that a check of a validator applies are plain. -/
theorem Validator.checkRule_eq_ok_iff (v : Validator) {name input : String}
    (hdeep : ∀ limit, v.checkRule name input ≠ .error (.tooDeep limit)) :
    v.checkRule name input = .ok () ↔ v.MatchesPlainly name input := by
  unfold checkRule at hdeep ⊢
  unfold MatchesPlainly
  cases hs : v.syntaxKind with
  | modern =>
    rw [hs] at hdeep
    exact checkWhole_eq_ok_iff (Modern.ranking v.policy) hdeep
  | legacy =>
    rw [hs] at hdeep
    exact checkWhole_eq_ok_iff (Legacy.ranking v.policy) hdeep

/-- **Packrat soundness.** Every list of steps has one history. If the bound on nesting was not hit
and no rule asked for itself where it was being evaluated, then every finished entry of the table,
every answer of an application and every outcome that a step reports is what the grammar means by
that rule at that position, so it does not depend on what was applied before. A check that is not
too deep accepts an input exactly if the plain meaning of the named rule takes all of it. -/
theorem packrat_sound :
    (∀ {R : Type} [DecidableEq R] (g : Grammar R) (input : String) (maxDepth : Nat)
      (steps : List (Step R)),
      let run := Run.start g input maxDepth
      (∃! h, run.History steps h) ∧
      ∀ h, run.Undisturbed steps h →
        (∀ r p o hits, (run.steps steps).2.state.memo.get? r p = some ⟨.done o, hits⟩ →
          g.Matches input r p o.matched o.stop) ∧
        (∀ r s o t, .answered r s o t ∈ h → g.Matches input r s.pos o.matched o.stop) ∧
        ∀ before r after, steps = before ++ .result r :: after →
          ∃ o, ((run.steps before).2.step (.result r)).1.outcome? = some o ∧
            g.Matches input r (run.steps before).2.pos o.matched o.stop) ∧
    (∀ {R : Type} [DecidableEq R] (g : Grammar R) (input : String) (maxDepth maxDepth' : Nat)
      (steps steps' : List (Step R)) (h h' : List (Moment R)),
      (Run.start g input maxDepth).Undisturbed steps h →
      (Run.start g input maxDepth').Undisturbed steps' h' →
      ∀ r s o t s' o' t', .answered r s o t ∈ h → .answered r s' o' t' ∈ h' → s.pos = s'.pos →
        o.matched = o'.matched ∧ o.stop = o'.stop) ∧
    ∀ (v : Validator) (name input : String),
      (∀ limit, v.checkRule name input ≠ .error (.tooDeep limit)) →
        (v.checkRule name input = .ok () ↔ v.MatchesPlainly name input) := by
  refine ⟨fun g input maxDepth steps => ⟨?_, fun h hu => ⟨fun r p o hits hk => ?_, ?_, ?_⟩⟩, ?_, ?_⟩
  · obtain ⟨h, hh⟩ := Run.exists_history _ (Run.valid_start g input maxDepth) steps
    exact ⟨h, hh, fun h' hh' => hh.unique hh'⟩
  · exact hu.faithful.done (State.progress?_of_get? hk)
  · exact fun r s o t hm => hu.plain _ hm
  · exact fun before r after hsteps => hu.plain_result hsteps
  · intro R _ g input maxDepth maxDepth' steps steps' h h' hu hu' r s o t s' o' t' hm hm' hpos
    have hplain := hu.plain _ hm
    have hplain' := hu'.plain _ hm'
    rw [Moment.Plain, hpos] at hplain
    exact hplain'.unique hplain
  · exact fun v name input hdeep => v.checkRule_eq_ok_iff hdeep

/-- Steps that ask for a local part twice, the second time behind it, and a check of the same
address. -/
theorem packrat_sound_short_address :
    (∃ o, ((Run.start (Modern.grammar none) "a@b" 16).step (.result .localPart)).1.outcome? = some o ∧
      (Modern.grammar none).Matches "a@b" .localPart 0 o.matched o.stop) ∧
    Validator.modern.MatchesPlainly "root" "a@b" := by
  obtain ⟨hruns, -, hchecks⟩ := packrat_sound
  constructor
  · obtain ⟨⟨h, hh, -⟩, hplain⟩ :=
      hruns (Modern.grammar none) "a@b" 16 [.result .localPart, .result .localPart]
    have hu : (Run.start (Modern.grammar none) "a@b" 16).Undisturbed
        [.result .localPart, .result .localPart] h :=
      ⟨hh, by decide +kernel,
        hh.not_reenters (Modern.ranking none) rfl (Run.valid_start ..) rfl .initial⟩
    exact (hplain h hu).2.2 [] .localPart [.result .localPart] rfl
  · have hok : (Validator.modern.checkRule "root" "a@b").isOk = true := by decide +kernel
    cases hc : Validator.modern.checkRule "root" "a@b" with
    | error e =>
      rw [hc] at hok
      cases hok
    | ok u => exact (hchecks Validator.modern "root" "a@b" fun limit hd => by cases hc.symm.trans hd).mp hc

end Validation

end AddressGrammar
