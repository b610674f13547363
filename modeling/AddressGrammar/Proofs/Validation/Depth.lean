import AddressGrammar.Proofs.Peg.Tolls
import AddressGrammar.Proofs.Validation.RaisedBound

/-!
# How deep a check goes

A check of a long input is not a deep one. Rules of the address grammars come back to themselves in
two ways only: a comment inside a comment, which takes an opening parenthesis, and in the modern
grammar a group inside a group, which takes a colon. A nested comment opens two bodies more for its
parenthesis, a nested group four for its colon; the legacy grammar has one body for its parenthesis.
Everything else nests to a fixed depth, whatever the input.

A toll on these bytes is charged wherever they stand, so brackets that are quoted or never closed
count as well.

## Main definitions

* `Modern.tariff`, `Legacy.tariff` — tolls and needs that fit the two grammars
* `roomFor` — a bound on nesting that is enough for an input

## Main results

* `not_tooDeep` — with that much room no check is too deep
-/

namespace AddressGrammar

open Text Peg

namespace Modern

/-- Opening parentheses and colons pay for the bodies that they nest. -/
def toll (b : UInt8) : Nat := if b = 40 then 2 else if b = 58 then 4 else 0

/-- How many bodies a rule opens inside its own before a parenthesis or a colon is read. -/
def need : Rule → Nat
  | .wsp | .lf | .cr | .alpha | .digit | .noWsCtl | .obsChar | .obsQp => 0
  | .crlf | .atext | .ctext | .qtext | .dtext | .obsText => 1
  | .text | .obsFws | .dotAtomText | .obsUtext => 2
  | .fws | .quotedPair | .comment | .utext => 3
  | .ccontent | .qcontent | .dcontent | .cfws | .unstructured => 4
  | .atom | .dotAtom | .quotedString | .domainLiteral => 5
  | .word | .obsDomain => 6
  | .obsPhrase | .obsLocalPart | .domain => 7
  | .phrase | .localPart | .obsDomainList => 8
  | .displayName | .addrSpec | .obsRoute | .obsPhraseList => 9
  | .obsAngleAddr | .onlyAddrSpec => 10
  | .angleAddr => 11
  | .nameAddr => 12
  | .mailbox | .group => 13
  | .address => 14
  | .obsMboxList | .obsAddrList | .root => 15
  | .mailboxList | .addressList => 16
  | .onlyAddressList => 17

/-- A policy on domains nests nothing. -/
theorem fits_body (policy : Option Policy) (r : Rule) (room : Nat) :
    (body policy r).fits toll need room = (body none r).fits toll need room := by
  cases policy <;> cases r <;> rfl

/-- **In the modern grammar parentheses and colons pay for nesting.** -/
def tariff (policy : Option Policy) : (grammar policy).Tariff where
  toll := toll
  need := need
  fits := by
    intro r
    rw [show (grammar policy).body r = body policy r from rfl, fits_body]
    cases r <;> decide

theorem need_le (r : Rule) : need r ≤ 17 := by cases r <;> decide

end Modern

namespace Legacy

/-- Opening parentheses pay for the bodies that they nest. -/
def toll (b : UInt8) : Nat := if b = 40 then 1 else 0

/-- How many bodies a rule opens inside its own before a parenthesis is read. -/
def need : Rule → Nat
  | .htab | .lf | .cr | .space | .atSign | .char | .ctl | .special | .atom => 0
  | .spaces | .lwspChar | .crlf | .quotedPair | .domainRef => 1
  | .linearWhiteSpace => 2
  | .ctext | .dtext | .qtext | .comment => 3
  | .quotedString | .domainLiteral | .ocms => 4
  | .word | .subDomain => 5
  | .phrase | .localPart | .domain => 6
  | .addrSpec | .route => 7
  | .angleAddr | .onlyAddrSpec => 8
  | .mailbox => 9
  | .group => 10
  | .address => 11
  | .valid => 12
  | .root => 13

/-- A policy on domains nests nothing. -/
theorem fits_body (policy : Option Policy) (r : Rule) (room : Nat) :
    (body policy r).fits toll need room = (body none r).fits toll need room := by
  cases policy <;> cases r <;> rfl

/-- **In the legacy grammar parentheses pay for nesting.** -/
def tariff (policy : Option Policy) : (grammar policy).Tariff where
  toll := toll
  need := need
  fits := by
    intro r
    rw [show (grammar policy).body r = body policy r from rfl, fits_body]
    cases r <;> decide

theorem need_le (r : Rule) : need r ≤ 13 := by cases r <;> decide

end Legacy

/-! ### Checks -/

/-- How often an ASCII character stands among the bytes of an input. -/
def byteCount (c : Char) (input : String) : Nat := (bytes input).count c.toNat.toUInt8

theorem Modern.tollsFrom_zero (input : String) :
    tollsFrom Modern.toll input 0 = 2 * byteCount '(' input + 4 * byteCount ':' input := by
  have hsum : ∀ l : List UInt8, l.foldr (Modern.toll · + ·) 0 = 2 * l.count 40 + 4 * l.count 58 := by
    intro l
    induction l with
    | nil => rfl
    | cons b l ih =>
      rw [List.foldr_cons, ih, List.count_cons, List.count_cons, Modern.toll]
      by_cases hopen : b = 40
      · subst hopen
        simp
        omega
      · by_cases hcolon : b = 58
        · subst hcolon
          simp
          omega
        · simp [hopen, hcolon]
  exact hsum (bytes input)

theorem Legacy.tollsFrom_zero (input : String) :
    tollsFrom Legacy.toll input 0 = byteCount '(' input := by
  have hsum : ∀ l : List UInt8, l.foldr (Legacy.toll · + ·) 0 = l.count 40 := by
    intro l
    induction l with
    | nil => rfl
    | cons b l ih =>
      rw [List.foldr_cons, ih, List.count_cons, Legacy.toll]
      by_cases hopen : b = 40 <;> simp [hopen, Nat.add_comm]
  exact hsum (bytes input)

namespace Validation

/-- A check whose rules all have the room they need is not too deep. -/
theorem checkWhole_not_tooDeep {R : Type} [DecidableEq R] {g : Grammar R} (k : g.Tariff)
    {maxDepth : Nat} {input : String}
    (hroom : ∀ r, k.need r + 1 + tollsFrom k.toll input 0 ≤ maxDepth) (name : String) (limit : Nat) :
    checkWhole g maxDepth name input ≠ .error (.tooDeep limit) := by
  intro hdeep
  cases hr : g.ruleNamed? name with
  | none =>
    rw [checkWhole_of_ruleNamed? hr] at hdeep
    cases hdeep
  | some rule =>
    obtain ⟨o, t, h, hd, hverdict⟩ := exists_verdict input maxDepth hr
    have hfirst : @Grammar.Tariff.Room R ⟨g, input, maxDepth⟩ k .initial (k.need rule + 1) := by
      have := hroom rule
      show 0 + (k.need rule + 1) + tollsFrom k.toll input 0 ≤ maxDepth
      omega
    have hx : t.exhausted = false := hd.pays k (State.valid_initial _) rfl hfirst
    rw [hverdict] at hdeep
    cases (verdict_eq_tooDeep_iff.mp hdeep).1.symm.trans hx

/-- A bound on nesting that is enough for an input. -/
def roomFor (input : String) : AddressSyntax → Nat
  | .modern => 32 + 2 * byteCount '(' input + 4 * byteCount ':' input
  | .legacy => 32 + byteCount '(' input

/-- **Depth is bounded by nesting, not by length.** With room for what the brackets and colons of an
input can nest, no rule of either grammar is too deep on it, with or without a policy on domains. So
under the default bound no input without them is, however long it may be. -/
theorem not_tooDeep (v : Validator) (name input : String) (limit : Nat) :
    (roomFor input v.syntaxKind ≤ v.maxDepth →
      v.checkRule name input ≠ .error (.tooDeep limit)) ∧
    (v.maxDepth = defaultMaxDepth → byteCount '(' input = 0 → byteCount ':' input = 0 →
      v.checkRule name input ≠ .error (.tooDeep limit)) := by
  have hroom : roomFor input v.syntaxKind ≤ v.maxDepth →
      v.checkRule name input ≠ .error (.tooDeep limit) := by
    intro hle
    unfold Validator.checkRule
    cases hs : v.syntaxKind with
    | modern =>
      rw [hs, roomFor] at hle
      refine checkWhole_not_tooDeep (Modern.tariff v.policy) (fun r => ?_) name limit
      have hneed : (Modern.tariff v.policy).need r ≤ 17 := Modern.need_le r
      have htolls : tollsFrom (Modern.tariff v.policy).toll input 0 = _ :=
        Modern.tollsFrom_zero input
      omega
    | legacy =>
      rw [hs, roomFor] at hle
      refine checkWhole_not_tooDeep (Legacy.tariff v.policy) (fun r => ?_) name limit
      have hneed : (Legacy.tariff v.policy).need r ≤ 13 := Legacy.need_le r
      have htolls : tollsFrom (Legacy.tariff v.policy).toll input 0 = _ :=
        Legacy.tollsFrom_zero input
      omega
  refine ⟨hroom, fun hdefault hopen hcolon => hroom ?_⟩
  rw [hdefault]
  cases v.syntaxKind <;> simp [roomFor, hopen, hcolon, defaultMaxDepth]

/-- A group with a comment in it, and a comment inside a comment. -/
theorem not_tooDeep_nested :
    { Validator.modern with maxDepth := 38 }.check "a:(b);" ≠ .error (.tooDeep 38) ∧
    { Validator.legacy with maxDepth := 34 }.check "a@b((c)).d" ≠ .error (.tooDeep 34) ∧
    Validator.modern.check "a@b,c@d,e@f" ≠ .error (.tooDeep 256) := by
  refine ⟨?_, ?_, ?_⟩
  · exact (not_tooDeep { Validator.modern with maxDepth := 38 } "root" "a:(b);" 38).1 (by decide)
  · exact (not_tooDeep { Validator.legacy with maxDepth := 34 } "root" "a@b((c)).d" 34).1 (by decide)
  · exact (not_tooDeep .modern "root" "a@b,c@d,e@f" 256).2 rfl (by decide) (by decide)

end Validation

end AddressGrammar
