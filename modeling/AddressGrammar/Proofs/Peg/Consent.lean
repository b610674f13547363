import AddressGrammar.Proofs.Peg.LeftCalls
import AddressGrammar.Proofs.Peg.Moves
import AddressGrammar.Proofs.Peg.Segments
import AddressGrammar.Proofs.Text.Agreement
import AddressGrammar.Proofs.Text.Spans
import Mathlib.Data.Nat.Bitwise

/-!
# A policy that accepts every text

A policy can refuse in two ways: it does not accept a text, or there is no text to ask it about,
since the span splits a character. So a policy that accepts every text still stands in the way where
a match may begin or end inside a character. What it is asked about has to be a stretch of bytes
below 128 that is not empty. Such a stretch begins with a byte that begins a character, and then it
ends between two characters, wherever in the input the reading position has been put before.

`Derives.relaxes` compares a grammar with the one without its policies as long as no refusal comes
up, in runs that do not hit the bound, and up to what rules depend on. Here the bound may be hit and
rules may ask for themselves, and the two runs agree in everything but one: the one run reports that
the policy was asked.

## Main definitions

* `Expr.Frees` — an expression without its checks by a policy, where these have a text to ask about
* `State.telling` — a state with other reports
* `Event.Tells`, `SameNews` — reports, but for the answers that a policy gave
* `Run.Freed`, `Run.LooksLike` — two runs that agree in everything but these, and what shows of it

## Main results

* `Expr.Matches.lt_of_nullable` — a match that cannot be empty reads a byte
* `Derives.frees` — evaluations do not depend on a policy that accepts every text
* `Run.Freed.moves`, `Run.Freed.step` — nor do runs and what they report
-/

namespace AddressGrammar

/-! ### Stretches with a text -/

namespace Text

variable {s : String} {p q : Nat}

/-- A character begins where there is a byte below 128. -/
theorem isValid_of_lt {b : UInt8} (hb : byteAt? s p = some b) (hlt : b < 128) :
    (⟨p⟩ : String.Pos.Raw).IsValid s := by
  refine (isValid_iff_byteAt? (lt_of_byteAt?_eq_some hb)).mpr ⟨b, hb, .inl (UInt8.toNat_inj.mp ?_)⟩
  have hlt' : b.toNat < 2 ^ 7 := hlt
  rw [UInt8.toNat_and, show (128 : UInt8).toNat = 2 ^ 7 from rfl, Nat.and_two_pow,
    Nat.testBit_lt_two_pow hlt']
  rfl

/-- **A stretch of bytes below 128 is a text**, if it is not empty. -/
theorem AsciiBetween.exists_slice? (h : AsciiBetween s p q) (hpq : p < q) (hq : q ≤ s.utf8ByteSize) :
    ∃ text, slice? s p q = some text := by
  obtain ⟨b, hb⟩ : ∃ b, byteAt? s p = some b := ⟨_, dif_pos (Nat.lt_of_lt_of_le hpq hq)⟩
  have hp := isValid_of_lt hb (h p b (Nat.le_refl p) hpq hb)
  have hq' := h.isValid (Nat.le_of_lt hpq) hq hp
  exact ⟨_, by rw [slice?_eq_dite, dif_pos ⟨hp, hq', Nat.le_of_lt hpq⟩]⟩

end Text

namespace Peg

open Text

variable {R : Type}

/-- **A match that cannot be empty reads a byte of the input**, if that is so for rules. -/
theorem Expr.Matches.lt_of_nullable {input : String} {null : R → Bool}
    {call : R → Nat → Bool → Nat → Prop} (hadv : ∀ r p b q, call r p b q → Advances input p b q)
    (hrule : ∀ r p q, call r p true q → null r = false → p < q ∧ q ≤ input.utf8ByteSize)
    {e : Expr R} {p q : Nat} {b : Bool} (h : e.Matches input call p b q) (hb : b = true)
    (he : e.nullable null = false) : p < q ∧ q ≤ input.utf8ByteSize := by
  have hle : ∀ {e : Expr R} {p q : Nat} {b : Bool}, e.Matches input call p b q → p ≤ q :=
    fun h => h.le fun r p b q hr => (hadv r p b q hr).le
  have hsize : ∀ {e : Expr R} {p q : Nat} {b : Bool}, e.Matches input call p b q →
      p ≤ input.utf8ByteSize → q ≤ input.utf8ByteSize :=
    fun h => h.le_size fun r p b q hr => (hadv r p b q hr).le_size
  induction h with
  | byte h => exact ⟨Nat.lt_succ_self _, lt_of_classAt h⟩
  | run h => exact ⟨le_skipAtMost .., skipAtMost_le _ _ _ _ (lt_of_classAt h)⟩
  | @literal bytes p h =>
    cases bytes with
    | nil => cases he
    | cons b rest =>
      have hp : p < input.utf8ByteSize := by
        simp only [spelledAt, Bool.and_eq_true, beq_iff_eq] at h
        exact lt_of_byteAt?_eq_some h.1
      exact ⟨by simp, add_length_le_of_spelledAt h (Nat.le_of_lt hp)⟩
  | apply h =>
    subst hb
    exact hrule _ _ _ h he
  | andThen h₁ h₂ ih₁ ih₂ =>
    rcases Bool.and_eq_false_iff.mp he with he₁ | he₂
    · obtain ⟨hlt, hi⟩ := ih₁ rfl he₁
      exact ⟨Nat.lt_of_lt_of_le hlt (hle h₂), hsize h₂ hi⟩
    · obtain ⟨hlt, hq⟩ := ih₂ hb he₂
      exact ⟨Nat.lt_of_le_of_lt (hle h₁) hlt, hq⟩
  | orElse _ ih => exact ih rfl (Bool.or_eq_false_iff.mp he).1
  | orElse_next h₁ _ _ ih₂ =>
    obtain ⟨hlt, hq⟩ := ih₂ hb (Bool.or_eq_false_iff.mp he).2
    exact ⟨Nat.lt_of_le_of_lt (hle h₁) hlt, hq⟩
  | attempt _ ih | capture _ ih | check _ _ ih => exact ih rfl he
  | succeed | many_miss | many_still | many_next | notAhead_miss | ahead | inspect => cases he
  | _ => cases hb

/-! ### Leaving checks out -/

/-- The second expression is the first one with some of its checks by the policy left out. What is
not checked any more reads bytes below 128 only, and at least one. -/
inductive Expr.Frees (policy : Policy) (null : R → Bool) : Expr R → Expr R → Prop where
  | succeed : Frees policy null .succeed .succeed
  | fail : Frees policy null .fail .fail
  | byte {c} : Frees policy null (.byte c) (.byte c)
  | run {c} : Frees policy null (.run c) (.run c)
  | literal {bytes} : Frees policy null (.literal bytes) (.literal bytes)
  | apply {r} : Frees policy null (.apply r) (.apply r)
  | andThen {e₁ e₂ e₁' e₂'} (h₁ : Frees policy null e₁ e₁') (h₂ : Frees policy null e₂ e₂') :
      Frees policy null (.andThen e₁ e₂) (.andThen e₁' e₂')
  | orElse {e₁ e₂ e₁' e₂'} (h₁ : Frees policy null e₁ e₁') (h₂ : Frees policy null e₂ e₂') :
      Frees policy null (.orElse e₁ e₂) (.orElse e₁' e₂')
  | attempt {e e'} (h : Frees policy null e e') : Frees policy null (.attempt e) (.attempt e')
  | many {e e'} (h : Frees policy null e e') : Frees policy null (.many e) (.many e')
  | notAhead {e e'} (h : Frees policy null e e') : Frees policy null (.notAhead e) (.notAhead e')
  | ahead {e e'} (h : Frees policy null e e') : Frees policy null (.ahead e) (.ahead e')
  | capture {e e'} (h : Frees policy null e e') : Frees policy null (.capture e) (.capture e')
  | check {e e' other} (h : Frees policy null e e') :
      Frees policy null (.check e other) (.check e' other)
  | inspect {r pos} : Frees policy null (.inspect r pos) (.inspect r pos)
  /-- A check of what a rule takes. -/
  | rule {r} (hnull : null r = false) : Frees policy null (.check (.apply r) policy) (.apply r)
  /-- A check of what an expression takes. It puts the position back where the expression fails. -/
  | whole {e e'} (h : Frees policy null e e') (hread : e.covered holdsAscii (fun _ => true) = true)
      (hnull : e.nullable null = false) : Frees policy null (.check e policy) (.attempt e')

/-- All checks may be kept. -/
theorem Expr.Frees.refl {policy : Policy} {null : R → Bool} (e : Expr R) :
    e.Frees policy null e := by
  induction e with
  | succeed => exact .succeed
  | fail => exact .fail
  | byte => exact .byte
  | run => exact .run
  | literal => exact .literal
  | apply => exact .apply
  | andThen _ _ ih₁ ih₂ => exact .andThen ih₁ ih₂
  | orElse _ _ ih₁ ih₂ => exact .orElse ih₁ ih₂
  | attempt _ ih => exact .attempt ih
  | many _ ih => exact .many ih
  | notAhead _ ih => exact .notAhead ih
  | ahead _ ih => exact .ahead ih
  | capture _ ih => exact .capture ih
  | check _ _ ih => exact .check ih
  | inspect => exact .inspect

/-- What rules take in any run: bytes below 128, and at least one unless the rule may match the empty
text. -/
def Takes (input : String) (null : R → Bool) (r : R) (p q : Nat) : Prop :=
  AsciiBetween input p q ∧ (null r = false → p < q ∧ q ≤ input.utf8ByteSize)

section Takes

variable {g : Grammar R} {input : String} {null : R → Bool} {e : Expr R} {p q : Nat}

/-- A match of an expression that reads bytes below 128 only, and at least one, is a text. -/
theorem Expr.Matches.exists_slice? (h : e.Matches input (Allows input (Takes input null)) p true q)
    (hread : e.covered holdsAscii (fun _ => true) = true) (hnull : e.nullable null = false) :
    ∃ text, slice? input p q = some text := by
  have hascii : AsciiBetween input p q :=
    h.covered AsciiBetween.refl .trans asciiBetween_of_classAt
      (fun _ _ _ h => h.advances.eq_of_missed rfl) (fun _ h => (h.taken rfl).1) rfl hread
  obtain ⟨hlt, hq⟩ := h.lt_of_nullable (fun _ _ _ _ h => h.advances)
    (fun _ _ _ h => (h.taken rfl).2) rfl hnull
  exact hascii.exists_slice? hlt hq

/-- Rules take that if their bodies read nothing else. -/
theorem Grammar.Ranking.preserves_takes (k : g.Ranking)
    (hread : ∀ r, (g.body r).covered holdsAscii (fun _ => true) = true) (input : String) :
    g.Preserves input (Allows input (Takes input k.null)) :=
  Grammar.preserves_allows fun r _ _ hm =>
    ⟨hm.covered AsciiBetween.refl .trans asciiBetween_of_classAt
      (fun _ _ _ h => h.advances.eq_of_missed rfl) (fun _ h => (h.taken rfl).1) rfl (hread r),
    fun hnull => hm.lt_of_nullable (fun _ _ _ _ h => h.advances)
      (fun _ _ _ h => (h.taken rfl).2) rfl
      (Bool.eq_false_iff.mpr fun h => Bool.eq_false_iff.mp hnull (k.null_of_nullable r h))⟩

end Takes

/-! ### Reports -/

/-- The report is not a consent of the policy. -/
def Event.tells (policy : Policy) : Event R → Bool
  | .asked name _ true => name != policy.name
  | _ => true

/-- The reports are the same but for consents of the policy. -/
def SameNews (policy : Policy) (es es' : List (Event R)) : Prop :=
  es'.filter (Event.tells policy) = es.filter (Event.tells policy)

theorem SameNews.cons {policy : Policy} {es es' : List (Event R)} (h : SameNews policy es es')
    (e : Event R) : SameNews policy (e :: es) (e :: es') := by
  rw [SameNews, List.filter_cons, List.filter_cons, h]

theorem SameNews.asked {policy : Policy} {es es' : List (Event R)} (h : SameNews policy es es')
    (text : String) : SameNews policy (.asked policy.name text true :: es) es' := by
  rw [SameNews, List.filter_cons, Event.tells, bne_self_eq_false]
  exact h

theorem SameNews.reverse {policy : Policy} {es es' : List (Event R)} (h : SameNews policy es es') :
    SameNews policy es.reverse es'.reverse := by
  rw [SameNews, List.filter_reverse, List.filter_reverse, h]

namespace State

/-- The state with other reports. -/
def telling (s : State R) (es : List (Event R)) : State R := { s with events := es }

variable {s t : State R} {es : List (Event R)} {b : Bool} {policy : Policy}

theorem telling_miss (s : State R) (es : List (Event R)) : (s.telling es).miss = s.miss.telling es := by
  unfold miss current? telling
  dsimp only
  split <;> rfl

/-- The primitives do not look at reports. -/
theorem telling_moveIf {test : Bool} {stop : Nat} (h : s.moveIf test stop = (b, t)) :
    (s.telling es).moveIf test stop = (b, t.telling es) ∧ t.events = s.events := by
  cases test <;> cases h
  · refine ⟨congrArg (false, ·) (s.telling_miss es), ?_⟩
    obtain h | ⟨r, h⟩ := s.miss_eq <;> rw [h]
    rfl
  · exact ⟨rfl, rfl⟩

end State

/-! ### Asking a policy -/

section askPolicy

variable {policy : Policy} {input : String} {s t : State R} {b : Bool}

/-- Asking the same policy in both runs. -/
theorem askPolicy_telling {other : Policy} {span : Span}
    (h : askPolicy input other span s = (b, t)) {es : List (Event R)}
    (hes : SameNews policy s.events es) :
    ∃ es', SameNews policy t.events es' ∧
      askPolicy input other span (s.telling es) = (b, t.telling es') := by
  unfold askPolicy at h ⊢
  split at h
  · next text _ =>
    dsimp only at h ⊢
    have hnews := hes.cons (.asked other.name text (other.accepts text))
    split at h <;> cases h
    · next ha => exact ⟨_, hnews, if_pos ha⟩
    · next ha =>
      rw [if_neg ha, State.events_miss]
      exact ⟨_, hnews, congrArg (false, ·) (State.telling_miss (s.report _) _)⟩
  · cases h
    refine ⟨es, ?_, congrArg (false, ·) (State.telling_miss _ _)⟩
    rwa [State.events_miss]

/-- A policy that accepts every text and is asked about one consents. -/
theorem askPolicy_consent {start stop : Nat}
    (haccepts : ∀ text, policy.accepts text = true) (htext : ∃ text, slice? input start stop = some text)
    (h : askPolicy input policy ⟨start, stop⟩ s = (b, t)) :
    b = true ∧ ∃ text, t = s.report (.asked policy.name text true) := by
  obtain ⟨text, htext⟩ := htext
  rw [askPolicy] at h
  dsimp only at h
  rw [htext] at h
  dsimp only at h
  rw [haccepts text, if_pos rfl] at h
  cases h
  exact ⟨rfl, text, rfl⟩

end askPolicy

/-! ### Evaluations -/

/-- The two grammars differ in checks by a policy that accepts every text, and the runs have the
same input and the same bound. -/
structure Setting.Frees (policy : Policy) (null : R → Bool) (cfg cfg' : Setting R) : Prop where
  accepts : ∀ text, policy.accepts text = true
  body : ∀ r, (cfg.grammar.body r).Frees policy null (cfg'.grammar.body r)
  root : cfg'.grammar.root = cfg.grammar.root
  input : cfg'.input = cfg.input
  maxDepth : cfg'.maxDepth = cfg.maxDepth

variable [DecidableEq R] {cfg cfg' : Setting R} {policy : Policy} {null : R → Bool}

/-- An evaluation under a policy that accepts every text goes the same way without it, through the
same states but for what they report. -/
def Judgement.Freed (policy : Policy) (null : R → Bool) (cfg cfg' : Setting R) : Judgement R → Prop
  | .expr e s b t => s.Stores (Allows cfg.input (Takes cfg.input null)) →
      ∀ e', e.Frees policy null e' → ∀ es, SameNews policy s.events es →
        ∃ es' h', SameNews policy t.events es' ∧
          Derives cfg' (.expr e' (s.telling es) b (t.telling es')) h'
  | .loop e s t => s.Stores (Allows cfg.input (Takes cfg.input null)) →
      ∀ e', e.Frees policy null e' → ∀ es, SameNews policy s.events es →
        ∃ es' h', SameNews policy t.events es' ∧
          Derives cfg' (.loop e' (s.telling es) (t.telling es')) h'
  | .body r s o t => s.Stores (Allows cfg.input (Takes cfg.input null)) →
      ∀ es, SameNews policy s.events es → ∃ es' h', SameNews policy t.events es' ∧
        Derives cfg' (.body r (s.telling es) o (t.telling es')) h'
  | .growth r start best s o t => s.Stores (Allows cfg.input (Takes cfg.input null)) →
      ∀ es, SameNews policy s.events es → ∃ es' h', SameNews policy t.events es' ∧
        Derives cfg' (.growth r start best (s.telling es) o (t.telling es')) h'
  | .rule r s o t => s.Stores (Allows cfg.input (Takes cfg.input null)) →
      ∀ es, SameNews policy s.events es → ∃ es' h', SameNews policy t.events es' ∧
        Derives cfg' (.rule r (s.telling es) o (t.telling es')) h'

/-- **Evaluations do not depend on a policy that accepts every text.** -/
theorem Derives.frees (hfree : Setting.Frees policy null cfg cfg')
    (hg : cfg.grammar.Preserves cfg.input (Allows cfg.input (Takes cfg.input null)))
    {j : Judgement R} {h : List (Moment R)} (hj : Derives cfg j h) :
    j.Freed policy null cfg cfg' := by
  obtain ⟨g', input', maxDepth'⟩ := cfg'
  obtain ⟨haccepts, hbody, -, rfl, rfl⟩ := hfree
  induction hj with
  | succeed =>
    rintro _ _ ⟨⟩ es hes
    exact ⟨es, _, hes, .succeed⟩
  | fail =>
    rintro _ _ ⟨⟩ es hes
    exact ⟨es, _, hes, .fail⟩
  | byte hb =>
    rintro _ _ ⟨⟩ es hes
    obtain ⟨hb', hev⟩ := State.telling_moveIf hb
    exact ⟨es, _, hev ▸ hes, .byte hb'⟩
  | run hb =>
    rintro _ _ ⟨⟩ es hes
    obtain ⟨hb', hev⟩ := State.telling_moveIf hb
    exact ⟨es, _, hev ▸ hes, .run hb'⟩
  | literal hb =>
    rintro _ _ ⟨⟩ es hes
    obtain ⟨hb', hev⟩ := State.telling_moveIf hb
    exact ⟨es, _, hev ▸ hes, .literal hb'⟩
  | apply _ hb ih =>
    rintro hs _ ⟨⟩ es hes
    obtain ⟨es', h', hes', hd⟩ := ih hs es hes
    exact ⟨es', h', hes', .apply hd hb⟩
  | andThen he₁ _ ih₁ ih₂ =>
    intro hs e' he es hes
    cases he with | andThen hf₁ hf₂ =>
    obtain ⟨es₁, _, hes₁, hd₁⟩ := ih₁ hs _ hf₁ es hes
    obtain ⟨es₂, _, hes₂, hd₂⟩ := ih₂ (he₁.satisfies hg hs).1 _ hf₂ es₁ hes₁
    exact ⟨es₂, _, hes₂, .andThen hd₁ hd₂⟩
  | andThen_miss _ ih =>
    intro hs e' he es hes
    cases he with | andThen hf₁ hf₂ =>
    obtain ⟨es', h', hes', hd⟩ := ih hs _ hf₁ es hes
    exact ⟨es', h', hes', .andThen_miss hd⟩
  | orElse _ ih =>
    intro hs e' he es hes
    cases he with | orElse hf₁ hf₂ =>
    obtain ⟨es', h', hes', hd⟩ := ih hs _ hf₁ es hes
    exact ⟨es', h', hes', .orElse hd⟩
  | orElse_next he₁ _ ih₁ ih₂ =>
    intro hs e' he es hes
    cases he with | orElse hf₁ hf₂ =>
    obtain ⟨es₁, _, hes₁, hd₁⟩ := ih₁ hs _ hf₁ es hes
    obtain ⟨es₂, _, hes₂, hd₂⟩ := ih₂ (he₁.satisfies hg hs).1 _ hf₂ es₁ hes₁
    exact ⟨es₂, _, hes₂, .orElse_next hd₁ hd₂⟩
  | attempt _ ih =>
    intro hs e' he es hes
    cases he with | attempt hf =>
    obtain ⟨es', h', hes', hd⟩ := ih hs _ hf es hes
    exact ⟨es', h', hes', .attempt hd⟩
  | attempt_miss _ ih =>
    intro hs e' he es hes
    cases he with | attempt hf =>
    obtain ⟨es', h', hes', hd⟩ := ih hs _ hf es hes
    exact ⟨es', h', hes', .attempt_miss hd⟩
  | many _ ih =>
    intro hs e' he es hes
    cases he with | many hf =>
    obtain ⟨es', h', hes', hd⟩ := ih hs _ hf es hes
    exact ⟨es', h', hes', .many hd⟩
  | notAhead _ ih =>
    intro hs e' he es hes
    cases he with | notAhead hf =>
    obtain ⟨es', h', hes', hd⟩ := ih hs _ hf es hes
    refine ⟨es', h', by rwa [State.events_miss], ?_⟩
    rw [← State.telling_miss]
    exact .notAhead hd
  | notAhead_miss _ ih =>
    intro hs e' he es hes
    cases he with | notAhead hf =>
    obtain ⟨es', h', hes', hd⟩ := ih hs _ hf es hes
    exact ⟨es', h', hes', .notAhead_miss hd⟩
  | ahead _ ih =>
    intro hs e' he es hes
    cases he with | ahead hf =>
    obtain ⟨es', h', hes', hd⟩ := ih hs _ hf es hes
    exact ⟨es', h', hes', .ahead hd⟩
  | capture _ ih =>
    intro hs e' he es hes
    cases he with | capture hf =>
    obtain ⟨es', h', hes', hd⟩ := ih hs _ hf es hes
    exact ⟨_, h', hes'.cons _, .capture hd⟩
  | capture_miss _ ih =>
    intro hs e' he es hes
    cases he with | capture hf =>
    obtain ⟨es', h', hes', hd⟩ := ih hs _ hf es hes
    exact ⟨es', h', hes', .capture_miss hd⟩
  | check he₁ hp ih =>
    intro hs e' he es hes
    cases he with
    | check hf =>
      obtain ⟨es₁, h', hes₁, hd⟩ := ih hs _ hf es hes
      obtain ⟨es', hes', hp'⟩ := askPolicy_telling hp hes₁
      exact ⟨es', h', hes', .check hd hp'⟩
    | rule hnull =>
      obtain ⟨es', h', hes', hd⟩ := ih hs _ .apply es hes
      obtain ⟨-, text, rfl⟩ :=
        askPolicy_consent haccepts ((he₁.satisfies hg hs).2.2.exists_slice? rfl hnull) hp
      exact ⟨es', h', hes'.asked text, hd⟩
    | whole hf hread hnull =>
      obtain ⟨es', h', hes', hd⟩ := ih hs _ hf es hes
      obtain ⟨-, text, rfl⟩ :=
        askPolicy_consent haccepts ((he₁.satisfies hg hs).2.2.exists_slice? hread hnull) hp
      exact ⟨es', h', hes'.asked text, .attempt hd⟩
  | check_refused he₁ hp ih =>
    intro hs e' he es hes
    cases he with
    | check hf =>
      obtain ⟨es₁, h', hes₁, hd⟩ := ih hs _ hf es hes
      obtain ⟨es', hes', hp'⟩ := askPolicy_telling hp hes₁
      exact ⟨es', h', hes', .check_refused hd hp'⟩
    | rule hnull =>
      have hm := (he₁.satisfies hg hs).2.2
      cases (askPolicy_consent haccepts (hm.exists_slice? rfl hnull) hp).1
    | whole hf hread hnull =>
      have hm := (he₁.satisfies hg hs).2.2
      cases (askPolicy_consent haccepts (hm.exists_slice? hread hnull) hp).1
  | @check_miss e other s t h he₁ ih =>
    intro hs e' he es hes
    cases he with
    | check hf =>
      obtain ⟨es', h', hes', hd⟩ := ih hs _ hf es hes
      exact ⟨es', h', hes', .check_miss hd⟩
    | rule hnull =>
      -- A rule that fails has put the position back itself.
      have hm := Expr.matches_apply.mp (he₁.satisfies hg hs).2.2
      rw [State.moveTo_of_pos (hm.advances.eq_of_missed rfl)]
      exact ih hs _ .apply es hes
    | whole hf hread hnull =>
      obtain ⟨es', h', hes', hd⟩ := ih hs _ hf es hes
      exact ⟨es', h', hes', .attempt_miss hd⟩
  | inspect =>
    rintro _ _ ⟨⟩ es hes
    exact ⟨_, _, hes.cons _, .inspect⟩
  | loop_miss _ ih =>
    intro hs e' hf es hes
    obtain ⟨es', h', hes', hd⟩ := ih hs _ hf es hes
    exact ⟨es', h', hes', .loop_miss hd⟩
  | loop_still _ hpos ih =>
    intro hs e' hf es hes
    obtain ⟨es', h', hes', hd⟩ := ih hs _ hf es hes
    exact ⟨es', h', hes', .loop_still hd hpos⟩
  | loop_next he₁ hpos _ ih₁ ih₂ =>
    intro hs e' hf es hes
    obtain ⟨es₁, _, hes₁, hd₁⟩ := ih₁ hs _ hf es hes
    obtain ⟨es₂, _, hes₂, hd₂⟩ := ih₂ (he₁.satisfies hg hs).1 _ hf es₁ hes₁
    exact ⟨es₂, _, hes₂, .loop_next hd₁ hpos hd₂⟩
  | @body r s t h _ ih =>
    intro hs es hes
    obtain ⟨es', h', hes', hd⟩ := ih hs _ (hbody r) es hes
    exact ⟨es', _, hes', Derives.body (s := s.telling es) (t := t.telling es') hd⟩
  | @body_miss r s t h _ ih =>
    intro hs es hes
    obtain ⟨es', h', hes', hd⟩ := ih hs _ (hbody r) es hes
    exact ⟨es', _, hes', Derives.body_miss (s := s.telling es) (t := t.telling es') hd⟩
  | grow hb hlt _ ih₁ ih₂ =>
    intro hs es hes
    obtain ⟨ht, -, hm, -⟩ := hb.satisfies hg hs
    obtain ⟨es₁, _, hes₁, hd₁⟩ := ih₁ hs es hes
    obtain ⟨es₂, _, hes₂, hd₂⟩ := ih₂ (ht.settle hm) es₁ hes₁
    exact ⟨es₂, _, hes₂, .grow hd₁ hlt hd₂⟩
  | @grow_stop r start best s next t h _ hle ih =>
    intro hs es hes
    obtain ⟨es', h', hes', hd⟩ := ih hs es hes
    exact ⟨es', h', hes', Derives.grow_stop (s := s.telling es) (t := t.telling es') hd hle⟩
  | recalled he => exact fun _ es hes => ⟨es, _, hes, .recalled he⟩
  | reentered he => exact fun _ es hes => ⟨es, _, hes, .reentered he⟩
  | refused hn hd => exact fun _ es hes => ⟨es, _, hes, .refused hn hd⟩
  | @settled r s o t h hn hd _ hgrow ih =>
    intro hs es hes
    obtain ⟨es', h', hes', hd'⟩ := ih (hs.begin r) es hes
    exact ⟨es', _, hes', Derives.settled (s := s.telling es) (t := t.telling es') hn hd hd' hgrow⟩
  | grown hn hd hb hseed _ ih₁ ih₂ =>
    intro hs es hes
    obtain ⟨ht, -, hm, -⟩ := hb.satisfies hg (hs.begin _)
    obtain ⟨es₁, _, hes₁, hd₁⟩ := ih₁ (hs.begin _) es hes
    obtain ⟨es₂, _, hes₂, hd₂⟩ := ih₂ (ht.settle hm) es₁ hes₁
    exact ⟨es₂, _, hes₂, .grown hn hd hd₁ hseed hd₂⟩

/-! ### Runs -/

/-- Two reports of a step that agree in all but consents of the policy. -/
structure Report.Agrees (policy : Policy) (report report' : Report R) : Prop where
  matched : report'.matched = report.matched
  outcome? : report'.outcome? = report.outcome?
  events : SameNews policy report.events report'.events

/-- Two runs that agree in all but what they have reported, the second one without checks by a policy
that accepts every text. Rules of the first one take what the policy can be asked about. -/
structure Run.Freed (policy : Policy) (null : R → Bool) (run run' : Run R) : Prop where
  setting : Setting.Frees policy null run.setting run'.setting
  preserves : run.setting.grammar.Preserves run.setting.input
    (Allows run.setting.input (Takes run.setting.input null))
  stores : run.state.Stores (Allows run.setting.input (Takes run.setting.input null))
  rests : run.Rests
  rests' : run'.Rests
  state : ∃ es, run'.state = run.state.telling es

/-- Two runs cannot be told apart by where they have come to and by what a further step will report,
but for consents of the policy. -/
structure Run.LooksLike (policy : Policy) (run run' : Run R) : Prop where
  pos : run'.pos = run.pos
  memo : run'.state.memo = run.state.memo
  failure : run'.failure = run.failure
  isExhausted : run'.isExhausted = run.isExhausted
  reports : ∀ step, (run.step step).1.Agrees policy (run'.step step).1

namespace Run

theorem events_step (run : Run R) (step : Step R) :
    (run.step step).1.events = (run.step step).2.state.events.reverse := by
  cases step <;> rfl

theorem agrees_step {run run' : Run R} {step : Step R} {es : List (Event R)}
    (hmatched : (run'.step step).1.matched = (run.step step).1.matched)
    (houtcome : (run'.step step).1.outcome? = (run.step step).1.outcome?)
    (hes : SameNews policy (run.step step).2.state.events es)
    (hnext : (run'.step step).2.state = (run.step step).2.state.telling es) :
    (run.step step).1.Agrees policy (run'.step step).1 where
  matched := hmatched
  outcome? := houtcome
  events := by
    rw [events_step, events_step, hnext]
    exact hes.reverse

namespace Freed

variable {run run' : Run R}

/-- **A step reports the same in both runs**, and leaves them in the same state. -/
theorem step (hf : run.Freed policy null run') (step : Step R) :
    (run.step step).1.Agrees policy (run'.step step).1 ∧
      ∃ es, (run'.step step).2.state = (run.step step).2.state.telling es := by
  have hstart : run'.forgetReports.state = run.forgetReports.state.telling [] := by
    obtain ⟨es, hes⟩ := hf.state
    rw [forgetReports, hes]
    rfl
  have hstores := hf.stores.of_memo (t := run.forgetReports.state) rfl
  -- Both runs derive the same for the same application.
  have hrule : ∀ {r o o' t t' h h'}, Derives run.setting (.rule r run.forgetReports.state o t) h →
      Derives run'.setting (.rule r run'.forgetReports.state o' t') h' →
      o' = o ∧ ∃ es, SameNews policy t.events es ∧ t' = t.telling es := by
    intro r o o' t t' h h' hd hd'
    rw [hstart] at hd'
    obtain ⟨es, _, hes, hfreed⟩ := hd.frees hf.setting hf.preserves hstores [] rfl
    obtain ⟨rfl, rfl, -⟩ := hfreed.determined _ _ _ hd'
    exact ⟨rfl, es, hes, rfl⟩
  obtain ⟨-, h, -, hs⟩ := run.exists_step hf.rests.valid step
  obtain ⟨-, h', -, hs'⟩ := run'.exists_step hf.rests'.valid step
  cases step with
  | root =>
    obtain ⟨o, hm, hd⟩ := hs
    obtain ⟨o', hm', hd'⟩ := hs'
    rw [hf.setting.root] at hd'
    obtain ⟨rfl, es, hes, hnext⟩ := hrule hd hd'
    refine ⟨agrees_step ?_ rfl hes hnext, es, hnext⟩
    rw [hm, hm', isExhausted, hnext]
    rfl
  | parse r =>
    obtain ⟨o, hm, hd⟩ := hs
    obtain ⟨o', hm', hd'⟩ := hs'
    obtain ⟨rfl, es, hes, hnext⟩ := hrule hd hd'
    refine ⟨agrees_step ?_ rfl hes hnext, es, hnext⟩
    rw [hm, hm', isExhausted, hnext]
    rfl
  | result r =>
    obtain ⟨o, hm, ho, hd⟩ := hs
    obtain ⟨o', hm', ho', hd'⟩ := hs'
    obtain ⟨rfl, es, hes, hnext⟩ := hrule hd hd'
    exact ⟨agrees_step (hm'.trans hm.symm) (ho'.trans ho.symm) hes hnext, es, hnext⟩
  | eval e =>
    rw [StepHistory, hstart] at hs'
    obtain ⟨es, _, hes, hfreed⟩ := hs.frees hf.setting hf.preserves hstores e (.refl e) [] rfl
    obtain ⟨hm, hnext, -⟩ := hfreed.determined _ _ _ hs'
    exact ⟨agrees_step hm rfl hes hnext, es, hnext⟩

/-- Steps keep what runs store. -/
theorem stores_step (hf : run.Freed policy null run') (step : Step R) :
    (run.step step).2.state.Stores (Allows run.setting.input (Takes run.setting.input null)) := by
  have hstores := hf.stores.of_memo (t := run.forgetReports.state) rfl
  obtain ⟨-, h, -, hs⟩ := run.exists_step hf.rests.valid step
  obtain ⟨r, o, hd⟩ | ⟨e, b, hd⟩ := hs.derives
  · exact (hd.satisfies hf.preserves hstores).1
  · exact (hd.satisfies hf.preserves hstores).1

theorem move (hf : run.Freed policy null run') {m : Move R} (hm : m.Inside run.setting.length) :
    (run.move m).Freed policy null (run'.move m) := by
  have hset := hf.rests.setting_move m
  have hset' := hf.rests'.setting_move m
  have hm' : m.Inside run'.setting.length := by
    rwa [Setting.length, hf.setting.input]
  refine ⟨by rw [hset, hset']; exact hf.setting, by rw [hset]; exact hf.preserves, ?_,
    hf.rests.move hm, hf.rests'.move hm', ?_⟩
  · rw [hset]
    cases m with
    | make step => exact hf.stores_step step
    | restore pos => exact hf.stores
  · cases m with
    | make step => exact (hf.step step).2
    | restore pos =>
      obtain ⟨es, hes⟩ := hf.state
      exact ⟨es, congrArg (·.moveTo pos) hes⟩

/-- **Runs stay alike**, whatever is done with both of them. -/
theorem moves (hf : run.Freed policy null run') {moves : List (Move R)}
    (hin : ∀ m ∈ moves, m.Inside run.setting.length) :
    (run.moves moves).Freed policy null (run'.moves moves) := by
  induction moves generalizing run run' with
  | nil => exact hf
  | cons m rest ih =>
    obtain ⟨hm, hrest⟩ := List.forall_mem_cons.mp hin
    rw [← hf.rests.setting_move m] at hrest
    exact ih (hf.move hm) hrest

theorem looksLike (hf : run.Freed policy null run') : run.LooksLike policy run' := by
  obtain ⟨setting', state'⟩ := run'
  obtain ⟨es, rfl⟩ := hf.state
  exact ⟨rfl, rfl, rfl, rfl, fun step => (hf.step step).1⟩

/-- Two fresh runs. -/
theorem start {g g' : Grammar R} (k : g.Ranking) (haccepts : ∀ text, policy.accepts text = true)
    (hread : ∀ r, (g.body r).covered holdsAscii (fun _ => true) = true)
    (hbody : ∀ r, (g.body r).Frees policy k.null (g'.body r)) (hroot : g'.root = g.root)
    (input : String) (maxDepth : Nat) :
    (Run.start g input maxDepth).Freed policy k.null (Run.start g' input maxDepth) where
  setting := ⟨haccepts, hbody, hroot, rfl, rfl⟩
  preserves := k.preserves_takes hread input
  stores := State.Stores.initial 0
  rests := rests_start g input maxDepth
  rests' := rests_start g' input maxDepth
  state := ⟨[], rfl⟩

end Freed

end Run

end Peg

end AddressGrammar
