import AddressGrammar.Proofs.Modern.FoldedText
import AddressGrammar.Proofs.Peg.Consent
import AddressGrammar.Proofs.Peg.Repetition
import AddressGrammar.Proofs.Peg.Restoration

/-!
# How comments and addresses end

Comments and white space are a repetition of comments, and then one more comment or else white space.
The repetition takes all comments that there are, so the one more comment is never found: what the
rule takes ends with a space or a tab. A comment at the end of an address therefore belongs to
nothing, and no address ends with a closing parenthesis. The other rules that an address can end with
end with a mark of their own, with an atom character or with comments and white space again.

What a run finds need not be what there is. At the bound on nesting a comment is refused, and one that
was refused in the middle is remembered as missing. That the one more comment is not found rests on
something else: it is asked for where the repetition has just asked for it in vain.

## Main definitions

* `EndsBlank`, `Unclosed` — stretches that end with white space, or without a closing parenthesis
* `mayClose`, `EndsAs` — how the text of a rule ends

## Main results

* `not_derives_commentPart` — behind a repetition of comments there is none
* `maintains_endsAs` — rules end like that in every run
* `Validation.spacing_ends_blank` — what it means for runs and for validators
-/

namespace AddressGrammar.Modern

open Text Peg Peg.Expr Rule

/-- The stretch ends with a space or a tab. -/
def EndsBlank (input : String) (p q : Nat) : Prop := ∃ i, p ≤ i ∧ q = i + 1 ∧ Blank input i

/-- The stretch is empty or does not end with a closing parenthesis. -/
def Unclosed (input : String) (p q : Nat) : Prop :=
  q = p ∨ ∃ i, q = i + 1 ∧ byteAt? input i ≠ some 41

/-- The rules that may end with a closing parenthesis. No address ends with one of them. -/
def mayClose : Rule → Bool
  | text | quotedPair | ccontent | comment | qtext | qcontent | dtext | dcontent | obsQp | obsText
  | obsChar | utext | obsUtext | unstructured => true
  | _ => false

/-- How the text ends that a rule takes from one position to another. -/
def EndsAs (input : String) (r : Rule) (p q : Nat) : Prop :=
  match r with
  | wsp | fws | obsFws | cfws => EndsBlank input p q
  | comment => p < q ∧ q ≤ input.utf8ByteSize
  | r => mayClose r = false → Unclosed input p q

variable {policy : Option Policy} {input : String} {p i q : Nat} {maxDepth : Nat}

theorem EndsBlank.lt (h : EndsBlank input p q) : p < q ∧ q ≤ input.utf8ByteSize := by
  obtain ⟨i, hi, rfl, hblank | hblank⟩ := h <;>
    exact ⟨Nat.lt_succ_of_le hi, lt_of_byteAt?_eq_some hblank⟩

/-- Something in front does not matter. -/
theorem EndsBlank.of_le (h : EndsBlank input i q) (hpi : p ≤ i) : EndsBlank input p q := by
  obtain ⟨j, hj, hq, hblank⟩ := h
  exact ⟨j, Nat.le_trans hpi hj, hq, hblank⟩

theorem EndsBlank.unclosed (h : EndsBlank input p q) : Unclosed input p q := by
  obtain ⟨i, -, hq, hblank⟩ := h
  refine .inr ⟨i, hq, fun hclose => ?_⟩
  rcases hblank with hblank | hblank <;> cases hclose.symm.trans hblank

namespace Unclosed

theorem refl (p : Nat) : Unclosed input p p := .inl rfl

theorem trans (h : Unclosed input p i) (h' : Unclosed input i q) : Unclosed input p q := by
  rcases h' with rfl | h'
  · exact h
  · exact .inr h'

/-- What is in front of something else does not matter, if that is not empty. -/
theorem of_lt (h : Unclosed input i q) (hlt : i < q) (p : Nat) : Unclosed input p q :=
  .inr (h.resolve_left (Nat.ne_of_gt hlt))

end Unclosed

/-- The class does not hold the closing parenthesis. -/
def opensOnly (c : ByteClass) : Bool := !c.contains 41

theorem unclosed_of_classAt {c : ByteClass} (hc : opensOnly c = true)
    (h : classAt input c p = true) : Unclosed input p (p + 1) := by
  refine .inr ⟨p, rfl, fun hclose => ?_⟩
  rw [classAt, hclose] at h
  simp [opensOnly, show c.contains 41 = true from h] at hc

theorem unclosed_of_endsAs {r : Rule} (hr : mayClose r = false) (h : EndsAs input r p q) :
    Unclosed input p q := by
  cases r
  case wsp | fws | obsFws | cfws => exact EndsBlank.unclosed h
  case comment => cases hr
  all_goals exact h hr

/-! ### Parts of a body -/

/-- What is said of rules, given as what rules do. -/
abbrev Ending (input : String) : Rule → Nat → Bool → Nat → Prop := Allows input (EndsAs input)

/-- An expression that is made of rules and bytes that do not close. -/
theorem unclosed_of_covered {e : Expr Rule} (he : e.covered opensOnly (!mayClose ·) = true)
    (h : e.Matches input (Ending input) p true q) : Unclosed input p q :=
  h.covered Unclosed.refl .trans unclosed_of_classAt (fun _ _ _ h => h.advances.eq_of_missed rfl)
    (fun hr h => unclosed_of_endsAs (by simpa using hr) (h.taken rfl)) rfl he

theorem endsBlank_blanks (h : (many1 (apply wsp)).Matches input (Ending input) p true q) :
    EndsBlank input p q := by
  obtain ⟨i, hi, hrest⟩ := matches_many1.mp h
  have hfirst : EndsBlank input p i := (matches_apply.mp hi).taken rfl
  refine (hrest.many_invariant (I := EndsBlank input p) (fun j k hj hjk => ?_) hfirst).1
  have hnext : EndsBlank input j k := (matches_apply.mp hjk).taken rfl
  exact hnext.of_le (Nat.le_of_lt hj.lt.1)

theorem endsBlank_obsFws
    (h : (body policy obsFws).Matches input (Ending input) p true q) : EndsBlank input p q := by
  obtain ⟨i, hi, hrest⟩ := matches_andThen.mp (matches_attempt.mp h)
  refine (hrest.many_invariant (I := EndsBlank input p) (fun j k hj hjk => ?_)
    (endsBlank_blanks hi)).1
  obtain ⟨l, hl, hblanks⟩ := matches_andThen.mp hjk
  exact (endsBlank_blanks hblanks).of_le (Nat.le_trans (Nat.le_of_lt hj.lt.1) hl.advances.le)

theorem endsBlank_fws (h : (body policy fws).Matches input (Ending input) p true q) :
    EndsBlank input p q := by
  rcases matches_orElse.mp h with hplain | ⟨i, hi, hobs⟩
  · obtain ⟨i, hi, hblanks⟩ := matches_andThen.mp (matches_attempt.mp hplain)
    exact (endsBlank_blanks hblanks).of_le hi.advances.le
  · obtain ⟨rfl, -⟩ := misses_attempt.mp hi
    exact (matches_apply.mp hobs).taken rfl

/-- A text between marks ends with its second mark, or with comments and white space. -/
theorem unclosed_marked {e₁ e₂ e₃ e₄ : Expr Rule} {a : UInt8} (ha : opensOnly (.single a) = true)
    (h : (seq [e₁, e₂, e₃, e₄, exactly a, optCfws]).Matches input (Ending input) p true q) :
    Unclosed input p q := by
  obtain ⟨i, -, h⟩ := matches_andThen.mp (matches_attempt.mp h)
  obtain ⟨j, -, h⟩ := matches_andThen.mp h
  obtain ⟨k, -, h⟩ := matches_andThen.mp h
  obtain ⟨l, -, h⟩ := matches_andThen.mp h
  have htail : Unclosed input l q := unclosed_of_covered (by simp [covered, chain, exactly, ha]; rfl) h
  obtain ⟨m, hmark, hgap⟩ := matches_andThen.mp h
  obtain ⟨-, rfl⟩ := matches_exactly.mp hmark
  exact htail.of_lt hgap.advances.le p

/-! ### Comments behind comments -/

/-- A comment with white space in front of it. -/
abbrev commentPart : Expr Rule := chain [optFws, apply comment]

variable {cfg : Setting Rule} {s t u : State Rule} {h h₁ h₂ : List (Moment Rule)}

/-- Behind optional white space nothing is in front of where it was asked for. -/
theorem le_of_derives_optFws {b : Bool} (hd : Derives cfg (.expr optFws s b t) h)
    (hh : ∀ m ∈ h, m.Satisfies (Ending input)) : s.pos ≤ t.pos := by
  cases hd with
  | orElse ha =>
    cases ha with
    | attempt ha =>
      cases ha with
      | apply hr _ =>
        obtain ⟨hallows, hpos⟩ := hh _ hr.answered_mem
        exact hpos ▸ hallows.advances.le
  | orElse_next ha hs =>
    cases ha
    cases hs
    exact Nat.le_refl _

/-- A comment moves. -/
theorem lt_of_derives_commentPart (hd : Derives cfg (.expr commentPart s true t) h)
    (hh : ∀ m ∈ h, m.Satisfies (Ending input)) : s.pos < t.pos := by
  cases hd with
  | andThen hopt hcomment =>
    obtain ⟨hh₁, hh₂⟩ := List.forall_mem_append.mp hh
    cases hcomment with
    | apply hr hb =>
      obtain ⟨hallows, hpos⟩ := hh₂ _ hr.answered_mem
      have hlt := (hallows.taken hb).1
      exact Nat.lt_of_le_of_lt (le_of_derives_optFws hopt hh₁) (hpos ▸ hlt)

/-- **Behind a repetition of comments there is none.** -/
theorem not_derives_commentPart (hl : Derives cfg (.loop commentPart s t) h₁)
    (hd : Derives cfg (.expr commentPart t true u) h₂) : ¬∀ m ∈ h₂, m.Satisfies (Ending input) :=
  fun hh => Nat.ne_of_gt (lt_of_derives_commentPart hd hh) (hl.pos_eq_of_loop hd)

/-- Comments and white space end with white space. -/
theorem exists_endsBlank_of_derives_cfws (hd : Derives cfg (.expr (body policy cfws) s true t) h)
    (hh : ∀ m ∈ h, m.Satisfies (Ending input)) : ∃ i, EndsBlank input i t.pos := by
  cases hd with
  | attempt hd =>
    cases hd with
    | andThen hmany hlast =>
      obtain ⟨-, hh⟩ := List.forall_mem_append.mp hh
      cases hmany with
      | many hl =>
        cases hlast with
        | orElse hpart =>
          -- One more comment behind the repetition.
          cases hpart with
          | attempt hpart => exact absurd hh (not_derives_commentPart hl hpart)
        | orElse_next _ hfws =>
          obtain ⟨-, hh⟩ := List.forall_mem_append.mp hh
          cases hfws with
          | apply hr hb =>
            obtain ⟨hallows, hpos⟩ := hh _ hr.answered_mem
            exact ⟨_, hpos ▸ hallows.taken hb⟩

/-! ### Every rule -/

/-- The rules that may take nothing, as far as `EndsAs` tells. -/
def mayStay : Rule → Bool
  | fws | comment => false
  | _ => true

/-- An expression that cannot take nothing moves. -/
theorem lt_of_not_nullable {e : Expr Rule} (he : e.nullable mayStay = false)
    (h : e.Matches input (Ending input) p true q) : p < q ∧ q ≤ input.utf8ByteSize := by
  refine h.lt_of_nullable (fun _ _ _ _ h => h.advances) (fun r p q hr hstay => ?_) rfl he
  cases r
  case fws => exact EndsBlank.lt (hr.taken rfl)
  case comment => exact hr.taken rfl
  all_goals cases hstay

/-- The rules that contain something that may end with a closing parenthesis. -/
def marked : Rule → Bool
  | cfws | quotedString | domainLiteral => true
  | r => mayClose r

/-- The others are made of rules that do not end like that. -/
theorem covered_of_not_marked {r : Rule} (policy : Option Policy) (hr : marked r = false) :
    (body policy r).covered opensOnly (!mayClose ·) = true := by
  have hnone : (body policy r).covered opensOnly (!mayClose ·) =
      (body none r).covered opensOnly (!mayClose ·) := by
    cases policy <;> cases r <;> rfl
  rw [hnone]
  revert hr
  cases r <;> decide

/-- **Rules end like that in every run**, exhausted or not. -/
theorem maintains_endsAs (policy : Option Policy) (input : String) (maxDepth : Nat) :
    (⟨grammar policy, input, maxDepth⟩ : Setting Rule).Maintains (Ending input) := by
  refine Setting.maintains_allows fun r s t h hd hh hm => ?_
  have hd : Derives _ (.expr (body policy r) (s.enter r) true t) h := hd
  have hm : (body policy r).Matches input (Ending input) s.pos true t.pos := hm
  have hplain : marked r = false → Unclosed input s.pos t.pos :=
    fun hr => unclosed_of_covered (covered_of_not_marked policy hr) hm
  cases r
  case wsp =>
    obtain ⟨hblank, hq⟩ := taken_wsp hm
    exact ⟨s.pos, Nat.le_refl _, hq, hblank⟩
  case fws => exact endsBlank_fws hm
  case obsFws => exact endsBlank_obsFws hm
  case cfws =>
    obtain ⟨i, j, -, hq, hblank⟩ := exists_endsBlank_of_derives_cfws hd hh
    have hlt := (lt_of_not_nullable (by rfl) hm).1
    exact ⟨j, by omega, hq, hblank⟩
  case comment => exact lt_of_not_nullable (by rfl) hm
  case quotedString => exact fun _ => unclosed_marked (by decide) hm
  case domainLiteral => exact fun _ => unclosed_marked (by decide) hm
  all_goals first
    | exact fun _ => hplain rfl
    | exact nofun

/-- **In every state that a run comes to, comments are followed by none.** -/
theorem exists_eval_commentPart (hc : cfg.Maintains (Ending cfg.input)) (hs : cfg.Visits s)
    (hmany : (many commentPart).eval cfg.input (cfg.callWithin cfg.nestingRoom) s = some (true, t)) :
    ∃ u, (attempt commentPart).eval cfg.input (cfg.callWithin cfg.nestingRoom) t = some (false, u) := by
  have ht : cfg.Visits t := .behind hs hmany
  obtain ⟨b, u, hu⟩ := Setting.exists_eval (attempt commentPart) ht.valid
  cases b with
  | false => exact ⟨u, hu⟩
  | true =>
    obtain ⟨h₁, hmany⟩ := Expr.derives_of_eval (cfg.derives_of_call cfg.nestingRoom) hmany
    obtain ⟨h₂, hpart⟩ := Expr.derives_of_eval (cfg.derives_of_call cfg.nestingRoom) hu
    have hh := (hpart.maintains hc (ht.stores hc)).2.1
    cases hmany with
    | many hl =>
      cases hpart with
      | attempt hpart => exact absurd hh (not_derives_commentPart hl hpart)

end AddressGrammar.Modern

namespace AddressGrammar.Validation

open Text Peg Modern

/-- What a modern validator accepts does not end with a closing parenthesis. -/
theorem unclosed_of_validate {v : Validator} (hv : v.syntaxKind = .modern) {input : String}
    (h : v.validate input = true) : Unclosed input 0 input.utf8ByteSize := by
  rw [Validator.validate, isOk_iff, Validator.check, Validator.checkRule, hv] at h
  obtain ⟨r, hr, hends⟩ := exists_taken_of_maintains (maintains_endsAs v.policy input v.maxDepth) h
  rw [ruleNamed?_startRule] at hr
  cases hs : v.startRule with
  | address | addrSpec | addressList =>
    rw [hs] at hr
    obtain rfl := Option.some.inj hr
    exact hends rfl

theorem not_validate_close {v : Validator} (hv : v.syntaxKind = .modern) (text : String) :
    v.validate (text ++ ")") = false := by
  refine Bool.eq_false_iff.mpr fun h => ?_
  have hsize : (text ++ ")").utf8ByteSize = text.utf8ByteSize + 1 := String.utf8ByteSize_append
  obtain heq | ⟨i, hi, hclose⟩ := unclosed_of_validate hv h
  · omega
  · obtain rfl : i = text.utf8ByteSize := by omega
    exact hclose ((byteAt?_size_append text ")").trans rfl)

/-- **Comments and white space end with white space.** In every run of the modern grammar, on any input
and at any bound on nesting, moved about as it may be and exhausted or not, whatever the rule matches
ends with a space or a tab. In every state that a run comes to, behind a repetition of comments the
attempt at one more fails. So nothing that ends with a closing parenthesis is accepted by a modern
validator, whatever a whole input has to be. -/
theorem spacing_ends_blank :
    (∀ (policy : Option Peg.Policy) (input : String) (maxDepth : Nat) (moves : List (Move Rule)),
      (∀ m ∈ moves, m.Inside input.utf8ByteSize) →
        ∃ h, (Run.start (grammar policy) input maxDepth).Trace moves h ∧
          ∀ s o t, .answered .cfws s o t ∈ h → o.matched = true → EndsBlank input s.pos o.stop) ∧
    (∀ (cfg : Setting Rule) (policy : Option Peg.Policy), cfg.grammar = grammar policy →
      ∀ s t, cfg.Visits s →
        Expr.eval cfg.input (cfg.callWithin cfg.nestingRoom)
          (.many (.chain [optFws, .apply .comment])) s = some (true, t) →
        ∃ u, Expr.eval cfg.input (cfg.callWithin cfg.nestingRoom)
          (.seq [optFws, .apply .comment]) t = some (false, u)) ∧
    ∀ v : Validator, v.syntaxKind = .modern → ∀ text, v.validate (text ++ ")") = false := by
  refine ⟨fun policy input maxDepth moves hin => ?_, ?_, fun v hv text => not_validate_close hv text⟩
  · have hr := Run.rests_start (grammar policy) input maxDepth
    obtain ⟨h, ht⟩ := hr.exists_trace hin
    have hh := (ht.maintains hr hin (maintains_endsAs policy input maxDepth) (.initial 0)).2
    exact ⟨h, ht, fun s o t hmem hb => (hh _ hmem).1.taken hb⟩
  · rintro ⟨_, input, maxDepth⟩ policy rfl s t hs ht
    exact exists_eval_commentPart (maintains_endsAs policy input maxDepth) hs ht

/-- At a bound of four a comment inside another one is refused. White space in front of it is taken, and
so it ends what is taken in the exhausted run. A comment behind an address is accepted if white space
follows. -/
theorem spacing_ends_blank_refused :
    let run := Run.start (grammar none) "(b) ((a))" 4
    (run.apply .cfws).1 = .hit 0 4 ∧ (run.apply .cfws).2.isExhausted = true ∧
      EndsBlank "(b) ((a))" 0 4 ∧ Validator.modern.validate "a@b(c) " = true ∧
      Validator.modern.validate ("a@b(c" ++ ")") = false := by
  refine ⟨by decide +kernel, by decide +kernel, ?_, by decide +kernel,
    spacing_ends_blank.2.2 .modern rfl "a@b(c"⟩
  obtain ⟨h, ht, hends⟩ := spacing_ends_blank.1 none "(b) ((a))" 4 [.make (.result .cfws)]
    (by simp [Move.Inside])
  cases ht with
  | make hs _ =>
    obtain ⟨o, -, hreport, hd⟩ := hs
    have hhit : some (.hit 0 4) = some o := .trans (by decide +kernel) hreport
    obtain rfl := Option.some.inj hhit
    exact hends _ _ _ (List.mem_append_left _ hd.answered_mem) rfl

end AddressGrammar.Validation
