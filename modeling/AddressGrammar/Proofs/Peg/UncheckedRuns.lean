import AddressGrammar.Proofs.Peg.Heights
import AddressGrammar.Proofs.Peg.Refusals

/-!
# Runs with policies and without them

As long as no refusal comes up, a grammar with policies and the one without them go through the same
states, take the same room and give the same answers. This holds in both directions, and neither
follows from the other: a run that does not hit the bound says nothing about the run to compare it
with until the two have been followed side by side. So what is compared here are twins, expressions
that differ in checks on either side, and a run of the one is followed by a run of the other.

A refusal is a matter of the plain meaning of a grammar. What was evaluated below the bound is plain
on both sides, which is why the two states are kept faithful to their own grammars along the way.

## Main definitions

* `Expr.Twin` — two expressions that differ in checks
* `Setting.Twins` — two settings whose bodies are twins
* `State.Abreast` — states from which the two runs go the same way

## Main results

* `Grammar.matches_iff_of_not_asks` — rules that come to no policy do the same without the policies
* `Derives.follows` — without a refusal, a run is followed by a run of the twin
* `Derives.relaxes`, `Derives.restricts` — policies may be dropped, and they may be added
-/

namespace AddressGrammar.Peg

open Text

variable {R : Type}

namespace Expr

/-- Two expressions that are the same but for checks. A check of a rule stands for its application,
any other check for an attempt. -/
inductive Twin : Expr R → Expr R → Prop where
  | succeed : Twin .succeed .succeed
  | fail : Twin .fail .fail
  | byte {c} : Twin (.byte c) (.byte c)
  | run {c} : Twin (.run c) (.run c)
  | literal {bytes} : Twin (.literal bytes) (.literal bytes)
  | apply {r} : Twin (.apply r) (.apply r)
  | andThen {e₁ e₂ e₁' e₂'} (h₁ : Twin e₁ e₁') (h₂ : Twin e₂ e₂') :
      Twin (.andThen e₁ e₂) (.andThen e₁' e₂')
  | orElse {e₁ e₂ e₁' e₂'} (h₁ : Twin e₁ e₁') (h₂ : Twin e₂ e₂') :
      Twin (.orElse e₁ e₂) (.orElse e₁' e₂')
  | attempt {e e'} (h : Twin e e') : Twin (.attempt e) (.attempt e')
  | many {e e'} (h : Twin e e') : Twin (.many e) (.many e')
  | notAhead {e e'} (h : Twin e e') : Twin (.notAhead e) (.notAhead e')
  | ahead {e e'} (h : Twin e e') : Twin (.ahead e) (.ahead e')
  | capture {e e'} (h : Twin e e') : Twin (.capture e) (.capture e')
  | inspect {r pos} : Twin (.inspect r pos) (.inspect r pos)
  | dropRule {r policy} : Twin (.check (.apply r) policy) (.apply r)
  | addRule {r policy} : Twin (.apply r) (.check (.apply r) policy)
  | drop {e e' policy} (h : Twin e e') : Twin (.check e policy) (.attempt e')
  | add {e e' policy} (h : Twin e e') : Twin (.attempt e) (.check e' policy)

theorem Twin.symm {e e' : Expr R} (h : e.Twin e') : e'.Twin e := by
  induction h with
  | succeed => exact .succeed
  | fail => exact .fail
  | byte => exact .byte
  | run => exact .run
  | literal => exact .literal
  | apply => exact .apply
  | andThen _ _ ih₁ ih₂ => exact .andThen ih₁ ih₂
  | orElse _ _ ih₁ ih₂ => exact .orElse ih₁ ih₂
  | attempt _ ih => exact .attempt ih
  | many _ ih => exact .many ih
  | notAhead _ ih => exact .notAhead ih
  | ahead _ ih => exact .ahead ih
  | capture _ ih => exact .capture ih
  | inspect => exact .inspect
  | dropRule => exact .addRule
  | addRule => exact .dropRule
  | drop _ ih => exact .add ih
  | add _ ih => exact .drop ih

/-- An expression and the one without its policies. -/
theorem twin_unchecked (e : Expr R) : e.Twin e.unchecked := by
  induction e with
  | succeed => exact .succeed
  | fail => exact .fail
  | byte => exact .byte
  | run => exact .run
  | literal => exact .literal
  | apply => exact .apply
  | andThen _ _ ih₁ ih₂ => exact .andThen ih₁ ih₂
  | orElse _ _ ih₁ ih₂ => exact .orElse ih₁ ih₂
  | attempt _ ih => exact .attempt ih
  | many _ ih => exact .many ih
  | notAhead _ ih => exact .notAhead ih
  | ahead _ ih => exact .ahead ih
  | capture _ ih => exact .capture ih
  | inspect => exact .inspect
  | check e policy ih =>
    obtain ⟨r, rfl⟩ | heq := e.unchecked_check policy
    · exact .dropRule
    · exact heq ▸ .drop ih

/-- Nothing is asked without policies. -/
theorem asks_unchecked (e : Expr R) : e.unchecked.asks (fun _ => false) = false := by
  induction e with
  | andThen _ _ ih₁ ih₂ | orElse _ _ ih₁ ih₂ => exact Bool.or_eq_false_iff.mpr ⟨ih₁, ih₂⟩
  | attempt _ ih | many _ ih | notAhead _ ih | ahead _ ih | capture _ ih => exact ih
  | check e policy ih =>
    obtain ⟨r, rfl⟩ | heq := e.unchecked_check policy
    · rfl
    · rw [heq]
      exact ih
  | _ => rfl

end Expr

/-- Without policies, nothing is refused. -/
theorem Grammar.not_refuses_unchecked {g g' : Grammar R}
    (hbody : ∀ r, g'.body r = (g.body r).unchecked) {input : String} {r : R} {p : Nat} :
    ¬g'.Refuses input r p := by
  refine fun h => h.rule_induction (P := fun _ _ => False) fun r p hr => ?_
  rw [hbody] at hr
  have hasks : (g.body r).unchecked.asks (fun _ => false) = true := hr.asks fun _ _ h => h.2.elim
  cases (Expr.asks_unchecked _).symm.trans hasks

/-- **Rules that come to no policy do the same without the policies.** -/
theorem Grammar.matches_iff_of_not_asks {g g' : Grammar R} {askers : R → Bool}
    (haskers : ∀ r, (g.body r).asks askers = true → askers r = true)
    (hbody : ∀ r, g'.body r = (g.body r).unchecked) {input : String} {r : R} {p q : Nat} {b : Bool}
    (hr : askers r = false) : g.Matches input r p b q ↔ g'.Matches input r p b q := by
  have hasks : ∀ r, askers r = false → (g.body r).asks askers = false := fun r hr =>
    Bool.eq_false_iff.mpr fun h => Bool.eq_false_iff.mp hr (haskers r h)
  refine (matches_iff_of_shared (fun r hr => Expr.within_of_not_asks (hasks r hr)) (fun r hr => ?_)
    hr).symm
  rw [hbody, Expr.unchecked_of_not_asks (hasks r hr)]

/-- A policy that accepts leaves a report and nothing else. -/
theorem exists_report_of_askPolicy {s t : State R} {input : String} {policy : Policy} {span : Span}
    (h : askPolicy input policy span s = (true, t)) : ∃ e, t = s.report e := by
  unfold askPolicy at h
  split at h
  · dsimp only at h
    split at h <;> cases h
    exact ⟨_, rfl⟩
  · cases h

variable {cfg cfg' : Setting R}

/-- Two settings read the same input, and the bodies of their rules are twins. -/
structure Setting.Twins (cfg cfg' : Setting R) : Prop where
  input : cfg'.input = cfg.input
  body : ∀ r, (cfg.grammar.body r).Twin (cfg'.grammar.body r)

/-- Two settings read the same input, with the same bound, and the bodies of the second one are
those of the first one without their policies. -/
structure Setting.Relaxes (cfg cfg' : Setting R) : Prop where
  input : cfg'.input = cfg.input
  body : ∀ r, cfg'.grammar.body r = (cfg.grammar.body r).unchecked

theorem Setting.Relaxes.twins (h : cfg.Relaxes cfg') : cfg.Twins cfg' :=
  ⟨h.input, fun r => h.body r ▸ Expr.twin_unchecked _⟩

variable [DecidableEq R]

/-- Two states agree on everything that rules depend on, and each remembers what its own grammar
means. -/
structure State.Abreast (cfg cfg' : Setting R) (s s' : State R) : Prop where
  alike : s.Alike (fun _ => True) cfg cfg' 0 s'
  faithful : s.Faithful cfg
  faithful' : s'.Faithful cfg'

/-- Runs begin abreast. -/
theorem State.Abreast.initial {g g' : Grammar R} {input : String} {maxDepth : Nat} :
    (State.initial : State R).Abreast ⟨g, input, maxDepth⟩ ⟨g', input, maxDepth⟩ .initial :=
  ⟨⟨rfl, rfl, rfl, fun _ _ _ => rfl⟩, .initial, .initial⟩

/-- Rules do not depend on reports. -/
theorem State.Alike.report_left {K : R → Prop} {spare : Nat} {s s' : State R}
    (h : s.Alike K cfg cfg' spare s') (e : Event R) : (s.report e).Alike K cfg cfg' spare s' :=
  ⟨h.pos, h.exhausted, h.room, h.progress⟩

theorem State.Alike.report_right {K : R → Prop} {spare : Nat} {s s' : State R}
    (h : s.Alike K cfg cfg' spare s') (e : Event R) : s.Alike K cfg cfg' spare (s'.report e) :=
  ⟨h.pos, h.exhausted, h.room, h.progress⟩

/-- A check that is not refused. -/
theorem Derives.exists_check {e : Expr R} {policy : Policy} {s t : State R} {h : List (Moment R)}
    (he : Derives cfg (.expr e s true t) h)
    (hm : e.Matches cfg.input (cfg.grammar.Matches cfg.input) s.pos true t.pos)
    (hr : ¬cfg.RefusesAt (.check e policy) s.pos) :
    ∃ report, Derives cfg (.expr (.check e policy) s true (t.report report)) h := by
  generalize ha : askPolicy cfg.input policy ⟨s.pos, t.pos⟩ t = answer
  obtain ⟨b, u⟩ := answer
  cases b with
  | true =>
    obtain ⟨report, rfl⟩ := exists_report_of_askPolicy ha
    exact ⟨report, .check he ha⟩
  | false => exact absurd (.check_refused hm (askPolicy_answer ha).1) hr

/-- An evaluation that does not hit the bound and in whose history no rule asks for itself is followed:
if neither side comes to a refusal, the twin goes the same way from every state that is abreast. -/
def Judgement.Follows (cfg cfg' : Setting R) (h : List (Moment R)) : Judgement R → Prop
  | .expr e s b t => t.exhausted = false → (∀ m ∈ h, ¬m.Reenters) → ∀ e' s', e.Twin e' →
      s.Abreast cfg cfg' s' → ¬cfg.RefusesAt e s.pos → ¬cfg'.RefusesAt e' s'.pos →
        ∃ t' h', Derives cfg' (.expr e' s' b t') h' ∧ t.Alike (fun _ => True) cfg cfg' 0 t' ∧
          ∀ m ∈ h', ¬m.Reenters
  | .loop e s t => t.exhausted = false → (∀ m ∈ h, ¬m.Reenters) → ∀ e' s', e.Twin e' →
      s.Abreast cfg cfg' s' → ¬cfg.RefusesAt (.many e) s.pos → ¬cfg'.RefusesAt (.many e') s'.pos →
        ∃ t' h', Derives cfg' (.loop e' s' t') h' ∧ t.Alike (fun _ => True) cfg cfg' 0 t' ∧
          ∀ m ∈ h', ¬m.Reenters
  | .body r s o t => t.exhausted = false → (∀ m ∈ h, ¬m.Reenters) → ∀ s',
      s.Abreast cfg cfg' s' → ¬cfg.grammar.Refuses cfg.input r s.pos →
        ¬cfg'.grammar.Refuses cfg'.input r s'.pos →
        ∃ t' h', Derives cfg' (.body r s' o t') h' ∧ t.Alike (fun _ => True) cfg cfg' 0 t' ∧
          ∀ m ∈ h', ¬m.Reenters
  | .growth _ _ _ _ _ _ => True
  | .rule r s o t => t.exhausted = false → (∀ m ∈ h, ¬m.Reenters) → ∀ s',
      s.Abreast cfg cfg' s' → ¬cfg.grammar.Refuses cfg.input r s.pos →
        ¬cfg'.grammar.Refuses cfg'.input r s'.pos →
        ∃ t' h', Derives cfg' (.rule r s' o t') h' ∧ t.Alike (fun _ => True) cfg cfg' 0 t' ∧
          ∀ m ∈ h', ¬m.Reenters

/-- Behind two evaluations that go the same way, the states are abreast again, and both answers are
plain. -/
theorem State.Abreast.next {e e' : Expr R} {s s' t t' : State R} {b : Bool} {h h' : List (Moment R)}
    (hs : s.Abreast cfg cfg' s') (hd : Derives cfg (.expr e s b t) h)
    (hd' : Derives cfg' (.expr e' s' b t') h') (hx : t.exhausted = false)
    (hh : ∀ m ∈ h, ¬m.Reenters) (hh' : ∀ m ∈ h', ¬m.Reenters)
    (ha : t.Alike (fun _ => True) cfg cfg' 0 t') :
    t.Abreast cfg cfg' t' ∧ e.Matches cfg.input (cfg.grammar.Matches cfg.input) s.pos b t.pos ∧
      e'.Matches cfg'.input (cfg'.grammar.Matches cfg'.input) s'.pos b t'.pos := by
  obtain ⟨ht, -, hm⟩ := hd.faithful hx hh hs.faithful
  obtain ⟨ht', -, hm'⟩ := hd'.faithful (ha.exhausted.trans hx) hh' hs.faithful'
  exact ⟨⟨ha, ht, ht'⟩, hm, hm'⟩

/-- **Without a refusal, a run is followed by a run of the twin.** -/
theorem Derives.follows (htwins : cfg.Twins cfg') {j : Judgement R} {h : List (Moment R)}
    (hj : Derives cfg j h) : j.Follows cfg cfg' h := by
  have hnone : ∀ m ∈ ([] : List (Moment R)), ¬m.Reenters := nofun
  induction hj with
  | succeed =>
    rintro - - _ s' ⟨⟩ hs - -
    exact ⟨s', _, .succeed, hs.alike, hnone⟩
  | fail =>
    rintro - - _ s' ⟨⟩ hs - -
    exact ⟨s', _, .fail, hs.alike, hnone⟩
  | inspect =>
    rintro - - _ s' ⟨⟩ hs - -
    exact ⟨_, _, .inspect, hs.alike.report _ _, hnone⟩
  | byte hb =>
    rintro - - _ s' ⟨⟩ hs - -
    obtain ⟨t', ht', ha⟩ := hs.alike.takeByte hb
    exact ⟨t', _, .byte (htwins.input ▸ ht'), ha, hnone⟩
  | run hb =>
    rintro - - _ s' ⟨⟩ hs - -
    obtain ⟨t', ht', ha⟩ := hs.alike.takeRun hb
    exact ⟨t', _, .run (htwins.input ▸ ht'), ha, hnone⟩
  | literal hb =>
    rintro - - _ s' ⟨⟩ hs - -
    obtain ⟨t', ht', ha⟩ := hs.alike.takeLiteral hb
    exact ⟨t', _, .literal (htwins.input ▸ ht'), ha, hnone⟩
  | @apply r s o b t h hr hb ih =>
    intro hx hh e' s' htwin hs hf hf'
    cases htwin with
    | apply =>
      obtain ⟨t', h', hd, ha, hh'⟩ :=
        ih hx hh s' hs (fun h => hf (.apply h)) (fun h => hf' (.apply h))
      exact ⟨t', h', .apply hd hb, ha, hh'⟩
    | @addRule _ policy =>
      obtain ⟨t', h', hd, ha, hh'⟩ :=
        ih hx hh s' hs (fun h => hf (.apply h)) (fun h => hf' (.check (.apply h)))
      have hd := Derives.apply hd hb
      obtain ⟨-, -, hm⟩ := hs.next (.apply hr hb) hd hx hh hh' ha
      cases b with
      | true =>
        obtain ⟨report, hd'⟩ := hd.exists_check hm hf'
        exact ⟨_, h', hd', ha.report_right report, hh'⟩
      | false =>
        have hpos : t'.pos = s'.pos := (Expr.matches_apply.mp hm).eq_of_missed
        have hd' : Derives cfg' (.expr (.check (.apply r) policy) s' false (t'.moveTo s'.pos)) h' :=
          .check_miss hd
        rw [← hpos] at hd'
        exact ⟨t', h', hd', ha, hh'⟩
  | andThen he₁ he₂ ih₁ ih₂ =>
    intro hx hh e' s' htwin hs hf hf'
    rw [List.forall_mem_append] at hh
    cases htwin with
    | andThen ht₁ ht₂ =>
      have hx₁ := he₂.since.not_exhausted hx
      obtain ⟨t', h₁', hd₁, ha, hh₁⟩ :=
        ih₁ hx₁ hh.1 _ s' ht₁ hs (fun h => hf (.andThen h)) (fun h => hf' (.andThen h))
      obtain ⟨ht, hm, hm'⟩ := hs.next he₁ hd₁ hx₁ hh.1 hh₁ ha
      obtain ⟨u', h₂', hd₂, hau, hh₂⟩ := ih₂ hx hh.2 _ t' ht₂ ht
        (fun h => hf (.andThen_next hm h)) (fun h => hf' (.andThen_next hm' h))
      exact ⟨u', _, .andThen hd₁ hd₂, hau, List.forall_mem_append.mpr ⟨hh₁, hh₂⟩⟩
  | andThen_miss _ ih =>
    intro hx hh e' s' htwin hs hf hf'
    cases htwin with
    | andThen ht₁ _ =>
      obtain ⟨t', h', hd, ha, hh'⟩ :=
        ih hx hh _ s' ht₁ hs (fun h => hf (.andThen h)) (fun h => hf' (.andThen h))
      exact ⟨t', h', .andThen_miss hd, ha, hh'⟩
  | orElse _ ih =>
    intro hx hh e' s' htwin hs hf hf'
    cases htwin with
    | orElse ht₁ _ =>
      obtain ⟨t', h', hd, ha, hh'⟩ :=
        ih hx hh _ s' ht₁ hs (fun h => hf (.orElse h)) (fun h => hf' (.orElse h))
      exact ⟨t', h', .orElse hd, ha, hh'⟩
  | orElse_next he₁ he₂ ih₁ ih₂ =>
    intro hx hh e' s' htwin hs hf hf'
    rw [List.forall_mem_append] at hh
    cases htwin with
    | orElse ht₁ ht₂ =>
      have hx₁ := he₂.since.not_exhausted hx
      obtain ⟨t', h₁', hd₁, ha, hh₁⟩ :=
        ih₁ hx₁ hh.1 _ s' ht₁ hs (fun h => hf (.orElse h)) (fun h => hf' (.orElse h))
      obtain ⟨ht, hm, hm'⟩ := hs.next he₁ hd₁ hx₁ hh.1 hh₁ ha
      obtain ⟨u', h₂', hd₂, hau, hh₂⟩ := ih₂ hx hh.2 _ t' ht₂ ht
        (fun h => hf (.orElse_next hm h)) (fun h => hf' (.orElse_next hm' h))
      exact ⟨u', _, .orElse_next hd₁ hd₂, hau, List.forall_mem_append.mpr ⟨hh₁, hh₂⟩⟩
  | @attempt e s t h he ih =>
    intro hx hh e' s' htwin hs hf hf'
    cases htwin with
    | attempt htwin =>
      obtain ⟨t', h', hd, ha, hh'⟩ :=
        ih hx hh _ s' htwin hs (fun h => hf (.attempt h)) (fun h => hf' (.attempt h))
      exact ⟨t', h', .attempt hd, ha, hh'⟩
    | add htwin =>
      obtain ⟨t', h', hd, ha, hh'⟩ :=
        ih hx hh _ s' htwin hs (fun h => hf (.attempt h)) (fun h => hf' (.check h))
      obtain ⟨-, -, hm⟩ := hs.next he hd hx hh hh' ha
      obtain ⟨report, hd'⟩ := hd.exists_check hm hf'
      exact ⟨_, h', hd', ha.report_right report, hh'⟩
  | attempt_miss _ ih =>
    intro hx hh e' s' htwin hs hf hf'
    cases htwin with
    | attempt htwin =>
      obtain ⟨t', h', hd, ha, hh'⟩ :=
        ih hx hh _ s' htwin hs (fun h => hf (.attempt h)) (fun h => hf' (.attempt h))
      exact ⟨_, h', .attempt_miss hd, hs.alike.pos ▸ ha.moveTo _, hh'⟩
    | add htwin =>
      obtain ⟨t', h', hd, ha, hh'⟩ :=
        ih hx hh _ s' htwin hs (fun h => hf (.attempt h)) (fun h => hf' (.check h))
      exact ⟨_, h', .check_miss hd, hs.alike.pos ▸ ha.moveTo _, hh'⟩
  | many _ ih =>
    intro hx hh e' s' htwin hs hf hf'
    cases htwin with
    | many htwin =>
      obtain ⟨t', h', hd, ha, hh'⟩ := ih hx hh _ s' htwin hs hf hf'
      exact ⟨t', h', .many hd, ha, hh'⟩
  | notAhead _ ih =>
    intro hx hh e' s' htwin hs hf hf'
    rw [State.exhausted_miss] at hx
    cases htwin with
    | notAhead htwin =>
      obtain ⟨t', h', hd, ha, hh'⟩ :=
        ih hx hh _ s' htwin hs (fun h => hf (.notAhead h)) (fun h => hf' (.notAhead h))
      exact ⟨_, h', .notAhead hd, hs.alike.pos ▸ (ha.moveTo _).miss, hh'⟩
  | notAhead_miss _ ih =>
    intro hx hh e' s' htwin hs hf hf'
    cases htwin with
    | notAhead htwin =>
      obtain ⟨t', h', hd, ha, hh'⟩ :=
        ih hx hh _ s' htwin hs (fun h => hf (.notAhead h)) (fun h => hf' (.notAhead h))
      exact ⟨_, h', .notAhead_miss hd, hs.alike.pos ▸ ha.moveTo _, hh'⟩
  | ahead _ ih =>
    intro hx hh e' s' htwin hs hf hf'
    cases htwin with
    | ahead htwin =>
      obtain ⟨t', h', hd, ha, hh'⟩ :=
        ih hx hh _ s' htwin hs (fun h => hf (.ahead h)) (fun h => hf' (.ahead h))
      exact ⟨_, h', .ahead hd, hs.alike.pos ▸ ha.moveTo _, hh'⟩
  | capture _ ih =>
    intro hx hh e' s' htwin hs hf hf'
    cases htwin with
    | capture htwin =>
      obtain ⟨t', h', hd, ha, hh'⟩ :=
        ih hx hh _ s' htwin hs (fun h => hf (.capture h)) (fun h => hf' (.capture h))
      exact ⟨_, h', .capture hd, ha.report _ _, hh'⟩
  | capture_miss _ ih =>
    intro hx hh e' s' htwin hs hf hf'
    cases htwin with
    | capture htwin =>
      obtain ⟨t', h', hd, ha, hh'⟩ :=
        ih hx hh _ s' htwin hs (fun h => hf (.capture h)) (fun h => hf' (.capture h))
      exact ⟨_, h', .capture_miss hd, hs.alike.pos ▸ ha.moveTo _, hh'⟩
  | check _ hp ih =>
    intro hx hh e' s' htwin hs hf hf'
    obtain ⟨report, rfl⟩ := exists_report_of_askPolicy hp
    cases htwin with
    | dropRule =>
      obtain ⟨t', h', hd, ha, hh'⟩ := ih hx hh _ s' .apply hs (fun h => hf (.check h)) hf'
      exact ⟨t', h', hd, ha.report_left report, hh'⟩
    | drop htwin =>
      obtain ⟨t', h', hd, ha, hh'⟩ :=
        ih hx hh _ s' htwin hs (fun h => hf (.check h)) (fun h => hf' (.attempt h))
      exact ⟨t', h', .attempt hd, ha.report_left report, hh'⟩
  | check_refused he hp =>
    intro hx hh e' s' htwin hs hf
    obtain ⟨-, -, hm⟩ := he.faithful ((since_askPolicy hp).not_exhausted hx) hh hs.faithful
    exact absurd (.check_refused hm (askPolicy_answer hp).1) hf
  | @check_miss e policy s t h he ih =>
    intro hx hh e' s' htwin hs hf hf'
    cases htwin with
    | dropRule =>
      obtain ⟨t', h', hd, ha, hh'⟩ := ih hx hh _ s' .apply hs (fun h => hf (.check h)) hf'
      obtain ⟨-, hm, -⟩ := hs.next he hd hx hh hh' ha
      have hpos : t.pos = s.pos := (Expr.matches_apply.mp hm).eq_of_missed
      rw [← hpos]
      exact ⟨t', h', hd, ha, hh'⟩
    | drop htwin =>
      obtain ⟨t', h', hd, ha, hh'⟩ :=
        ih hx hh _ s' htwin hs (fun h => hf (.check h)) (fun h => hf' (.attempt h))
      exact ⟨_, h', .attempt_miss hd, hs.alike.pos ▸ ha.moveTo _, hh'⟩
  | loop_miss _ ih =>
    intro hx hh e' s' htwin hs hf hf'
    obtain ⟨t', h', hd, ha, hh'⟩ :=
      ih hx hh _ s' htwin hs (fun h => hf (.many h)) (fun h => hf' (.many h))
    exact ⟨_, h', .loop_miss hd, hs.alike.pos ▸ ha.moveTo _, hh'⟩
  | loop_still _ hpos ih =>
    intro hx hh e' s' htwin hs hf hf'
    obtain ⟨t', h', hd, ha, hh'⟩ :=
      ih hx hh _ s' htwin hs (fun h => hf (.many h)) (fun h => hf' (.many h))
    exact ⟨t', h', .loop_still hd (by rw [ha.pos, hs.alike.pos, hpos]), ha, hh'⟩
  | loop_next he hpos hl ih₁ ih₂ =>
    intro hx hh e' s' htwin hs hf hf'
    rw [List.forall_mem_append] at hh
    have hx₁ := hl.since.not_exhausted hx
    obtain ⟨t', h₁', hd₁, ha, hh₁⟩ :=
      ih₁ hx₁ hh.1 _ s' htwin hs (fun h => hf (.many h)) (fun h => hf' (.many h))
    obtain ⟨ht, hm, hm'⟩ := hs.next he hd₁ hx₁ hh.1 hh₁ ha
    have hpos' : t'.pos ≠ s'.pos := by rwa [ha.pos, hs.alike.pos]
    obtain ⟨u', h₂', hd₂, hau, hh₂⟩ := ih₂ hx hh.2 _ t' htwin ht
      (fun h => hf (.many_next hm hpos h)) (fun h => hf' (.many_next hm' hpos' h))
    exact ⟨u', _, .loop_next hd₁ hpos' hd₂, hau, List.forall_mem_append.mpr ⟨hh₁, hh₂⟩⟩
  | @body r s t h _ ih =>
    intro hx hh s' hs hf hf'
    rw [List.forall_mem_cons] at hh
    obtain ⟨t', h', hd, ha, hh'⟩ := ih hx hh.2 _ (s'.enter r) (htwins.body r)
      ⟨hs.alike.enter r r, hs.faithful.of_memo rfl, hs.faithful'.of_memo rfl⟩
      (fun h => hf (Grammar.refuses_iff.mpr h)) (fun h => hf' (Grammar.refuses_iff.mpr h))
    have hb := Derives.body (s := s') hd
    rw [hs.alike.pos, ha.pos] at hb
    exact ⟨_, _, hb, ha.leaveTo hs.alike, List.forall_mem_cons.mpr ⟨id, hh'⟩⟩
  | @body_miss r s t h _ ih =>
    intro hx hh s' hs hf hf'
    rw [List.forall_mem_cons] at hh
    obtain ⟨t', h', hd, ha, hh'⟩ := ih hx hh.2 _ (s'.enter r) (htwins.body r)
      ⟨hs.alike.enter r r, hs.faithful.of_memo rfl, hs.faithful'.of_memo rfl⟩
      (fun h => hf (Grammar.refuses_iff.mpr h)) (fun h => hf' (Grammar.refuses_iff.mpr h))
    have hb := Derives.body_miss (s := s') hd
    rw [hs.alike.pos] at hb
    exact ⟨_, _, hb, ((ha.leaveTo hs.alike).moveTo s.pos).record r r s.pos s.pos,
      List.forall_mem_cons.mpr ⟨id, hh'⟩⟩
  | grow | grow_stop => trivial
  | @recalled r s o k he =>
    intro _ _ s' hs _ _
    have hp := (hs.alike.progress?_pos trivial).trans (State.progress?_of_get? he)
    obtain ⟨k', he'⟩ := State.exists_get?_of_progress? hp
    refine ⟨_, _, .recalled he', hs.alike.reuse r o, List.forall_mem_singleton.mpr ?_⟩
    rintro ⟨again, hagain⟩
    cases hp.symm.trans hagain
  | reentered he =>
    intro _ hh
    exact absurd ⟨_, State.progress?_of_get? he⟩ (hh _ (List.mem_singleton.mpr rfl))
  | refused => exact fun hx => Bool.noConfusion hx
  | @settled r s o t h hn hd hb hg ih =>
    intro hx hh s' hs hf hf'
    rw [List.forall_mem_append] at hh
    obtain ⟨t', h', hd₁, ha, hh'⟩ := ih hx hh.1 (s'.begin r)
      ⟨hs.alike.begin r, hs.faithful.begin r, hs.faithful'.begin r⟩ hf hf'
    rw [← ha.isReentered_eq trivial, ← hs.alike.pos] at hg
    have hn' := hs.alike.get?_eq_none trivial hn
    refine ⟨_, _, .settled hn' (hs.alike.depth_lt hd) hd₁ hg, ?_,
      List.forall_mem_append.mpr ⟨hh', List.forall_mem_singleton.mpr ?_⟩⟩
    · rw [hs.alike.pos]
      exact ha.settle r s.pos o
    · rintro ⟨again, hagain⟩
      cases (State.progress?_eq_none.mpr hn').symm.trans hagain
  | grown _ _ hb hseed hg =>
    intro hx hh s' hs
    rw [List.forall_mem_append, List.forall_mem_append] at hh
    obtain ⟨ht, -⟩ := hb.faithful (hg.since.not_exhausted hx) hh.1.1 (hs.faithful.begin _)
    rw [Bool.and_eq_true, State.isReentered_iff] at hseed
    exact absurd hseed.2 ht.unmarked

section Rules

variable {r : R} {s s' t : State R} {o : Outcome} {h : List (Moment R)} (hrelax : cfg.Relaxes cfg')
include hrelax

/-- **Without a refusal, policies may be dropped.** -/
theorem Derives.relaxes (hd : Derives cfg (.rule r s o t) h) (hx : t.exhausted = false)
    (hh : ∀ m ∈ h, ¬m.Reenters) (hf : ¬cfg.grammar.Refuses cfg.input r s.pos)
    (hs : s.Abreast cfg cfg' s') :
    ∃ t' h', Derives cfg' (.rule r s' o t') h' ∧ t.Alike (fun _ => True) cfg cfg' 0 t' := by
  obtain ⟨t', h', hd', ha, -⟩ :=
    hd.follows hrelax.twins hx hh s' hs hf (Grammar.not_refuses_unchecked hrelax.body)
  exact ⟨t', h', hd', ha⟩

/-- **Without a refusal, policies may be added.** -/
theorem Derives.restricts (hd : Derives cfg' (.rule r s o t) h) (hx : t.exhausted = false)
    (hh : ∀ m ∈ h, ¬m.Reenters) (hf : ¬cfg.grammar.Refuses cfg.input r s'.pos)
    (hs : s.Abreast cfg' cfg s') :
    ∃ t' h', Derives cfg (.rule r s' o t') h' ∧ t.Alike (fun _ => True) cfg' cfg 0 t' := by
  have htwins : cfg'.Twins cfg := ⟨hrelax.input.symm, fun r => (hrelax.twins.body r).symm⟩
  obtain ⟨t', h', hd', ha, -⟩ :=
    hd.follows htwins hx hh s' hs (Grammar.not_refuses_unchecked hrelax.body) hf
  exact ⟨t', h', hd', ha⟩

end Rules

end AddressGrammar.Peg
