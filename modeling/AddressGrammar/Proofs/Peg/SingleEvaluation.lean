import AddressGrammar.Proofs.Peg.LeftCalls

/-!
# Bodies that are evaluated once

The table exists so that no rule body is evaluated twice at a position. That is not true of every
grammar: the body of a rule that asked for itself is evaluated again for as long as its match grows.
If no application finds its own entry in progress, nothing is ever grown. Then a body is begun only
where the table has no entry for it, an entry that was begun stays, and so a second evaluation of
the body would find what the first one left behind.

Growth leaves no moment of its own in a history. It shows in the bodies that are begun, since its
first round evaluates the body of the grown rule once more, and in its cause: an application whose
body matched with its entry flagged. Both are ruled out below.

## Main definitions

* `begunBodies` — the rules whose bodies were begun, with their positions
* `Moment.Grows` — an application whose match is grown
* `State.Once` — what an evaluation without growth does to the table, and on its way

## Main results

* `Derives.once` — an evaluation in which no rule is found in progress begins every body once
* `Run.History.once` — so does a run, over all of its steps
-/

namespace AddressGrammar.Peg

variable {R : Type}

/-! ### Bodies in a history -/

/-- The rules whose bodies were begun, with the positions where they were. -/
def begunBodies (h : List (Moment R)) : List (R × Nat) :=
  h.filterMap fun
    | .opened r s => some (r, s.pos)
    | .answered .. => none

@[simp] theorem begunBodies_nil : begunBodies ([] : List (Moment R)) = [] := rfl

@[simp] theorem begunBodies_opened (r : R) (s : State R) (h : List (Moment R)) :
    begunBodies (.opened r s :: h) = (r, s.pos) :: begunBodies h := rfl

@[simp] theorem begunBodies_answered (r : R) (s t : State R) (o : Outcome) :
    begunBodies [.answered r s o t] = [] := rfl

@[simp] theorem begunBodies_append (h h' : List (Moment R)) :
    begunBodies (h ++ h') = begunBodies h ++ begunBodies h' := List.filterMap_append

variable [DecidableEq R] {cfg : Setting R}

/-- An application that evaluated the body of its rule and found, after a match, the entry of the
rule flagged: the match is a seed, and it is grown. -/
def Moment.Grows (cfg : Setting R) : Moment R → Prop
  | .opened _ _ => False
  | .answered r s _ _ => s.memo.get? r s.pos = none ∧ s.depth < cfg.maxDepth ∧
      ∃ seed t h, Derives cfg (.body r (s.begin r) seed t) h ∧
        (seed.matched && t.memo.isReentered r s.pos) = true

/-- No entry is flagged as one that asked for itself. -/
abbrev State.Unmarked (s : State R) : Prop := s.Records fun _ _ _ => True

theorem State.Unmarked.isReentered_eq_false {s : State R} (hs : s.Unmarked) (r : R) (p : Nat) :
    s.memo.isReentered r p = false :=
  Bool.eq_false_iff.mpr fun h => hs.unmarked (State.isReentered_iff.mp h)

/-! ### What an evaluation without growth does -/

/-- Entries stay, bodies are begun where there was no entry and leave one, each of them once, and
on the way nothing is flagged and nothing is grown. -/
structure State.Once (cfg : Setting R) (h : List (Moment R)) (s t : State R) : Prop where
  stays : ∀ r p, t.progress? r p = none → s.progress? r p = none
  fresh : ∀ k ∈ begunBodies h, s.progress? k.1 k.2 = none
  filed : ∀ k ∈ begunBodies h, t.progress? k.1 k.2 ≠ none
  nodup : (begunBodies h).Nodup
  unmarked : ∀ m ∈ h, ∀ u ∈ m.states, u.Unmarked
  settles : ∀ m ∈ h, ¬m.Grows cfg
  last : t.Unmarked

namespace State.Once

variable {s t u : State R} {h h₁ h₂ : List (Moment R)} {r : R} {o : Outcome}

/-- A change that is none to the table. -/
theorem still (hs : s.Unmarked) (ht : ∀ r p, t.progress? r p = s.progress? r p) :
    State.Once cfg [] s t where
  stays := fun r p hn => (ht r p).symm.trans hn
  fresh := by simp
  filed := by simp
  nodup := List.nodup_nil
  unmarked := by simp
  settles := by simp
  last := hs.of_progress? ht

/-- An evaluation and then another one. The second begins no body that the first one has begun,
since that one has an entry by then. -/
theorem append (hs : State.Once cfg h₁ s t) (ht : State.Once cfg h₂ t u) :
    State.Once cfg (h₁ ++ h₂) s u where
  stays := fun r p hn => hs.stays r p (ht.stays r p hn)
  fresh := by
    rw [begunBodies_append]
    exact List.forall_mem_append.mpr ⟨hs.fresh, fun k hk => hs.stays _ _ (ht.fresh k hk)⟩
  filed := by
    rw [begunBodies_append]
    exact List.forall_mem_append.mpr ⟨fun k hk hn => hs.filed k hk (ht.stays _ _ hn), ht.filed⟩
  nodup := by
    rw [begunBodies_append]
    refine List.nodup_append.mpr ⟨hs.nodup, ht.nodup, ?_⟩
    rintro k hk _ hk' rfl
    exact hs.filed k hk (ht.fresh k hk')
  unmarked := List.forall_mem_append.mpr ⟨hs.unmarked, ht.unmarked⟩
  settles := List.forall_mem_append.mpr ⟨hs.settles, ht.settles⟩
  last := ht.last

/-- Changes around an evaluation that are none to the table. -/
theorem around {s' t' : State R} (hst : State.Once cfg h s t)
    (hs : ∀ r p, s'.progress? r p = s.progress? r p)
    (ht : ∀ r p, t'.progress? r p = t.progress? r p) : State.Once cfg h s' t' where
  stays := fun r p hn => (hs r p).trans (hst.stays r p ((ht r p).symm.trans hn))
  fresh := fun k hk => (hs _ _).trans (hst.fresh k hk)
  filed := fun k hk hn => hst.filed k hk ((ht _ _).symm.trans hn)
  nodup := hst.nodup
  unmarked := hst.unmarked
  settles := hst.settles
  last := hst.last.of_progress? ht

/-- Changes behind an evaluation that are none to the table. -/
theorem after {t' : State R} (hst : State.Once cfg h s t)
    (ht : ∀ r p, t'.progress? r p = t.progress? r p) : State.Once cfg h s t' :=
  hst.around (fun _ _ => rfl) ht

/-- An application ends with its answer. -/
theorem answered (hst : State.Once cfg h s t) (hs : s.Unmarked)
    (hg : ¬(Moment.answered r s o t).Grows cfg) :
    State.Once cfg (h ++ [.answered r s o t]) s t where
  stays := hst.stays
  fresh := by simpa using hst.fresh
  filed := by simpa using hst.filed
  nodup := by simpa using hst.nodup
  unmarked := List.forall_mem_append.mpr
    ⟨hst.unmarked, by simpa [Moment.states] using ⟨hs, hst.last⟩⟩
  settles := List.forall_mem_append.mpr ⟨hst.settles, by simpa using hg⟩
  last := hst.last

/-- A body between the moment in which its entry is begun and the one in which it is settled. The
entry is in progress throughout, so the body is not begun again inside itself. -/
theorem opened (hst : State.Once cfg h (s.begin r) t) (hs : s.Unmarked)
    (hn : s.progress? r s.pos = none) :
    State.Once cfg (.opened r ((s.begin r).enter r) :: h) s (t.settle r s.pos o) where
  stays := by
    intro q p hq
    rw [progress?_settle] at hq
    split at hq
    · cases hq
    · next hne =>
      have := hst.stays q p hq
      rwa [progress?_begin, if_neg hne] at this
  fresh := by
    refine List.forall_mem_cons.mpr ⟨hn, fun k hk => ?_⟩
    have := hst.fresh k hk
    rw [progress?_begin] at this
    split at this
    · cases this
    · exact this
  filed := by
    refine List.forall_mem_cons.mpr ⟨?_, fun k hk => ?_⟩
    · show (t.settle r s.pos o).progress? r s.pos ≠ none
      simp [progress?_settle]
    · rw [progress?_settle]
      split
      · simp
      · exact hst.filed k hk
  nodup := by
    refine List.nodup_cons.mpr ⟨fun hmem => ?_, hst.nodup⟩
    have hk : (s.begin r).progress? r s.pos = none := hst.fresh _ hmem
    simp [progress?_begin] at hk
  unmarked := by
    refine List.forall_mem_cons.mpr ⟨?_, hst.unmarked⟩
    simpa [Moment.states] using (hs.begin r).of_progress? fun q p => progress?_enter _ r q p
  settles := List.forall_mem_cons.mpr ⟨id, hst.settles⟩
  last := hst.last.settle trivial

end State.Once

/-- An evaluation in whose history no rule is found in progress begins every body once. A body is
begun first of all, and with an entry that is there already, so its own moment stands apart. Nothing
is said about growth, which takes a rule that asked for itself. -/
def Judgement.Once (cfg : Setting R) (h : List (Moment R)) : Judgement R → Prop
  | .expr _ s _ t => s.Unmarked → (∀ m ∈ h, ¬m.Reenters) → State.Once cfg h s t
  | .loop _ s t => s.Unmarked → (∀ m ∈ h, ¬m.Reenters) → State.Once cfg h s t
  | .body r s _ t => s.Unmarked → (∀ m ∈ h, ¬m.Reenters) →
      ∃ h', h = .opened r (s.enter r) :: h' ∧ State.Once cfg h' s t
  | .growth _ _ _ _ _ _ => True
  | .rule _ s _ t => s.Unmarked → (∀ m ∈ h, ¬m.Reenters) → State.Once cfg h s t

/-- **Without left recursion every body is begun once**, no entry is flagged and no match is
grown. -/
theorem Derives.once {j : Judgement R} {h : List (Moment R)} (hj : Derives cfg j h) :
    j.Once cfg h := by
  induction hj with
  | succeed | fail | inspect => exact fun hs _ => .still hs fun _ _ => rfl
  | byte hb =>
    exact fun hs _ => .still hs (State.progress?_of_memo_eq (State.reads_takeByte hb).memo)
  | run hb =>
    exact fun hs _ => .still hs (State.progress?_of_memo_eq (State.reads_takeRun hb).memo)
  | literal hb =>
    exact fun hs _ => .still hs (State.progress?_of_memo_eq (State.reads_takeLiteral hb).memo)
  | apply _ _ ih | andThen_miss _ ih | orElse _ ih | attempt _ ih | many _ ih | loop_still _ _ ih =>
    exact ih
  | andThen _ _ ih₁ ih₂ | orElse_next _ _ ih₁ ih₂ | loop_next _ _ _ ih₁ ih₂ =>
    intro hs hm
    obtain ⟨hm₁, hm₂⟩ := List.forall_mem_append.mp hm
    have h₁ := ih₁ hs hm₁
    exact h₁.append (ih₂ h₁.last hm₂)
  | attempt_miss _ ih | notAhead_miss _ ih | ahead _ ih | capture _ ih | capture_miss _ ih
  | check_miss _ ih | loop_miss _ ih => exact fun hs hm => (ih hs hm).after fun _ _ => rfl
  | notAhead _ ih => exact fun hs hm => (ih hs hm).after fun r p => State.progress?_miss _ r p
  | check _ hp ih =>
    exact fun hs hm => (ih hs hm).after (State.progress?_of_memo_eq (memo_askPolicy hp))
  | check_refused _ hp ih =>
    intro hs hm
    have hst := (ih hs hm).after (State.progress?_of_memo_eq (memo_askPolicy hp))
    exact hst.after fun _ _ => rfl
  | @body r s t h _ ih | @body_miss r s t h _ ih =>
    intro hs hm
    have hst := ih (hs.of_progress? fun q p => State.progress?_enter s r q p)
      (List.forall_mem_cons.mp hm).2
    exact ⟨h, rfl, hst.around (fun _ _ => rfl) fun _ _ => rfl⟩
  | grow | grow_stop => trivial
  | @recalled r s o k he =>
    intro hs hm
    refine State.Once.answered (h := []) (.still hs fun q p => State.progress?_reuse s r o q p) hs ?_
    rintro ⟨hn, -⟩
    cases he.symm.trans hn
  | @reentered r s again k he =>
    intro _ hm
    exact absurd ⟨again, State.progress?_of_get? he⟩ (hm _ (List.mem_singleton_self _))
  | @refused r s hn hd =>
    intro hs hm
    refine State.Once.answered (h := []) (.still hs fun _ _ => rfl) hs ?_
    rintro ⟨-, hlt, -⟩
    omega
  | @settled r s o t h hn hd hb hg ih =>
    intro hs hm
    obtain ⟨h', rfl, hst⟩ := ih (hs.begin r) (List.forall_mem_append.mp hm).1
    refine (hst.opened hs (State.progress?_eq_none.mpr hn)).answered hs ?_
    rintro ⟨-, -, seed, u, h₂, hb', hs'⟩
    obtain ⟨rfl, rfl, -⟩ := hb.determined _ _ _ hb'
    cases hg.symm.trans hs'
  | @grown r s seed t o u h₁ h₂ hn hd hb hs hg ih _ =>
    intro hs' hm
    have hm₁ := (List.forall_mem_append.mp (List.forall_mem_append.mp hm).1).1
    obtain ⟨h', -, hst⟩ := ih (hs'.begin r) hm₁
    rw [hst.last.isReentered_eq_false, Bool.and_false] at hs
    cases hs

/-- **A run without left recursion begins every body once**, over all of its steps. -/
theorem Run.History.once {run : Run R} {steps : List (Step R)} {h : List (Moment R)}
    (hh : run.History steps h) (hv : run.state.Valid run.setting) (hs : run.state.Unmarked)
    (hm : ∀ m ∈ h, ¬m.Reenters) :
    State.Once run.setting h run.state (run.steps steps).2.state := by
  induction hh with
  | nil => exact .still hs fun _ _ => rfl
  | @cons run step rest h₁ h₂ hstep _ ih =>
    obtain ⟨hm₁, hm₂⟩ := List.forall_mem_append.mp hm
    have hs' : run.forgetReports.state.Unmarked := hs.of_memo rfl
    have hfirst : State.Once run.setting h₁ run.state (run.step step).2.state := by
      obtain ⟨r, o, hd⟩ | ⟨e, b, hd⟩ := hstep.derives
      · exact (hd.once hs' hm₁).around (fun _ _ => rfl) fun _ _ => rfl
      · exact (hd.once hs' hm₁).around (fun _ _ => rfl) fun _ _ => rfl
    have hrest := ih (valid_step hv step) hfirst.last hm₂
    rw [run.setting_step hv step] at hrest
    exact hfirst.append hrest

/-- The runs of a ranked grammar, from any position of any input: no application finds its own entry
in progress, no entry is flagged at any moment, no match is grown, and no body is begun twice at a
position. -/
theorem Grammar.Ranking.exists_once {g : Grammar R} (k : g.Ranking) (input : String)
    (maxDepth : Nat) {p : Nat} (hp : p ≤ input.utf8ByteSize) (steps : List (Step R)) :
    ∃ h, (Run.startAt g input maxDepth p).History steps h ∧ (∀ m ∈ h, ¬m.Reenters) ∧
      State.Once ⟨g, input, maxDepth⟩ h (Run.startAt g input maxDepth p).state
        ((Run.startAt g input maxDepth p).steps steps).2.state := by
  have hv := Run.valid_startAt (g := g) (d := maxDepth) hp
  have hf : ∀ P, (Run.startAt g input maxDepth p).state.Records P := fun P =>
    State.Records.initial.of_memo rfl
  obtain ⟨h, hh⟩ := Run.exists_history _ hv steps
  have hm := hh.not_reenters k rfl hv rfl (hf _)
  exact ⟨h, hh, hm, hh.once hv (hf _) hm⟩

end AddressGrammar.Peg
