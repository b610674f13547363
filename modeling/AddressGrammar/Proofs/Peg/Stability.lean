import AddressGrammar.Proofs.Peg.Moves
import AddressGrammar.Proofs.Peg.Replay

/-!
# The life of an entry

The table is written while bodies are being evaluated inside one another, and a match that is grown
is overwritten although its entry is done. That nothing else is ever overwritten cannot be seen from
the operations on the table: `MemoTable.begin` and `MemoTable.finish` write whatever they find. It
depends on which applications are open.

Between two moments of a history at most one entry is written, and the later moment tells why. So
the whole story of a table is a list of such writes, and what an entry can go through is read off
them: it is begun where there was none, it may be marked, it is settled by the application that began
it, and after that it only counts requests, unless a longer match is put in its place. In that case
the next moment is the one in which its body is begun again at the same position, with the rule open
all along.

## Main definitions

* `Moment.state`, `State.reached`, `chronicle` — the states of a history in their order
* `Outcome.Lengthens` — a longer match
* `State.Writes` — what is written into the table before a moment
* `Trail` — a history in which every moment comes with its write
* `State.Upholds` — what one state remembers is kept in another

## Main results

* `Derives.trail`, `Run.Trace.trail` — every history is a trail
* `Trail.upholds` — what was remembered at a moment is kept at every later one
* `outcomes_stable` — the life of an entry, and what it means for asking twice
-/

namespace AddressGrammar.Peg

variable {R : Type}

/-! ### The states of a history -/

/-- The state of a run at a moment. -/
def Moment.state : Moment R → State R
  | .opened _ s => s
  | .answered _ _ _ t => t

/-- The state at the last moment of a history that begins in `s`. -/
def State.reached (s : State R) : List (Moment R) → State R
  | [] => s
  | m :: h => m.state.reached h

/-- The states of a history from `s` to `t` in their order. -/
def chronicle (s : State R) (h : List (Moment R)) (t : State R) : List (State R) :=
  s :: (h.map Moment.state ++ [t])

theorem State.reached_mem_chronicle (s t : State R) (h₁ h₂ : List (Moment R)) :
    s.reached h₁ ∈ chronicle s (h₁ ++ h₂) t := by
  induction h₁ generalizing s with
  | nil => exact List.mem_cons_self
  | cons m h₁ ih => exact List.mem_cons_of_mem _ (ih m.state)

/-! ### What is written between two moments -/

/-- Both outcomes are matches, and the second one is longer. -/
def Outcome.Lengthens (o o' : Outcome) : Prop :=
  o.matched = true ∧ o'.matched = true ∧ o.stop < o'.stop

theorem Outcome.Lengthens.trans {o o' o'' : Outcome} (h : o.Lengthens o') (h' : o'.Lengthens o'') :
    o.Lengthens o'' :=
  ⟨h.1, h'.2.1, Nat.lt_trans h.2.2 h'.2.2⟩

variable [DecidableEq R] {cfg : Setting R}

/-- The rule is being evaluated at the position, and is not settled there. -/
abbrev State.Pending (s : State R) (r : R) (p : Nat) : Prop :=
  s.AtStage (fun x => ∃ again, x = .inProgress again) r p

/-- What is written into the table between a moment with the state `u` and the next one. No rule is
open at the next moment that was not open before, but for one that is begun there. -/
inductive State.Writes (u : State R) : Moment R → Prop where
  /-- A rule without an entry gets one. -/
  | begun {r s} (hn : u.progress? r s.pos = none) (hm : s.memo = u.memo.begin r s.pos)
      (ha : s.active.frames ⊆ (r, s.pos) :: u.active.frames) : Writes u (.opened r s)
  /-- A match is settled, and its rule is evaluated once more. -/
  | seeded {r s o} (hk : u.Pending r s.pos) (hm : s.memo = u.memo.finish r s.pos o)
      (ha : s.active.frames ⊆ u.active.frames) : Writes u (.opened r s)
  /-- A longer match is put in the place of one, and its rule is evaluated once more. -/
  | grown {r s best o} (hk : u.progress? r s.pos = some (.done best)) (ho : best.Lengthens o)
      (hopen : (r, s.pos) ∈ u.active.frames) (hm : s.memo = u.memo.finish r s.pos o)
      (ha : s.active.frames ⊆ u.active.frames) : Writes u (.opened r s)
  /-- A remembered outcome is asked for. -/
  | recalled {r s o t} (hm : t.memo = u.memo.visit r s.pos)
      (ha : t.active.frames ⊆ u.active.frames) : Writes u (.answered r s o t)
  /-- A rule asks for itself. -/
  | reentered {r s o t} (hk : u.Pending r s.pos)
      (hm : t.memo = (u.memo.visit r s.pos).reenter r s.pos)
      (ha : t.active.frames ⊆ u.active.frames) : Writes u (.answered r s o t)
  /-- An outcome is settled. -/
  | settled {r s o t} (hk : u.Pending r s.pos) (hm : t.memo = u.memo.finish r s.pos o)
      (ha : t.active.frames ⊆ u.active.frames) : Writes u (.answered r s o t)
  /-- Nothing is written: a rule is refused, or stops growing. -/
  | still {r s o t} (hm : t.memo = u.memo) (ha : t.active.frames ⊆ u.active.frames) :
      Writes u (.answered r s o t)

/-- A history from `s` to `t` with the write before each of its moments. Behind the last moment
nothing is written. -/
inductive Trail : State R → List (Moment R) → State R → Prop where
  | nil {s t} (hm : t.memo = s.memo) (ha : t.active.frames ⊆ s.active.frames) : Trail s [] t
  | cons {s m h t} (hw : s.Writes m) (hr : Trail m.state h t) : Trail s (m :: h) t

/-- A write may be looked at from an earlier state, with the same table and with more rules open. -/
theorem State.Writes.earlier {s u : State R} {m : Moment R} (hw : u.Writes m)
    (hm : u.memo = s.memo) (ha : u.active.frames ⊆ s.active.frames) : s.Writes m := by
  have hprogress : ∀ r p, u.progress? r p = s.progress? r p := progress?_of_memo_eq hm
  have hpending : ∀ r p, u.Pending r p → s.Pending r p := fun r p ⟨x, hk, hx⟩ =>
    ⟨x, (hprogress r p).symm.trans hk, hx⟩
  cases hw with
  | begun hn hm' ha' =>
    refine .begun ((hprogress ..).symm.trans hn) (hm ▸ hm') fun k hk => ?_
    rcases List.mem_cons.mp (ha' hk) with rfl | hk
    · exact List.mem_cons_self
    · exact List.mem_cons_of_mem _ (ha hk)
  | seeded hk hm' ha' => exact .seeded (hpending _ _ hk) (hm ▸ hm') (List.Subset.trans ha' ha)
  | grown hk ho hopen hm' ha' =>
    exact .grown ((hprogress ..).symm.trans hk) ho (ha hopen) (hm ▸ hm') (List.Subset.trans ha' ha)
  | recalled hm' ha' => exact .recalled (hm ▸ hm') (List.Subset.trans ha' ha)
  | reentered hk hm' ha' => exact .reentered (hpending _ _ hk) (hm ▸ hm') (List.Subset.trans ha' ha)
  | settled hk hm' ha' => exact .settled (hpending _ _ hk) (hm ▸ hm') (List.Subset.trans ha' ha)
  | still hm' ha' => exact .still (hm'.trans hm) (List.Subset.trans ha' ha)

namespace Trail

variable {s t u : State R} {h h₁ h₂ : List (Moment R)} {m : Moment R}

/-- A trail and then another one. -/
theorem append (hs : Trail s h₁ t) (ht : Trail t h₂ u) : Trail s (h₁ ++ h₂) u := by
  induction hs with
  | nil hm ha =>
    cases ht with
    | nil hm' ha' => exact .nil (hm'.trans hm) (List.Subset.trans ha' ha)
    | cons hw hr => exact .cons (hw.earlier hm ha) hr
  | cons hw _ ih => exact .cons hw (ih ht)

/-- Changes behind a trail that are none to the table. -/
theorem after (hs : Trail s h t) (hm : u.memo = t.memo) (ha : u.active.frames ⊆ t.active.frames) :
    Trail s h u := by
  have := hs.append (.nil hm ha)
  rwa [List.append_nil] at this

/-- The write before a moment of a trail. -/
theorem writes (ht : Trail s (h₁ ++ m :: h₂) t) : (s.reached h₁).Writes m := by
  induction h₁ generalizing s with
  | nil =>
    cases ht with
    | cons hw hr => exact hw
  | cons m' h₁ ih =>
    cases ht with
    | cons hw hr => exact ih hr

end Trail

/-! ### Every history is a trail -/

/-- The history of an evaluation is a trail. That of a body begins with the moment in which it is
begun, and ends with the rule still open. That of a growth begins with the write that gave rise to
it. -/
def Judgement.Trails (cfg : Setting R) (h : List (Moment R)) : Judgement R → Prop
  | .expr _ s _ t => s.Valid cfg → Trail s h t
  | .loop _ s t => s.Valid cfg → Trail s h t
  | .body r s _ t => (s.enter r).Valid cfg →
      ∃ h', h = .opened r (s.enter r) :: h' ∧ Trail (s.enter r) h' (t.leaveTo (s.enter r))
  | .growth r start best s _ t => s.Growing cfg r start best →
      ∀ w : State R, w.Writes (.opened r ((s.moveTo start).enter r)) → Trail w h t
  | .rule _ s _ t => s.Valid cfg → Trail s h t

/-- **Every history is a trail.** -/
theorem Derives.trail {j : Judgement R} {h : List (Moment R)} (hj : Derives cfg j h) :
    j.Trails cfg h := by
  have same : ∀ {a b : State R}, a.active = b.active → a.active.frames ⊆ b.active.frames :=
    fun heq => heq ▸ List.Subset.refl _
  -- An entry that is begun is still pending when its body was evaluated.
  have pending : ∀ {r : R} {s t : State R} {o h}, Derives cfg (.body r (s.begin r) o t) h →
      t.Pending r s.pos := fun {r s t o h} hb =>
    hb.sustains (fun _ _ => ⟨true, rfl⟩) r s.pos
      ⟨.inProgress false, by simp [State.progress?_begin], false, rfl⟩
  induction hj with
  | succeed | fail | inspect => exact fun _ => .nil rfl (List.Subset.refl _)
  | byte hb =>
    exact fun hv => .nil (State.reads_takeByte hb).memo (same ((State.reads_takeByte hb).reaches hv).active)
  | run hb =>
    exact fun hv => .nil (State.reads_takeRun hb).memo (same ((State.reads_takeRun hb).reaches hv).active)
  | literal hb =>
    exact fun hv =>
      .nil (State.reads_takeLiteral hb).memo (same ((State.reads_takeLiteral hb).reaches hv).active)
  | apply _ _ ih | andThen_miss _ ih | orElse _ ih | attempt _ ih | many _ ih | loop_still _ _ ih =>
    exact ih
  | andThen he₁ _ ih₁ ih₂ | orElse_next he₁ _ ih₁ ih₂ | loop_next he₁ _ _ ih₁ ih₂ =>
    exact fun hv => (ih₁ hv).append (ih₂ (he₁.sound hv).valid)
  | attempt_miss _ ih | notAhead_miss _ ih | ahead _ ih | capture _ ih | capture_miss _ ih
  | check_miss _ ih | loop_miss _ ih => exact fun hv => (ih hv).after rfl (List.Subset.refl _)
  | notAhead _ ih =>
    exact fun hv => (ih hv).after (State.memo_miss _) (same (State.active_miss _))
  | @check e policy s t u h he hp ih | @check_refused e policy s t u h he hp ih =>
    intro hv
    have hu := reaches_askPolicy hp (.refl (he.sound hv).valid)
    have hasked : Trail s h u := (ih hv).after (memo_askPolicy hp) (same hu.active)
    exact hasked.after rfl (List.Subset.refl _)
  | @body r s t h he ih | @body_miss r s t h he ih =>
    exact fun hv => ⟨h, rfl, (ih hv).after rfl (same (he.sound hv).active.symm)⟩
  | @grow r start best s next t o u h₁ h₂ hb hlt hg ih₁ ih₂ =>
    intro hs w hw
    have hc := hb.sound hs.enter
    obtain ⟨h', rfl, ht⟩ := ih₁ hs.enter
    have hbest : t.progress? r start = some (.done best) := hb.knows r start best hs.done
    have hframes : (((t.settle r start next).moveTo start).enter r).active =
        (t.leaveTo ((s.moveTo start).enter r)).active :=
      congrArg (·.push r start) hc.active
    have hu := ih₂ (hs.next hc hlt.1) (t.leaveTo ((s.moveTo start).enter r))
      (.grown hbest ⟨hs.matched, hlt.1, hlt.2⟩ List.mem_cons_self rfl (same hframes))
    exact (Trail.cons hw ht).append hu
  | @grow_stop r start best s next t h hb hle ih =>
    intro hs w hw
    have hc := hb.sound hs.enter
    obtain ⟨h', rfl, ht⟩ := ih hs.enter
    exact Trail.cons hw (ht.after rfl fun k hk => List.mem_cons_of_mem _ (same hc.active hk))
  | recalled => exact fun _ => .cons (.recalled rfl (List.Subset.refl _)) (.nil rfl (List.Subset.refl _))
  | @reentered r s again k he =>
    intro _
    have hk : s.Pending r s.pos := ⟨_, State.progress?_of_get? he, again, rfl⟩
    exact .cons (.reentered hk rfl (List.Subset.refl _)) (.nil rfl (List.Subset.refl _))
  | refused => exact fun _ => .cons (.still rfl (List.Subset.refl _)) (.nil rfl (List.Subset.refl _))
  | @settled r s o t h hn hd hb hg ih =>
    intro hv
    have hv' := hv.enter_begin (State.progress?_eq_none.mpr hn) hd
    have hc := hb.sound hv'
    obtain ⟨h', rfl, ht⟩ := ih hv'
    have hbegun : s.Writes (.opened r ((s.begin r).enter r)) :=
      .begun (State.progress?_eq_none.mpr hn) rfl (List.Subset.refl _)
    have hk : t.Pending r s.pos := pending hb
    have hlast : (t.leaveTo ((s.begin r).enter r)).Writes (.answered r s o (t.settle r s.pos o)) :=
      .settled hk rfl fun k hk => List.mem_cons_of_mem _ (same hc.active hk)
    exact (Trail.cons hbegun ht).append (.cons hlast (.nil rfl (List.Subset.refl _)))
  | @grown r s seed t o u h₁ h₂ hn hd hb hs hg ih₁ ih₂ =>
    intro hv
    have hv' := hv.enter_begin (State.progress?_eq_none.mpr hn) hd
    have hc := hb.sound hv'
    obtain ⟨h', rfl, ht⟩ := ih₁ hv'
    have hgrow := hc.growing_seed hv hn hd (Bool.and_eq_true_iff.mp hs).1
    have hbegun : s.Writes (.opened r ((s.begin r).enter r)) :=
      .begun (State.progress?_eq_none.mpr hn) rfl (List.Subset.refl _)
    have hframes : (((t.settle r s.pos seed).moveTo s.pos).enter r).active =
        (t.leaveTo ((s.begin r).enter r)).active :=
      congrArg (·.push r s.pos) hc.active
    have hk : t.Pending r s.pos := pending hb
    have hu := ih₂ hgrow (t.leaveTo ((s.begin r).enter r)) (.seeded hk rfl (same hframes))
    exact ((Trail.cons hbegun ht).append hu).append
      (.cons (.still rfl (List.Subset.refl _)) (.nil rfl (List.Subset.refl _)))

namespace Run

theorem StepHistory.trail {run : Run R} {step : Step R} {h : List (Moment R)}
    (hs : run.StepHistory step h) (hv : run.state.Valid run.setting) :
    Trail run.state h (run.step step).2.state := by
  have hv' : run.forgetReports.state.Valid run.setting := hv.clearEvents
  have hforget : Trail run.state [] run.forgetReports.state := .nil rfl (List.Subset.refl _)
  obtain ⟨r, o, hd⟩ | ⟨e, b, hd⟩ := hs.derives
  · exact hforget.append (hd.trail hv')
  · exact hforget.append (hd.trail hv')

/-- **Every run leaves a trail.** -/
theorem Trace.trail {run : Run R} {moves : List (Move R)} {h : List (Moment R)}
    (ht : run.Trace moves h) (hr : run.Rests) (hin : ∀ m ∈ moves, m.Inside run.setting.length) :
    Trail run.state h (run.moves moves).state := by
  induction ht with
  | nil => exact .nil rfl (List.Subset.refl _)
  | @make run step rest h₁ h₂ hs _ ih =>
    obtain ⟨hm, hrest⟩ := List.forall_mem_cons.mp hin
    rw [← hr.setting_move (.make step)] at hrest
    exact (hs.trail hr.valid).append (ih (hr.move hm) hrest)
  | @restore run pos rest h _ ih =>
    obtain ⟨hm, hrest⟩ := List.forall_mem_cons.mp hin
    have hstill : Trail run.state [] (run.move (.restore pos)).state :=
      .nil rfl (List.Subset.refl _)
    exact hstill.append (ih (hr.move hm) hrest)

end Run

/-! ### What is kept -/

/-- What has become of an entry: it has counted on, and its outcome is the same, or a longer match
has taken the place of a match because its rule was growing. -/
structure Entry.Becomes (grows : Prop) (e e' : Entry) : Prop where
  hits_le : e.hits ≤ e'.hits
  done : ∀ o, e.progress = .done o → ∃ o', e'.progress = .done o' ∧ (o' = o ∨ o.Lengthens o' ∧ grows)

theorem Entry.Becomes.refl (grows : Prop) (e : Entry) : e.Becomes grows e :=
  ⟨Nat.le_refl _, fun o ho => ⟨o, ho, .inl rfl⟩⟩

/-- Every entry of `u` has become an entry of `v`, where `G` holds of the rules that may grow. -/
def State.Keeps (G : R → Nat → Prop) (u v : State R) : Prop :=
  ∀ r p e, u.memo.get? r p = some e → ∃ e', v.memo.get? r p = some e' ∧ e.Becomes (G r p) e'

/-- What `u` remembers is kept in `v`, and a rule that is open in `v` but not in `u` had no entry in
`u`. A rule whose entry is done is open only while it grows. -/
structure State.Upholds (u v : State R) : Prop where
  keeps : u.Keeps (fun r p => (r, p) ∈ u.active.frames) v
  opened : ∀ r p, (r, p) ∈ v.active.frames → (r, p) ∈ u.active.frames ∨ u.progress? r p = none

/-- No entry has counted beyond the largest count. -/
def State.Counted (s : State R) : Prop :=
  ∀ r p e, s.memo.get? r p = some e → e.hits ≤ Entry.maxHits

namespace State

variable {u v w : State R} {G : R → Nat → Prop} {m : Moment R}

theorem progress?_ne_none {r : R} {p : Nat} {e : Entry} (he : u.memo.get? r p = some e) :
    u.progress? r p ≠ none := by
  rw [progress?, he]
  exact Option.some_ne_none _

theorem Upholds.trans (huv : u.Upholds v) (hvw : v.Upholds w) : u.Upholds w where
  keeps := by
    intro r p e he
    obtain ⟨e', he', hle, hdone⟩ := huv.keeps r p e he
    obtain ⟨e'', he'', hle', hdone'⟩ := hvw.keeps r p e' he'
    refine ⟨e'', he'', Nat.le_trans hle hle', fun o ho => ?_⟩
    obtain ⟨o', ho', heq⟩ := hdone o ho
    obtain ⟨o'', ho'', heq'⟩ := hdone' o' ho'
    refine ⟨o'', ho'', ?_⟩
    rcases heq' with rfl | ⟨hlong', hopen'⟩
    · exact heq
    · -- A rule that grows in `v` has had its entry in `u`, so it was open there already.
      have hopen := (huv.opened r p hopen').resolve_right (progress?_ne_none he)
      rcases heq with rfl | ⟨hlong, -⟩
      · exact .inr ⟨hlong', hopen⟩
      · exact .inr ⟨hlong.trans hlong', hopen⟩
  opened := by
    intro r p hw
    rcases hvw.opened r p hw with hv | hn
    · exact huv.opened r p hv
    · refine .inr (progress?_eq_none.mpr (Option.eq_none_iff_forall_ne_some.mpr fun e he => ?_))
      obtain ⟨e', he', -⟩ := huv.keeps r p e he
      exact progress?_ne_none he' hn

/-- A table that is written to at one place is kept if the entry there is. -/
theorem Keeps.of_written (r : R) (p : Nat)
    (hne : ∀ q i, ¬(r = q ∧ p = i) → v.memo.get? q i = u.memo.get? q i)
    (hkept : ∀ e, u.memo.get? r p = some e →
      ∃ e', v.memo.get? r p = some e' ∧ e.Becomes (G r p) e') : u.Keeps G v := by
  intro q i e he
  by_cases hk : r = q ∧ p = i
  · obtain ⟨rfl, rfl⟩ := hk
    exact hkept e he
  · exact ⟨e, (hne q i hk).trans he, .refl _ _⟩

/-- Settling an entry keeps the table if the entry holds no outcome or its match has grown. -/
theorem Keeps.of_finish {r : R} {p : Nat} {o : Outcome} (hm : v.memo = u.memo.finish r p o)
    (ho : ∀ best, u.progress? r p = some (.done best) → best.Lengthens o ∧ G r p) :
    u.Keeps G v := by
  refine .of_written r p (fun q i hk => ?_) fun e he => ?_
  · rw [hm, MemoTable.get?_finish, if_neg hk]
  · refine ⟨{ e with progress := .done o }, ?_, Nat.le_refl _, fun best hbest => ?_⟩
    · rw [hm, MemoTable.get?_finish, if_pos ⟨rfl, rfl⟩, he]
      rfl
    · exact ⟨o, rfl, .inr (ho best (by rw [progress?, he, ← hbest]; rfl))⟩

/-- An entry that is pending holds no outcome. -/
theorem Pending.ne_done {r : R} {p : Nat} (hk : u.Pending r p) (o : Outcome) :
    u.progress? r p ≠ some (.done o) := by
  obtain ⟨_, hx, again, rfl⟩ := hk
  rw [hx]
  nofun

/-- Counting a request does not count back. -/
theorem Counted.hits_le_visited (hc : u.Counted) {r : R} {p : Nat} {e : Entry}
    (he : u.memo.get? r p = some e) : e.hits ≤ e.visited.hits :=
  Nat.le_min.mpr ⟨Nat.le_succ _, hc r p e he⟩

/-- **What a write keeps.** Only growth replaces an outcome, by the application whose body is begun
once more at the next moment. -/
theorem Writes.keeps (hw : u.Writes m) (hc : u.Counted) :
    u.Keeps (fun r p => (r, p) ∈ u.active.frames ∧ ∃ s, m = .opened r s ∧ s.pos = p) m.state := by
  cases hw with
  | @begun r s hn hm =>
    intro q i e he
    refine ⟨e, ?_, .refl _ _⟩
    rw [Moment.state, hm, MemoTable.get?_begin, if_neg, he]
    rintro ⟨rfl, rfl⟩
    exact progress?_ne_none he hn
  | seeded hk hm | settled hk hm => exact .of_finish hm fun best hbest => absurd hbest (hk.ne_done best)
  | @grown r s best o hk ho hopen hm =>
    refine .of_finish hm fun best' hbest' => ⟨?_, hopen, s, rfl, rfl⟩
    cases hk.symm.trans hbest'
    exact ho
  | @recalled r s o t hm =>
    refine .of_written r s.pos (fun q i hk => ?_) fun e he => ?_
    · rw [Moment.state, hm, MemoTable.get?_visit, if_neg hk]
    · refine ⟨e.visited, ?_, hc.hits_le_visited he, fun o ho => ⟨o, ho, .inl rfl⟩⟩
      rw [Moment.state, hm, MemoTable.get?_visit, if_pos ⟨rfl, rfl⟩, he]
      rfl
  | @reentered r s o t hk hm =>
    refine .of_written r s.pos (fun q i hne => ?_) fun e he => ?_
    · rw [Moment.state, hm, MemoTable.get?_reenter, if_neg hne, MemoTable.get?_visit, if_neg hne]
    · refine ⟨{ e.visited with progress := .inProgress true }, ?_, hc.hits_le_visited he,
        fun o ho => absurd ?_ (hk.ne_done o)⟩
      · rw [Moment.state, hm, MemoTable.get?_reenter, if_pos ⟨rfl, rfl⟩, MemoTable.get?_visit,
          if_pos ⟨rfl, rfl⟩, he]
        rfl
      · rw [progress?, he, ← ho]
        rfl
  | still hm => exact fun q i e he => ⟨e, hm ▸ he, .refl _ _⟩

/-- A rule that is open at a moment was open before, or had no entry. -/
theorem Writes.opened (hw : u.Writes m) (r : R) (p : Nat) (h : (r, p) ∈ m.state.active.frames) :
    (r, p) ∈ u.active.frames ∨ u.progress? r p = none := by
  cases hw with
  | begun hn hm ha =>
    rcases List.mem_cons.mp (ha h) with heq | h
    · cases heq
      exact .inr hn
    · exact .inl h
  | seeded _ _ ha | grown _ _ _ _ ha | recalled _ ha | reentered _ _ ha | settled _ _ ha | still _ ha =>
    exact .inl (ha h)

theorem Writes.upholds (hw : u.Writes m) (hc : u.Counted) : u.Upholds m.state where
  keeps := by
    intro r p e he
    obtain ⟨e', he', hle, hdone⟩ := hw.keeps hc r p e he
    refine ⟨e', he', hle, fun o ho => ?_⟩
    obtain ⟨o', ho', heq⟩ := hdone o ho
    exact ⟨o', ho', heq.imp_right fun ⟨hlong, hopen, _⟩ => ⟨hlong, hopen⟩⟩
  opened := hw.opened

/-- A write does not count beyond the largest count. -/
theorem Writes.counted (hw : u.Writes m) (hc : u.Counted) : m.state.Counted := by
  -- What is written has the count of an entry that was there, of a visited one or of a new one.
  have begun : Entry.begun.hits ≤ Entry.maxHits := by decide
  have finished : ∀ {r : R} {p : Nat} {o : Outcome},
      ({ (u.memo.get? r p).getD Entry.begun with progress := .done o } : Entry).hits ≤ Entry.maxHits := by
    intro r p o
    cases he : u.memo.get? r p with
    | none => exact begun
    | some e => exact hc r p e he
  intro q i e he
  cases hw with
  | begun hn hm =>
    rw [Moment.state, hm, MemoTable.get?_begin] at he
    split at he
    · cases he
      exact begun
    · exact hc q i e he
  | seeded _ hm | grown _ _ _ hm | settled _ hm =>
    rw [Moment.state, hm, MemoTable.get?_finish] at he
    split at he
    · cases he
      exact finished
    · exact hc q i e he
  | recalled hm =>
    rw [Moment.state, hm, MemoTable.get?_visit] at he
    split at he
    · obtain ⟨d, hd, rfl⟩ := Option.map_eq_some_iff.mp he
      exact Nat.min_le_right _ _
    · exact hc q i e he
  | reentered _ hm =>
    rw [Moment.state, hm, MemoTable.get?_reenter, MemoTable.get?_visit] at he
    split at he
    · obtain ⟨d, hd, rfl⟩ := Option.map_eq_some_iff.mp he
      obtain ⟨d', hd', rfl⟩ := Option.map_eq_some_iff.mp hd
      exact Nat.min_le_right _ _
    · exact hc q i e he
  | still hm => exact hc q i e (hm ▸ he)

end State

/-- **What is remembered at a moment of a trail is kept at every later one.** -/
theorem Trail.upholds {s t : State R} {h : List (Moment R)} (ht : Trail s h t) (hc : s.Counted) :
    (chronicle s h t).Pairwise State.Upholds ∧ ∀ u ∈ chronicle s h t, u.Counted := by
  induction ht with
  | @nil s t hm ha =>
    have hst : s.Upholds t := ⟨fun r p e he => ⟨e, hm ▸ he, .refl _ _⟩, fun r p h => .inl (ha h)⟩
    have hct : t.Counted := fun r p e he => hc r p e (hm ▸ he)
    exact ⟨List.pairwise_pair.mpr hst, by simpa [chronicle] using ⟨hc, hct⟩⟩
  | @cons s m h t hw _ ih =>
    obtain ⟨hpair, hcount⟩ := ih (hw.counted hc)
    have hfirst := hw.upholds hc
    refine ⟨List.pairwise_cons.mpr ⟨fun u hu => ?_, hpair⟩, List.forall_mem_cons.mpr ⟨hc, hcount⟩⟩
    rcases List.mem_cons.mp hu with rfl | hu
    · exact hfirst
    · exact hfirst.trans ((List.pairwise_cons.mp hpair).1 u hu)

/-! ### Asking twice -/

namespace Run

variable {run : Run R} {r : R} {p : Nat} {o : Outcome}

/-- A run that may open a rule remembers the outcome of the rules that it applies. -/
theorem Rests.apply_done (hr : run.Rests) (hd : 1 ≤ run.setting.maxDepth) (r : R) :
    (run.apply r).2.Rests ∧ (run.apply r).2.setting = run.setting ∧
      (run.apply r).2.state.progress? r run.pos = some (.done (run.apply r).1) := by
  obtain ⟨o, t, h, heq, hder⟩ := run.exists_apply hr.valid r
  have ht := (hder.sound hr.valid).1
  rw [heq]
  refine ⟨⟨ht.valid, by rw [ht.active]; exact hr.frames⟩, rfl, ?_⟩
  cases hder with
  | recalled he =>
    rw [State.progress?_reuse]
    exact State.progress?_of_get? he
  | reentered he =>
    have hopen := hr.valid.inProgress (State.progress?_of_get? he)
    rw [hr.frames] at hopen
    cases hopen
  | refused _ hdepth =>
    rw [hr.depth_eq] at hdepth
    omega
  | settled => exact (State.progress?_settle ..).trans (if_pos ⟨rfl, rfl⟩)
  | grown _ _ _ _ hg =>
    -- What growth ends with is in the table, whatever rules are looked at.
    exact hg.replays (K := fun _ => True) ((State.progress?_settle ..).trans (if_pos ⟨rfl, rfl⟩))

theorem move_done (hr : run.Rests) (m : Move R) (hk : run.state.progress? r p = some (.done o)) :
    (run.move m).state.progress? r p = some (.done o) := by
  cases m with
  | make step =>
    obtain ⟨-, h, -, hs⟩ := run.exists_step hr.valid step
    obtain ⟨q, o', hd⟩ | ⟨e, b, hd⟩ := hs.derives
    · exact hd.knows r p o hk
    · exact hd.knows r p o hk
  | restore pos => exact hk

theorem moves_done (hr : run.Rests) {moves : List (Move R)}
    (hin : ∀ m ∈ moves, m.Inside run.setting.length)
    (hk : run.state.progress? r p = some (.done o)) :
    (run.moves moves).state.progress? r p = some (.done o) := by
  induction moves generalizing run with
  | nil => exact hk
  | cons m rest ih =>
    obtain ⟨hm, hrest⟩ := List.forall_mem_cons.mp hin
    rw [← hr.setting_move m] at hrest
    exact ih (hr.move hm) hrest (move_done hr m hk)

/-- Applying a rule that is remembered moves the position and counts the request. -/
theorem Rests.apply_remembered (hr : run.Rests) {k : Nat}
    (he : run.state.memo.get? r run.pos = some ⟨.done o, k⟩) :
    run.apply r = (o, { run with state := run.state.reuse r o }) := by
  obtain ⟨o', t, h, heq, hd⟩ := run.exists_apply hr.valid r
  obtain ⟨rfl, rfl, -⟩ := hd.determined _ _ _ (.recalled he)
  exact heq

end Run

/-- **The life of an entry.** What is remembered at any moment of a run is remembered at every later
one: the entry is there, has counted on, and is done if it was. Its outcome is the same, or a match
has become a longer one while its rule was open, and that happens only between two moments of which
the second begins the body of that rule there once more.

So a rule that is applied twice at a position gives the same outcome both times, whatever is done in
between, and the second time only the position and the count of its entry change. The bound has to
allow one rule to be open. -/
theorem outcomes_stable (g : Grammar R) (input : String) (maxDepth : Nat) (moves : List (Move R))
    (hin : ∀ m ∈ moves, m.Inside input.utf8ByteSize) :
    let run := Run.start g input maxDepth
    let last := run.moves moves
    (∃ h, run.Trace moves h ∧ (∀ h', run.Trace moves h' → h' = h) ∧
      (chronicle run.state h last.state).Pairwise
        (fun u v => u.Keeps (fun r p => (r, p) ∈ u.active.frames) v) ∧
      ∀ h₁ m h₂, h = h₁ ++ m :: h₂ →
        let u := run.state.reached h₁
        u.Keeps (fun r p => (r, p) ∈ u.active.frames ∧ ∃ s, m = .opened r s ∧ s.pos = p) m.state) ∧
    (1 ≤ maxDepth → ∀ r (between : List (Move R)), (∀ m ∈ between, m.Inside input.utf8ByteSize) →
      let first := last.apply r
      let later := first.2.moves between
      later.pos = last.pos → ∃ k,
        later.state.memo.get? r last.pos = some ⟨.done first.1, k⟩ ∧
        later.apply r = (first.1, { later with
          state := { later.state with
            pos := first.1.stop
            memo := later.state.memo.visit r last.pos } })) := by
  intro run last
  have hrun : run.Rests := Run.rests_start g input maxDepth
  have hcount : run.state.Counted := by simp [run, Run.start, State.initial, State.Counted]
  obtain ⟨h, ht⟩ := hrun.exists_trace hin
  have htrail := ht.trail hrun hin
  obtain ⟨hpair, hcounts⟩ := htrail.upholds hcount
  refine ⟨⟨h, ht, fun h' ht' => ht.unique ht', hpair.imp fun hu => hu.keeps, ?_⟩, ?_⟩
  · rintro h₁ m h₂ rfl
    exact htrail.writes.keeps (hcounts _ (State.reached_mem_chronicle ..))
  · intro hd r between hbetween first later hpos
    obtain ⟨hset, hlast⟩ := Run.moves_kept hrun hin
    obtain ⟨hfirst, hset', hdone⟩ := hlast.apply_done (hset ▸ hd) r
    have hin' : ∀ m ∈ between, m.Inside first.2.setting.length := by rwa [hset', hset]
    obtain ⟨-, hlater⟩ := Run.moves_kept hfirst hin'
    obtain ⟨k, he⟩ := State.exists_get?_of_progress? (Run.moves_done hfirst hin' hdone)
    refine ⟨k, he, ?_⟩
    rw [hlater.apply_remembered (hpos ▸ he), State.reuse, show later.state.pos = last.pos from hpos]
    rfl

/-- A match that is grown when it is asked for, and asked for again after a look at another place.
Had it not grown it would end behind the digit. -/
theorem outcomes_stable_pluses :
    let before := [Move.make (.eval (.token '1')), .restore 0]
    let between := [Move.restore 1, .make .root, .make (.eval .anyByte), .restore 0]
    let last := (Run.start pluses "1++(" 5).moves before
    let later := (last.apply ()).2.moves between
    (∀ m ∈ before, m.Inside "1++(".utf8ByteSize) ∧ (∀ m ∈ between, m.Inside "1++(".utf8ByteSize) ∧
      (last.apply ()).1 = .hit 0 3 ∧ later.pos = last.pos ∧ ∃ k,
        later.state.memo.get? () last.pos = some ⟨.done (last.apply ()).1, k⟩ ∧
        later.apply () = ((last.apply ()).1, { later with
          state := { later.state with
            pos := (last.apply ()).1.stop
            memo := later.state.memo.visit () last.pos } }) := by
  intro before between last later
  have hbefore : ∀ m ∈ before, m.Inside "1++(".utf8ByteSize := by decide
  have hbetween : ∀ m ∈ between, m.Inside "1++(".utf8ByteSize := by decide
  have hpos : later.pos = last.pos := by decide
  have hagain := (outcomes_stable pluses "1++(" 5 before hbefore).2 (by decide) () between hbetween
  exact ⟨hbefore, hbetween, by decide, hpos, hagain hpos⟩

end AddressGrammar.Peg
