import AddressGrammar.Proofs.Peg.History
import AddressGrammar.Proofs.Peg.Replay

/-!
# Direct left recursion is iteration

A rule whose first alternatives begin with the rule itself matches what its other alternatives match
and after that as many of the suffixes as there are. The grammar that says so with a repetition does
the same thing, step by step: the seed is the match of a base, each step of growth takes one suffix,
and growth stops where the repetition does.

Growth does one thing more. When no suffix matches any longer, the body goes on to the bases and
evaluates them again. By then every rule that they apply is remembered, so they only repeat what
they did before, and that is never longer than the best match.

## Main definitions

* `Expr.firstOf`, `Expr.leftRecursive`, `Expr.iterated` — the two ways to write such a rule
* `Grammar.Reaches` — the rules that an expression can come to
* `Setting.Unrolls` — two settings that differ in how they write the rule
* `Tries` — alternatives, one after the other

## Main results

* `Derives.suffix_of_growing`, `loop_of_growth` — a step of growth is one suffix, and growth is
  repetition of suffixes
* `Derives.iterates` — so the two ways to write the rule lead to the same outcome
* `leftRecursion_eq_iteration` — and so do the two grammars on fresh runs
-/

namespace AddressGrammar.Peg

open Text

variable {R : Type}

/-- The rule `x`, each suffix behind itself and then the bases. -/
def Expr.leftRecursive (x : R) (suffixes bases : List (Expr R)) : Expr R :=
  alt ((suffixes.map fun e => seq [apply x, e]) ++ bases.map fun e => seq [e])

/-- The first of the expressions that matches, each in a bracket of its own. -/
def Expr.firstOf (es : List (Expr R)) : Expr R := alt (es.map fun e => seq [e])

/-- A base and then suffixes, as many as there are. -/
def Expr.iterated (suffixes bases : List (Expr R)) : Expr R :=
  chain [firstOf bases, many (firstOf suffixes)]

/-- The rules that an expression applies, itself or through other rules. -/
inductive Grammar.Reaches (g : Grammar R) : Expr R → R → Prop where
  | applied {e r} (h : r ∈ e.applied) : Reaches g e r
  | through {e q r} (h : q ∈ e.applied) (hr : Reaches g (g.body q) r) : Reaches g e r

/-- Within a set that is closed under application, nothing else is reached. -/
theorem Grammar.Reaches.mem {K : R → Prop} {g : Grammar R} {e : Expr R} {r : R}
    (h : g.Reaches e r) (hclosed : ∀ q, K q → (g.body q).Within K) (he : e.Within K) : K r := by
  induction h with
  | applied h => exact he _ h
  | through h _ ih => exact ih (hclosed _ (he _ h))

theorem Grammar.Reaches.body {g : Grammar R} {e : Expr R} {q r : R} (h : g.Reaches e q)
    (hr : r ∈ (g.body q).applied) : g.Reaches e r := by
  induction h with
  | applied h => exact .through h (.applied hr)
  | through h _ ih => exact .through h (ih hr)

variable {K : R → Prop} {cfg cfg' : Setting R} {spare : Nat}

theorem Expr.within_alt {es : List (Expr R)} : (alt es).Within K ↔ ∀ e ∈ es, e.Within K := by
  induction es with
  | nil => simp [alt, Within, applied]
  | cons e es ih =>
    cases es with
    | nil => simp [alt]
    | cons e' es =>
      change (orElse e (alt (e' :: es))).Within K ↔ _
      rw [within_orElse, ih, List.forall_mem_cons (l := e' :: es)]

theorem Expr.within_firstOf {es : List (Expr R)} (h : ∀ e ∈ es, e.Within K) :
    (firstOf es).Within K := by
  refine within_alt.mpr fun e he => ?_
  obtain ⟨e', he', rfl⟩ := List.mem_map.mp he
  exact h e' he'

theorem Expr.within_iterated {suffixes bases : List (Expr R)}
    (hsuffixes : ∀ e ∈ suffixes, e.Within K) (hbases : ∀ e ∈ bases, e.Within K) :
    (iterated suffixes bases).Within K :=
  within_andThen.mpr ⟨within_firstOf hbases, within_firstOf hsuffixes⟩

/-- A setting with a left-recursive rule and one in which the rule repeats instead. What the rule
consists of does not come back to it. -/
structure Setting.Unrolls (K : R → Prop) (cfg cfg' : Setting R) (x : R)
    (suffixes bases : List (Expr R)) : Prop where
  shares : cfg.Shares K cfg'
  not_mem : ¬K x
  suffixes_within : ∀ e ∈ suffixes, e.Within K
  bases_within : ∀ e ∈ bases, e.Within K
  body_left : cfg.grammar.body x = .leftRecursive x suffixes bases
  body_right : cfg'.grammar.body x = .iterated suffixes bases

/-! ### Alternatives -/

variable [DecidableEq R]

/-- Expressions are tried one after the other until one of them matches. -/
inductive Tries (cfg : Setting R) : List (Expr R) → State R → Bool → State R → Prop where
  | none {s} : Tries cfg [] s false s
  | hit {e es s t h} (he : Derives cfg (.expr e s true t) h) : Tries cfg (e :: es) s true t
  | next {e es s t b u h} (he : Derives cfg (.expr e s false t) h) (hr : Tries cfg es t b u) :
      Tries cfg (e :: es) s b u

theorem tries_iff {es : List (Expr R)} {s t : State R} {b : Bool} :
    Tries cfg es s b t ↔ ∃ h, Derives cfg (.expr (Expr.alt es) s b t) h := by
  constructor
  · intro ht
    induction ht with
    | none => exact ⟨[], .fail⟩
    | @hit e es s t h he =>
      cases es with
      | nil => exact ⟨h, he⟩
      | cons e' es => exact ⟨h, .orElse he⟩
    | @next e es s t b u h he hr ih =>
      cases es with
      | nil =>
        cases hr
        exact ⟨h, he⟩
      | cons e' es =>
        obtain ⟨h', hd⟩ := ih
        exact ⟨h ++ h', .orElse_next he hd⟩
  · rintro ⟨h, hd⟩
    induction es generalizing s h with
    | nil =>
      cases hd
      exact .none
    | cons e es ih =>
      cases es with
      | nil =>
        cases b with
        | true => exact .hit hd
        | false => exact .next hd .none
      | cons e' es =>
        cases hd with
        | orElse he => exact .hit he
        | orElse_next he hr => exact .next he (ih _ hr)

namespace Tries

variable {es es' : List (Expr R)} {s s' t : State R} {b : Bool}

/-- The last alternatives are tried where the first have failed. -/
theorem split (h : Tries cfg (es ++ es') s b t) :
    b = true ∧ Tries cfg es s true t ∨ ∃ u, Tries cfg es s false u ∧ Tries cfg es' u b t := by
  induction es generalizing s with
  | nil => exact .inr ⟨s, .none, h⟩
  | cons e es ih =>
    cases h with
    | hit he => exact .inl ⟨rfl, .hit he⟩
    | next he hr =>
      rcases ih hr with ⟨hb, ht⟩ | ⟨u, hu, ht⟩
      · exact .inl ⟨hb, .next he ht⟩
      · exact .inr ⟨u, .next he hu, ht⟩

theorem since (h : Tries cfg es s b t) : t.Since s := by
  obtain ⟨h', hd⟩ := tries_iff.mp h
  exact hd.since

theorem reaches (h : Tries cfg es s b t) (hv : s.Valid cfg) : s.Reaches cfg t := by
  obtain ⟨h', hd⟩ := tries_iff.mp h
  exact hd.sound hv

theorem knows (h : Tries cfg es s b t) {r : R} {p : Nat} {o : Outcome}
    (hk : s.progress? r p = some (.done o)) : t.progress? r p = some (.done o) := by
  obtain ⟨h', hd⟩ := tries_iff.mp h
  exact hd.knows r p o hk

end Tries

/-! ### The rule asks for itself -/

section Suffixes

variable {x : R} {e : Expr R} {suffixes bases : List (Expr R)} {s s' t : State R} {b : Bool}
  {o best : Outcome} {h : List (Moment R)}

theorem Derives.eq_of_inProgress {again : Bool} (hk : s.progress? x s.pos = some (.inProgress again))
    (hd : Derives cfg (.rule x s o t) h) : o = .missed s.pos ∧ t = s.reenter x := by
  obtain ⟨k, he⟩ := State.exists_get?_of_progress? hk
  obtain ⟨rfl, rfl, -⟩ := (Derives.reentered he).determined _ _ _ hd
  exact ⟨rfl, rfl⟩

theorem Derives.eq_of_done (hk : s.progress? x s.pos = some (.done best))
    (hd : Derives cfg (.rule x s o t) h) : o = best ∧ t = s.reuse x best := by
  obtain ⟨k, he⟩ := State.exists_get?_of_progress? hk
  obtain ⟨rfl, rfl, -⟩ := (Derives.recalled he).determined _ _ _ hd
  exact ⟨rfl, rfl⟩

/-- A rule that is not in the table is evaluated, unless the bound on nesting is hit. -/
theorem Derives.depth_lt_of_new (hn : s.memo.get? x s.pos = none) (hd : Derives cfg (.rule x s o t) h)
    (hex : t.exhausted = false) : s.depth < cfg.maxDepth := by
  cases hd with
  | recalled he | reentered he => cases hn.symm.trans he
  | refused => cases hex
  | settled _ hdepth | grown _ hdepth => exact hdepth

/-- An alternative that begins with the rule applies it and goes on to the suffix if it matches. -/
theorem Derives.suffix_cases (hd : Derives cfg (.expr (.seq [.apply x, e]) s b t) h) :
    ∃ o u h₁, Derives cfg (.rule x s o u) h₁ ∧
      (o.matched = false ∧ b = false ∧ t = u.moveTo s.pos ∨
        o.matched = true ∧ ∃ w h₂, Derives cfg (.expr e u b w) h₂ ∧
          t = if b then w else w.moveTo s.pos) := by
  cases hd with
  | attempt hd =>
    cases hd with
    | andThen hd he =>
      cases hd with
      | apply hr hb => exact ⟨_, _, _, hr, .inr ⟨hb, _, _, he, rfl⟩⟩
  | attempt_miss hd =>
    cases hd with
    | andThen hd he =>
      cases hd with
      | apply hr hb => exact ⟨_, _, _, hr, .inr ⟨hb, _, _, he, rfl⟩⟩
    | andThen_miss hd =>
      cases hd with
      | apply hr hb => exact ⟨_, _, _, hr, .inl ⟨hb, rfl, rfl⟩⟩

/-- While the rule is in progress, no alternative that begins with it matches. If there is one, the
rule is found to ask for itself. -/
theorem tries_inProgress (hx : ¬K x) (hv : s.Valid cfg) {again : Bool}
    (hk : s.progress? x s.pos = some (.inProgress again))
    (ht : Tries cfg (suffixes.map fun e => .seq [.apply x, e]) s b t) :
    b = false ∧ s.Reaches cfg t ∧ s.Alike K cfg cfg 0 t ∧
      t.progress? x s.pos = some (.inProgress (again || !suffixes.isEmpty)) := by
  induction suffixes generalizing s again with
  | nil =>
    cases ht
    exact ⟨rfl, .refl hv, .refl _, by simpa using hk⟩
  | cons e suffixes ih =>
    have hskip : ∀ {c u h}, Derives cfg (.expr (.seq [.apply x, e]) s c u) h →
        c = false ∧ u = (s.reenter x).moveTo s.pos := by
      intro c u h hd
      obtain ⟨o, w, h₁, hr, hcase⟩ := hd.suffix_cases
      obtain ⟨rfl, rfl⟩ := hr.eq_of_inProgress hk
      obtain ⟨-, rfl, rfl⟩ | ⟨hm, -⟩ := hcase
      · exact ⟨rfl, rfl⟩
      · cases hm
    cases ht with
    | hit he => cases (hskip he).1
    | next he hr =>
      obtain ⟨-, rfl⟩ := hskip he
      have hu : s.Reaches cfg ((s.reenter x).moveTo s.pos) := ⟨hv.reenter hk, Nat.le_refl _, rfl⟩
      have hmark : ((s.reenter x).moveTo s.pos).progress? x s.pos = some (.inProgress true) := by
        rw [State.progress?_moveTo, State.progress?_reenter hk, if_pos ⟨rfl, rfl⟩]
      obtain ⟨hb, ht, ha, hk'⟩ := ih hu.valid hmark hr
      refine ⟨hb, hu.trans ht, ⟨ha.pos, ha.exhausted, ha.room, fun q i hq => ?_⟩,
        by simpa using hk'⟩
      have hne : x ≠ q := fun heq => hx (heq ▸ hq)
      rw [ha.progress q i hq, State.progress?_moveTo, State.progress?_reenter_of_ne hne hk]

/-- Once the rule has a best match, an alternative that begins with it is the suffix behind that
match. -/
theorem tries_done (hshare : cfg.Shares K cfg') (hx : ¬K x) (hwithin : ∀ e ∈ suffixes, e.Within K)
    (hv : s.Valid cfg) (hk : s.progress? x s.pos = some (.done best)) (hm : best.matched = true)
    (ha : (s.moveTo best.stop).Alike K cfg cfg' spare s')
    (ht : Tries cfg (suffixes.map fun e => .seq [.apply x, e]) s b t)
    (hex : spare = 0 ∨ t.exhausted = false) :
    ∃ t', Tries cfg' (suffixes.map fun e => .seq [e]) s' b t' ∧
      if b then t.Alike K cfg cfg' spare t' ∧ best.stop ≤ t.pos else t.pos = s.pos := by
  induction suffixes generalizing s s' with
  | nil =>
    cases ht
    exact ⟨s', .none, rfl⟩
  | cons e suffixes ih =>
    obtain ⟨he, hrest⟩ := List.forall_mem_cons.mp hwithin
    have hreuse : s.Reaches cfg (s.reuse x best) := ⟨hv.reuse hk, (hv.done hk).le_stop, rfl⟩
    have halike : (s.reuse x best).Alike K cfg cfg' spare s' :=
      ha.left ⟨rfl, rfl, rfl, fun q i _ => State.progress?_reuse s x best q i⟩
    have hsuffix : ∀ {c u h}, Derives cfg (.expr (.seq [.apply x, e]) s c u) h →
        ∃ w h', Derives cfg (.expr e (s.reuse x best) c w) h' ∧
          u = if c then w else w.moveTo s.pos := by
      intro c u h hd
      obtain ⟨o, v, h₁, hr, hcase⟩ := hd.suffix_cases
      obtain ⟨rfl, rfl⟩ := hr.eq_of_done hk
      obtain ⟨hm', -⟩ | ⟨-, hcase⟩ := hcase
      · cases hm.symm.trans hm'
      · exact hcase
    cases ht with
    | hit hd =>
      obtain ⟨w, h', hw, rfl⟩ := hsuffix hd
      obtain ⟨w', h'', hd', haw⟩ := hw.mirrors hshare he hex s' halike
      exact ⟨w', .hit (.attempt hd'), haw, (hw.sound hreuse.valid).le⟩
    | next hd htries =>
      obtain ⟨w, h', hw, rfl⟩ := hsuffix hd
      obtain ⟨w', h'', hd', haw⟩ :=
        hw.mirrors hshare he (htries.since.or_not_exhausted hex) s' halike
      have hreach : s.Reaches cfg (w.moveTo s.pos) := (hreuse.trans (hw.sound hreuse.valid)).restore hv
      have hkw : (w.moveTo s.pos).progress? x s.pos = some (.done best) := by
        rw [State.progress?_moveTo, hw.untouched hshare.closed hx he, State.progress?_reuse, hk]
      have haw' : ((w.moveTo s.pos).moveTo best.stop).Alike K cfg cfg' spare (w'.moveTo s'.pos) := by
        rw [show s'.pos = best.stop from ha.pos]
        exact haw.moveTo best.stop
      obtain ⟨t', ht', hres⟩ := ih hrest hreach.valid hkw haw' htries
      exact ⟨t', .next (.attempt_miss hd') ht', hres⟩

end Suffixes

/-! ### Growth takes one suffix after the other -/

section Growth

variable {x : R} {suffixes bases : List (Expr R)} {s s' t v : State R} {best next o : Outcome}
  {start limit : Nat} {h : List (Moment R)}

/-- Wherever the outcomes of `v` are remembered, the alternatives match no further than `limit`. -/
def EndBy (K : R → Prop) (cfg : Setting R) (es : List (Expr R)) (start : Nat) (v : State R)
    (limit : Nat) : Prop :=
  ∀ u w, u.pos = start → u.Recalls K v → Tries cfg es u true w → w.pos ≤ limit

/-- Alternatives that are tried once more match what they matched before. -/
theorem Tries.endBy {es : List (Expr R)} (hwithin : ∀ e ∈ es, e.Within K) (hv : s.Valid cfg)
    (hi : s.Idle K) (hex : t.exhausted = false)
    (ht : Tries cfg (es.map fun e => .seq [e]) s true t) :
    EndBy K cfg (es.map fun e => .seq [e]) s.pos t t.pos := by
  intro u w hpos hrec hw
  obtain ⟨h, hd⟩ := tries_iff.mp ht
  obtain ⟨h', hd'⟩ := tries_iff.mp hw
  obtain ⟨w', h'', hd'', hpos'⟩ :=
    hd.replays (Expr.within_firstOf hwithin) hv hi hex u hpos hrec
  obtain ⟨-, rfl, -⟩ := hd''.determined _ _ _ hd'
  exact Nat.le_of_eq hpos'

/-- Inside a rule that the set leaves out, the rules of the set are as idle as around it. -/
theorem State.Idle.of_reaches {u : State R} (hi : s.Idle K) (hx : ¬K x)
    (hreach : ((s.begin x).enter x).Reaches cfg u) : u.Idle K := by
  rw [State.Idle, hreach.active]
  rintro r p (_ | ⟨_, hmem⟩)
  · exact hx
  · exact hi r p hmem

/-- The outcome of a rule that the set leaves out makes no difference to the rules of the set. -/
theorem State.recalls_settle (hx : ¬K x) (w : State R) (p : Nat) (o : Outcome) :
    ((w.leaveTo s).settle x p o).Recalls K w := by
  intro r i o' hr hk
  have hne : x ≠ r := fun heq => hx (heq ▸ hr)
  rwa [State.progress?_settle_of_ne hne]

/-- Inside a rule that the set leaves out, all is as around it, but for the room of one body. -/
theorem State.alike_inside (hx : ¬K x) (s : State R)
    (hroom : 1 + cfg'.maxDepth = cfg.maxDepth + spare) :
    ((s.begin x).enter x).Alike K cfg cfg' spare s where
  pos := rfl
  exhausted := rfl
  room := by
    change s.depth + 1 + cfg'.maxDepth = s.depth + cfg.maxDepth + spare
    omega
  progress := fun q p hq => by
    have hne : x ≠ q := fun heq => hx (heq ▸ hq)
    rw [State.progress?_enter, State.progress?_begin_of_ne hne]

/-- Before a rule is evaluated once more, the state is like the one in which it matched. -/
theorem State.alike_reopened (hx : ¬K x) {w : State R} (hw : (s.enter x).Reaches cfg w)
    (o : Outcome) : w.Alike K cfg cfg 0
      ((((w.leaveTo s).settle x s.pos o |>.moveTo s.pos).enter x).moveTo w.pos) where
  pos := rfl
  exhausted := rfl
  room := by
    rw [State.depth, hw.active]
    rfl
  progress := fun q p hq => by
    have hne : x ≠ q := fun heq => hx (heq ▸ hq)
    rw [State.progress?_moveTo, State.progress?_enter, State.progress?_moveTo,
      State.progress?_settle_of_ne hne, State.progress?_leaveTo]

/-- **A step of growth is one suffix.** Evaluated once more, the body takes the suffix that matches
behind the best match so far. If there is none, it finds nothing longer. -/
theorem Derives.suffix_of_growing (hu : cfg.Unrolls K cfg' x suffixes bases)
    (hg : s.Growing cfg x start best)
    (hend : EndBy K cfg (bases.map fun e => .seq [e]) start v limit) (hlimit : limit ≤ best.stop)
    (hrec : s.Recalls K v)
    (ha : (((s.moveTo start).enter x).moveTo best.stop).Alike K cfg cfg' spare s')
    (hd : Derives cfg (.body x (s.moveTo start) next t) h) (hex : t.exhausted = false) :
    (∃ t' h', Derives cfg' (.expr (.firstOf suffixes) s' true t') h' ∧
      (((t.settle x start next |>.moveTo start).enter x).moveTo next.stop).Alike K cfg cfg' spare t' ∧
        next.matched = true ∧ best.stop ≤ next.stop) ∨
    (∃ t' h', Derives cfg' (.expr (.firstOf suffixes) s' false t') h' ∧
      ¬(next.matched = true ∧ best.stop < next.stop)) := by
  have hv := hg.enter
  have hk : ((s.moveTo start).enter x).progress? x start = some (.done best) := hg.done
  have htries : ∀ {b w h}, Derives cfg (.expr (cfg.grammar.body x) ((s.moveTo start).enter x) b w) h →
      Tries cfg ((suffixes.map fun e => .seq [.apply x, e]) ++ bases.map fun e => .seq [e])
        ((s.moveTo start).enter x) b w := by
    intro b w h hd
    rw [hu.body_left] at hd
    exact tries_iff.mpr ⟨h, hd⟩
  cases hd with
  | @body _ _ w _ he =>
    have hex : w.exhausted = false := hex
    obtain ⟨-, ht⟩ | ⟨u, hmiss, ht⟩ := (htries he).split
    · obtain ⟨t', ht', haw, hle⟩ :=
        tries_done hu.shares hu.not_mem hu.suffixes_within hv hk hg.matched ha ht (.inr hex)
      obtain ⟨h', hd'⟩ := tries_iff.mp ht'
      exact .inl ⟨t', h', hd', haw.left (State.alike_reopened hu.not_mem (ht.reaches hv) _), rfl, hle⟩
    · obtain ⟨t', ht', hpos⟩ := tries_done hu.shares hu.not_mem hu.suffixes_within hv hk hg.matched ha hmiss
        (.inr (ht.since.not_exhausted hex))
      obtain ⟨h', hd'⟩ := tries_iff.mp ht'
      have hle : w.pos ≤ limit :=
        hend u w hpos (fun r p o hr hk => hmiss.knows (hrec r p o hr hk)) ht
      refine .inr ⟨t', h', hd', fun hlt => ?_⟩
      have hlt : best.stop < w.pos := hlt.2
      omega
  | @body_miss _ _ w _ he =>
    have hex : w.exhausted = false := hex
    obtain ⟨hb, -⟩ | ⟨u, hmiss, ht⟩ := (htries he).split
    · cases hb
    · obtain ⟨t', ht', -⟩ := tries_done hu.shares hu.not_mem hu.suffixes_within hv hk hg.matched ha hmiss
        (.inr (ht.since.not_exhausted hex))
      obtain ⟨h', hd'⟩ := tries_iff.mp ht'
      exact .inr ⟨t', h', hd', fun hm => by cases hm.1⟩

/-- **Growth is repetition of suffixes.** -/
theorem loop_of_growth (hu : cfg.Unrolls K cfg' x suffixes bases)
    (hg : s.Growing cfg x start best)
    (hend : EndBy K cfg (bases.map fun e => .seq [e]) start v limit) (hlimit : limit ≤ best.stop)
    (hrec : s.Recalls K v)
    (ha : (((s.moveTo start).enter x).moveTo best.stop).Alike K cfg cfg' spare s')
    (hd : Derives cfg (.growth x start best s o t) h) (hex : t.exhausted = false) :
    ∃ t' h', Derives cfg' (.loop (.firstOf suffixes) s' t') h' ∧
      t'.pos = o.stop := by
  generalize hj : Judgement.growth x start best s o t = j at hd
  induction hd generalizing best s s' with
  | @grow _ _ _ _ next w _ _ _ _ hb hlt hgr _ ih =>
    cases hj
    have hpos := ha.pos
    rw [State.pos_moveTo] at hpos
    obtain ⟨t', h', hd', hat, -⟩ | ⟨t', h', -, hnot⟩ := hb.suffix_of_growing hu hg
      hend hlimit hrec ha (hgr.since.not_exhausted hex)
    · have hpos' := hat.pos
      rw [State.pos_moveTo] at hpos'
      have hrec' : (w.settle x start next).Recalls K v := fun r p o hr hk => by
        have hne : x ≠ r := fun heq => hu.not_mem (heq ▸ hr)
        rw [State.progress?_settle_of_ne hne]
        exact hb.knows r p o (hrec r p o hr hk)
      obtain ⟨u', h'', hl, hstop⟩ := ih (hg.next (hb.sound hg.enter) hlt.1)
        (Nat.le_trans hlimit (Nat.le_of_lt hlt.2)) hrec' hat rfl
      refine ⟨u', _, .loop_next hd' ?_ hl, hstop⟩
      rw [hpos', hpos]
      exact Nat.ne_of_gt hlt.2
    · exact absurd hlt hnot
  | grow_stop hb hle =>
    cases hj
    have hpos := ha.pos
    rw [State.pos_moveTo] at hpos
    obtain ⟨t', h', hd', hat, hm, hge⟩ | ⟨t', h', hd', -⟩ := hb.suffix_of_growing hu hg
      hend hlimit hrec ha hex
    · have hpos' := hat.pos
      rw [State.pos_moveTo] at hpos'
      have hstill := Nat.le_antisymm (Nat.le_of_not_lt fun hlt => hle ⟨hm, hlt⟩) hge
      exact ⟨t', h', .loop_still hd' (by rw [hpos', hpos, hstill]), hpos'.trans hstill⟩
    · exact ⟨_, h', .loop_miss hd', hpos⟩
  | _ => cases hj

end Growth

/-! ### The two grammars -/

section Equivalence

variable {x : R} {suffixes bases : List (Expr R)} {s s' t : State R} {o seed : Outcome}
  {h : List (Moment R)}

/-- The first evaluation of the body comes to the bases, past all suffixes. They match what they
match anywhere else. -/
theorem Derives.bases_of_body (hshare : cfg.Shares K cfg') (hx : ¬K x)
    (hwithin : ∀ e ∈ bases, e.Within K)
    (hbody : cfg.grammar.body x = .leftRecursive x suffixes bases)
    (hv : ((s.begin x).enter x).Valid cfg)
    (ha : ((s.begin x).enter x).Alike K cfg cfg' spare s')
    (hd : Derives cfg (.body x (s.begin x) seed t) h) (hex : t.exhausted = false) :
    ∃ u w w', ((s.begin x).enter x).Reaches cfg u ∧ u.pos = s.pos ∧
      Tries cfg (bases.map fun e => .seq [e]) u seed.matched w ∧
      Tries cfg' (bases.map fun e => .seq [e]) s' seed.matched w' ∧
      w.Alike K cfg cfg' spare w' ∧ w.exhausted = false ∧
      t.memo.isReentered x s.pos = !suffixes.isEmpty ∧
      (seed.matched = true → seed = .hit s.pos w.pos ∧ t = w.leaveTo (s.begin x)) := by
  have hk : ((s.begin x).enter x).progress? x s.pos = some (.inProgress false) := by
    rw [State.progress?_enter, State.progress?_begin, if_pos ⟨rfl, rfl⟩]
  have hpast : ∀ {b w h}, Derives cfg (.expr (cfg.grammar.body x) ((s.begin x).enter x) b w) h →
      w.exhausted = false →
      ∃ u w', ((s.begin x).enter x).Reaches cfg u ∧ u.pos = s.pos ∧
        Tries cfg (bases.map fun e => .seq [e]) u b w ∧
        Tries cfg' (bases.map fun e => .seq [e]) s' b w' ∧ w.Alike K cfg cfg' spare w' ∧
        w.memo.isReentered x s.pos = !suffixes.isEmpty := by
    intro b w h hd hex
    rw [hbody] at hd
    obtain ⟨-, ht⟩ | ⟨u, hmiss, ht⟩ := (tries_iff.mpr ⟨h, hd⟩).split
    · cases (tries_inProgress hx hv hk ht).1
    · obtain ⟨-, hreach, hau, hmark⟩ := tries_inProgress hx hv hk hmiss
      obtain ⟨h₁, he⟩ := tries_iff.mp ht
      obtain ⟨w', h₁', he', haw⟩ :=
        he.mirrors hshare (Expr.within_firstOf hwithin) (.inr hex) s' (ha.left hau)
      refine ⟨u, w', hreach, hau.pos, ht, tries_iff.mpr ⟨h₁', he'⟩, haw, ?_⟩
      rw [Bool.eq_iff_iff, State.isReentered_iff,
        he.untouched hshare.closed hx (Expr.within_firstOf hwithin)]
      exact (congrArg (· = _) hmark).to_iff.trans (by simp)
  cases hd with
  | body he =>
    obtain ⟨u, w', hreach, hpos, ht, ht', haw, hmark⟩ := hpast he hex
    exact ⟨u, _, w', hreach, hpos, ht, ht', haw, hex, hmark, fun _ => ⟨rfl, rfl⟩⟩
  | body_miss he =>
    obtain ⟨u, w', hreach, hpos, ht, ht', haw, hmark⟩ := hpast he hex
    exact ⟨u, _, w', hreach, hpos, ht, ht', haw, hex, hmark, fun hm => by cases hm⟩

/-- The repeating rule comes to what its body does. -/
theorem exists_rule_of_iterated (hu : cfg.Unrolls K cfg' x suffixes bases)
    (hn : s.memo.get? x s.pos = none) (hd : s.depth < cfg'.maxDepth) {b : Bool}
    (he : Derives cfg' (.expr (.iterated suffixes bases) ((s.begin x).enter x) b t) h) :
    ∃ u h, Derives cfg' (.rule x s (if b then .hit s.pos t.pos else .missed s.pos) u) h := by
  have hmark : t.progress? x s.pos = some (.inProgress false) := by
    rw [he.untouched hu.shares.closed_right hu.not_mem
      (Expr.within_iterated hu.suffixes_within hu.bases_within),
      State.progress?_enter, State.progress?_begin, if_pos ⟨rfl, rfl⟩]
  have hclear : t.memo.isReentered x s.pos = false := by
    rw [← Bool.not_eq_true, State.isReentered_iff, hmark]
    simp
  rw [← hu.body_right] at he
  cases b with
  | false => exact ⟨_, _, .settled hn hd (.body_miss he) rfl⟩
  | true => exact ⟨_, _, .settled hn hd (.body he) hclear⟩

/-- What follows the match of a base is the repetition of suffixes. The bases match no further when
growth comes back to them. -/
theorem loop_of_seed (hu : cfg.Unrolls K cfg' x suffixes bases) (hi : s.Idle K) {u w w' : State R}
    (hreach : ((s.begin x).enter x).Reaches cfg u) (hpos : u.pos = s.pos)
    (ht : Tries cfg (bases.map fun e => .seq [e]) u true w) (haw : w.Alike K cfg cfg' spare w')
    (hexw : w.exhausted = false)
    (hgrow : ((w.leaveTo (s.begin x)).settle x s.pos (.hit s.pos w.pos)).Growing cfg x s.pos
      (.hit s.pos w.pos))
    (hd : Derives cfg (.growth x s.pos (.hit s.pos w.pos)
      ((w.leaveTo (s.begin x)).settle x s.pos (.hit s.pos w.pos)) o t) h)
    (hex : t.exhausted = false) :
    ∃ t' h', Derives cfg' (.loop (.firstOf suffixes) w' t') h' ∧ t'.pos = o.stop := by
  have hend := ht.endBy hu.bases_within hreach.valid (hi.of_reaches hu.not_mem hreach) hexw
  rw [hpos] at hend
  have halike := haw.left
    (State.alike_reopened hu.not_mem (hreach.trans (ht.reaches hreach.valid)) (.hit s.pos w.pos))
  exact loop_of_growth hu hgrow hend (Nat.le_refl _) (State.recalls_settle hu.not_mem w _ _) halike hd hex

/-- What a left-recursive rule comes to is what a base and the suffixes behind it match. -/
theorem Derives.iterated_of_rule (hu : cfg.Unrolls K cfg' x suffixes bases) (hv : s.Valid cfg)
    (hi : s.Idle K) (hn : s.memo.get? x s.pos = none)
    (ha : ((s.begin x).enter x).Alike K cfg cfg' spare s') (hd : Derives cfg (.rule x s o t) h)
    (hex : t.exhausted = false) :
    ∃ t' h', Derives cfg' (.expr (.iterated suffixes bases) s' o.matched t') h' ∧
      (o.matched = true → o.stop = t'.pos) := by
  cases hd with
  | recalled he | reentered he => cases hn.symm.trans he
  | refused => cases hex
  | settled _ hdepth hb hg =>
    have hv' := hv.enter_begin (State.progress?_eq_none.mpr hn) hdepth
    obtain ⟨u, w, w', -, -, -, ht', haw, -, hmark, hhit⟩ := hb.bases_of_body hu.shares hu.not_mem
      hu.bases_within hu.body_left hv' ha hex
    obtain ⟨h₁, he⟩ := tries_iff.mp ht'
    rw [hmark] at hg
    cases hm : o.matched with
    | false =>
      rw [hm] at he
      exact ⟨w', h₁, .andThen_miss he, fun hfalse => by cases hfalse⟩
    | true =>
      -- the rule did not ask for itself, so there is no suffix
      have hempty : suffixes = [] := by simpa [hm] using hg
      have hl : Derives cfg' (.loop (.firstOf suffixes) w' (w'.moveTo w'.pos)) [] := by
        rw [hempty]
        exact .loop_miss .fail
      rw [hm] at he
      refine ⟨_, _, .andThen he (.many hl), fun _ => ?_⟩
      rw [(hhit hm).1]
      exact haw.pos.symm
  | grown _ hdepth hb hs hg =>
    have hv' := hv.enter_begin (State.progress?_eq_none.mpr hn) hdepth
    have hm := (Bool.and_eq_true_iff.mp hs).1
    have hgrow := (hb.sound hv').growing_seed hv hn hdepth hm
    obtain ⟨u, w, w', hreach, hpos, ht, ht', haw, hexw, -, hhit⟩ := hb.bases_of_body hu.shares
      hu.not_mem hu.bases_within hu.body_left hv' ha (hg.since.not_exhausted hex)
    obtain ⟨rfl, rfl⟩ := hhit hm
    obtain ⟨t', h', hl, hstop⟩ := loop_of_seed hu hi hreach hpos ht haw hexw hgrow hg hex
    obtain ⟨h₁, he⟩ := tries_iff.mp ht'
    obtain ⟨-, -, -, -, hmo⟩ := hg.sound hgrow
    rw [hmo]
    exact ⟨t', _, .andThen he (.many hl), fun _ => hstop.symm⟩

/-- **Left recursion is iteration**, from every state in which the rule is new and none of its parts
is open. -/
theorem Derives.iterates (hu : cfg.Unrolls K cfg' x suffixes bases) (hv : s.Valid cfg)
    (hi : s.Idle K) (hn : s.memo.get? x s.pos = none) (hn' : s'.memo.get? x s'.pos = none)
    (ha : s.Alike K cfg cfg' spare s') (hd : Derives cfg (.rule x s o t) h)
    (hex : t.exhausted = false) : ∃ t' h', Derives cfg' (.rule x s' o t') h' := by
  obtain ⟨w, h₁, he, hstop⟩ := hd.iterated_of_rule hu hv hi hn ((ha.begin x).enter x x) hex
  obtain ⟨u, h₂, hr⟩ := exists_rule_of_iterated hu hn' (ha.depth_lt (hd.depth_lt_of_new hn hex)) he
  have hfits := (hd.sound hv).2.1
  have ho : (if o.matched then .hit s'.pos w.pos else .missed s'.pos) = o := by
    cases hm : o.matched with
    | false => exact ((hfits.eq_missed hm).trans (by rw [ha.pos]; rfl)).symm
    | true => exact ((hfits.eq_hit hm).trans (by rw [ha.pos, hstop hm]; rfl)).symm
  exact ⟨u, h₂, ho ▸ hr⟩

/-- The left-recursive rule matches exactly where one of its bases does. -/
theorem Derives.bases_of_rule (hclosed : cfg.Closed K) (hx : ¬K x)
    (hwithin : ∀ e ∈ bases, e.Within K)
    (hbody : cfg.grammar.body x = .leftRecursive x suffixes bases) (hv : s.Valid cfg)
    (hn : s.memo.get? x s.pos = none) (hd : Derives cfg (.rule x s o t) h)
    (hex : t.exhausted = false) :
    ∃ w h', Derives cfg (.expr (.firstOf bases) s o.matched w) h' := by
  have hshare : cfg.Shares K cfg := ⟨hclosed, rfl, fun _ _ => rfl⟩
  have ha : ((s.begin x).enter x).Alike K cfg cfg 1 s :=
    State.alike_inside hx s (Nat.add_comm 1 _)
  cases hd with
  | recalled he | reentered he => cases hn.symm.trans he
  | refused => cases hex
  | settled _ hdepth hb _ =>
    have hv' := hv.enter_begin (State.progress?_eq_none.mpr hn) hdepth
    obtain ⟨-, -, w', -, -, -, ht', -⟩ := hb.bases_of_body hshare hx hwithin hbody hv' ha hex
    exact ⟨w', tries_iff.mp ht'⟩
  | grown _ hdepth hb hs hg =>
    have hv' := hv.enter_begin (State.progress?_eq_none.mpr hn) hdepth
    have hm := (Bool.and_eq_true_iff.mp hs).1
    obtain ⟨-, -, -, -, hmo⟩ := hg.sound ((hb.sound hv').growing_seed hv hn hdepth hm)
    obtain ⟨-, -, w', -, -, -, ht', -⟩ :=
      hb.bases_of_body hshare hx hwithin hbody hv' ha (hg.since.not_exhausted hex)
    rw [hm, ← hmo] at ht'
    exact ⟨w', tries_iff.mp ht'⟩

end Equivalence

/-! ### Fresh runs -/

section Fresh

variable {g g' : Grammar R} {x : R} {suffixes bases : List (Expr R)} {input : String} {p d d' : Nat}

/-- **Direct left recursion is iteration.** Two grammars agree on all rules but `x`, which one of
them writes with left recursion and the other one with a repetition. Unless the bound on nesting is
hit, `x` comes to the same outcome in both wherever it is applied on a fresh run, and it fails
exactly where all of its bases do. -/
theorem leftRecursion_eq_iteration (hg : g.body x = .leftRecursive x suffixes bases)
    (hg' : g'.body x = .iterated suffixes bases) (hother : ∀ r, r ≠ x → g'.body r = g.body r)
    (hreach : ∀ e ∈ suffixes ++ bases, ¬g.Reaches e x) (hp : p ≤ input.utf8ByteSize)
    (hex : ((Run.startAt g input d p).apply x).2.isExhausted = false)
    (hex' : ((Run.startAt g' input d' p).apply x).2.isExhausted = false) :
    ((Run.startAt g input d p).apply x).1 = ((Run.startAt g' input d' p).apply x).1 ∧
      ((Run.startAt g input d p).apply x).1.matched =
        ((Run.startAt g input d p).eval (.firstOf bases)).1 := by
  let K r := ∃ e ∈ suffixes ++ bases, g.Reaches e r
  have hx : ¬K x := fun ⟨e, he, hr⟩ => hreach e he hr
  have hclosed : Setting.Closed K ⟨g, input, d⟩ :=
    fun r ⟨e, he, hr⟩ q hq => ⟨e, he, hr.body hq⟩
  have hsuffixes : ∀ e ∈ suffixes, e.Within K :=
    fun e he r hr => ⟨e, List.mem_append_left _ he, .applied hr⟩
  have hbases : ∀ e ∈ bases, e.Within K :=
    fun e he r hr => ⟨e, List.mem_append_right _ he, .applied hr⟩
  obtain ⟨o, t, h, heq, hd⟩ := (Run.startAt g input d p).exists_apply (Run.valid_startAt hp) x
  obtain ⟨o', t', h', heq', hd'⟩ := (Run.startAt g' input d' p).exists_apply (Run.valid_startAt hp) x
  obtain ⟨b, u, hu, hebases, heval⟩ :=
    (Run.startAt g input d p).exists_eval (Run.valid_startAt hp) (.firstOf bases)
  rw [heq] at hex ⊢
  rw [heq'] at hex' ⊢
  rw [hebases]
  have hn : (State.initial.moveTo p : State R).memo.get? x p = none := MemoTable.get?_empty x p
  have hv : (State.initial.moveTo p : State R).Valid ⟨g, input, d⟩ := Run.valid_startAt hp
  refine ⟨?_, ?_⟩
  · -- both runs are compared at the larger one of the two bounds
    have hunroll : Setting.Unrolls K ⟨g, input, d⟩ ⟨g', input, max d d'⟩ x suffixes bases :=
      ⟨⟨hclosed, rfl, fun r hr => hother r fun heq => hx (heq ▸ hr)⟩, hx, hsuffixes, hbases, hg, hg'⟩
    have halike : (State.initial.moveTo p).Alike K ⟨g, input, d⟩ ⟨g', input, max d d'⟩
        (max d d' - d) (State.initial.moveTo p) := by
      refine ⟨rfl, rfl, ?_, fun _ _ _ => rfl⟩
      change 0 + max d d' = 0 + d + (max d d' - d)
      omega
    obtain ⟨t₁, h₁, hd₁⟩ := hd.iterates hunroll hv (fun _ _ hmem => absurd hmem List.not_mem_nil)
      hn hn halike hex
    obtain ⟨t₂, h₂, hd₂⟩ := hd'.with_room hex' (Nat.le_max_right d d')
    exact (hd₂.determined _ _ _ hd₁).1
  · obtain ⟨w, h₁, hw⟩ := Derives.bases_of_rule hclosed hx hbases hg hv hn hd hex
    exact (heval.determined _ _ _ hw).1

/-- Digits, the rule `false`, and what `sum` makes of them, the rule `true`. -/
def digitSums (sum : Expr Bool) : Grammar Bool where
  rules := [true, false]
  root := true
  name := fun r => if r then "sum" else "digit"
  label := fun r => if r then "sum" else "digit"
  production := fun _ => ""
  body := fun r => if r then sum else .byte (ByteClass.range 0x30 0x39)
  mem_rules := by decide

/-- A plus and one more digit. -/
def plusDigit : Expr Bool := .chain [.token '+', .apply false]

/-- A run on the input "1+2+". -/
def digitSumsRun (sum : Expr Bool) : Run Bool := Run.startAt (digitSums sum) "1+2+" 9 0

/-- A digit and more digits behind it, written in the two ways. -/
theorem leftRecursion_eq_iteration_digitSums :
    ((digitSumsRun (.leftRecursive true [plusDigit] [.apply false])).apply true).1 = .hit 0 3 ∧
      ((digitSumsRun (.leftRecursive true [plusDigit] [.apply false])).apply true).1 =
        ((digitSumsRun (.iterated [plusDigit] [.apply false])).apply true).1 ∧
      ((digitSumsRun (.leftRecursive true [plusDigit] [.apply false])).apply true).1.matched =
        ((digitSumsRun (.leftRecursive true [plusDigit] [.apply false])).eval
          (.firstOf [.apply false])).1 := by
  have hwithin : ∀ e ∈ [plusDigit] ++ [.apply false], e.Within (· = false) := by
    simp [plusDigit, Expr.Within, Expr.chain, Expr.applied, Expr.token, Expr.exactly]
  have hdigit : ∀ (sum : Expr Bool) q, q = false → ((digitSums sum).body q).Within (· = false) := by
    rintro sum q rfl
    simp [digitSums, Expr.Within, Expr.applied]
  refine ⟨by decide +kernel, leftRecursion_eq_iteration rfl rfl ?_ ?_ (by decide)
    (by decide +kernel) (by decide +kernel)⟩
  · rintro (_ | _) hr
    · rfl
    · exact absurd rfl hr
  · intro e he hreach
    cases hreach.mem (hdigit _) (hwithin e he)

end Fresh

end AddressGrammar.Peg
