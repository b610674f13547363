import AddressGrammar.Proofs.Peg.LeftRecursion

/-!
# Left recursion by way of another rule

A rule `x` can ask for itself by way of another one: it begins with `y`, and `y` is `x` with a suffix
behind it. The engine notices that `x` asks for itself and evaluates its body again and again, as it
does for a rule that begins with itself. Nothing comes of it. The first time, `y` is evaluated while
`x` still fails, and that failure of `y` is remembered. From then on every evaluation of the body
finds the failure in the table, goes on to the bases, and gets no further than before.

So `x` matches what a base matches and never a suffix. Written without the detour, it would go on
from there (see `leftRecursion_eq_iteration`). The two agree where no suffix moves on behind the
base, and nowhere else.

## Main definitions

* `Expr.detour`, `Expr.continued` — the bodies of the two rules
* `Grammar.Detours` — a grammar with a detour, and one without it

## Main results

* `Derives.missed_of_continued` — `y` fails while `x` is in progress, and is remembered to fail
* `Derives.bases_of_detour` — `x` comes to its bases, however often its body is evaluated
* `detour_stops_at_base` — what the two grammars match on fresh runs
* `not_grows_by_detour` — they do not match the same
-/

namespace AddressGrammar.Peg

open Text

variable {R : Type}

/-- The body of a rule that asks for `y` before it comes to its bases. -/
def Expr.detour (y : R) (bases : List (Expr R)) : Expr R :=
  alt (seq [apply y] :: bases.map fun e => seq [e])

/-- The body of a rule that continues a match of `x` with a suffix. -/
def Expr.continued (x : R) (suffixes : List (Expr R)) : Expr R :=
  alt (suffixes.map fun e => seq [apply x, e])

/-- In `g` the rule `x` asks for itself by way of `y`, and in `g'` it does so itself. The grammars
agree on all other rules. Neither suffixes nor bases come back to `x` or `y`. -/
structure Grammar.Detours (g g' : Grammar R) (x y : R) (suffixes bases : List (Expr R)) : Prop where
  ne : y ≠ x
  body : g.body x = .detour y bases
  body_other : g.body y = .continued x suffixes
  body_direct : g'.body x = .leftRecursive x suffixes bases
  agree : ∀ r, r ≠ x → r ≠ y → g'.body r = g.body r
  apart : ∀ e ∈ suffixes ++ bases, ¬g.Reaches e x ∧ ¬g.Reaches e y

variable [DecidableEq R] {K : R → Prop} {cfg cfg' : Setting R} {spare : Nat}
  {x y : R} {suffixes bases : List (Expr R)} {s s' t : State R} {o seed best next : Outcome} {b : Bool}
  {h : List (Moment R)}

/-! ### The other rule fails for good -/

/-- While `x` is in progress, the body of `y` fails and leaves what `x` and `y` do not concern. -/
theorem Derives.missed_of_body (hx : ¬K x) (hy : ¬K y) (hne : y ≠ x)
    (hbody : cfg.grammar.body y = .continued x suffixes) (hv : ((s.begin y).enter y).Valid cfg)
    {again : Bool} (hk : s.progress? x s.pos = some (.inProgress again))
    (hd : Derives cfg (.body y (s.begin y) o t) h) :
    o = .missed s.pos ∧ s.Alike K cfg cfg 0 t := by
  have hk' : ((s.begin y).enter y).progress? x s.pos = some (.inProgress again) := by
    rwa [State.progress?_enter, State.progress?_begin_of_ne hne]
  have hfails : ∀ {b u h}, Derives cfg (.expr (cfg.grammar.body y) ((s.begin y).enter y) b u) h →
      b = false ∧ ((s.begin y).enter y).Alike K cfg cfg 0 u := by
    intro b u h he
    rw [hbody] at he
    obtain ⟨hb, -, ha, -⟩ := tries_inProgress hx hv hk' (tries_iff.mpr ⟨h, he⟩)
    exact ⟨hb, ha⟩
  cases hd with
  | body he => cases (hfails he).1
  | body_miss he =>
    obtain ⟨-, ha⟩ := hfails he
    refine ⟨rfl, rfl, ha.exhausted, rfl, fun r p hr => ?_⟩
    have hyr : y ≠ r := fun heq => hy (heq ▸ hr)
    rw [State.progress?_record, State.progress?_moveTo, State.progress?_leaveTo, ha.progress r p hr,
      State.progress?_enter, State.progress?_begin_of_ne hyr]

/-- While `x` is in progress, `y` fails. -/
theorem Derives.missed_of_continued (hx : ¬K x) (hy : ¬K y) (hne : y ≠ x)
    (hbody : cfg.grammar.body y = .continued x suffixes) (hv : s.Valid cfg) {again : Bool}
    (hk : s.progress? x s.pos = some (.inProgress again)) (hn : s.memo.get? y s.pos = none)
    (hd : Derives cfg (.rule y s o t) h) :
    o = .missed s.pos ∧ (t.exhausted = false →
      s.Alike K cfg cfg 0 t ∧ t.progress? y s.pos = some (.done (.missed s.pos))) := by
  cases hd with
  | recalled he | reentered he => cases hn.symm.trans he
  | refused => exact ⟨rfl, fun hex => by cases hex⟩
  | settled _ hdepth hb _ =>
    have hv' := hv.enter_begin (State.progress?_eq_none.mpr hn) hdepth
    obtain ⟨rfl, ha⟩ := hb.missed_of_body hx hy hne hbody hv' hk
    refine ⟨rfl, fun _ => ⟨⟨ha.pos, ha.exhausted, ha.room, fun r p hr => ?_⟩, ?_⟩⟩
    · have hyr : y ≠ r := fun heq => hy (heq ▸ hr)
      rw [State.progress?_settle_of_ne hyr, ha.progress r p hr]
    · rw [State.progress?_settle, if_pos ⟨rfl, rfl⟩]
  | grown _ hdepth hb hs _ =>
    have hv' := hv.enter_begin (State.progress?_eq_none.mpr hn) hdepth
    obtain ⟨rfl, -⟩ := hb.missed_of_body (K := K) hx hy hne hbody hv' hk
    cases hs

/-! ### The rule comes to its bases -/

/-- Where `y` fails, the body of `x` comes to the bases. -/
theorem Derives.tries_of_detour (hbody : cfg.grammar.body x = .detour y bases)
    (hfails : ∀ {o u h}, Derives cfg (.rule y s o u) h → o.matched = false)
    (hd : Derives cfg (.expr (cfg.grammar.body x) s b t) h) :
    ∃ o u h₁, Derives cfg (.rule y s o u) h₁ ∧
      Tries cfg (bases.map fun e => .seq [e]) (u.moveTo s.pos) b t := by
  rw [hbody] at hd
  have ht : Tries cfg (.seq [.apply y] :: bases.map fun e => .seq [e]) s b t := tries_iff.mpr ⟨h, hd⟩
  cases ht with
  | hit he =>
    cases he with
    | attempt ha =>
      cases ha with
      | apply hr hb => cases hb.symm.trans (hfails hr)
  | next he hrest =>
    cases he with
    | attempt_miss ha =>
      cases ha with
      | apply hr hb => exact ⟨_, _, _, hr, hrest⟩

/-- The first evaluation of the body of `x` comes to the bases, with `y` remembered to fail. -/
theorem Derives.bases_of_first (hx : ¬K x) (hy : ¬K y) (hne : y ≠ x)
    (hbody : cfg.grammar.body x = .detour y bases)
    (hother : cfg.grammar.body y = .continued x suffixes) (hv : ((s.begin x).enter x).Valid cfg)
    (hn : s.memo.get? y s.pos = none) (hd : Derives cfg (.body x (s.begin x) seed t) h)
    (hex : t.exhausted = false) :
    ∃ u w, ((s.begin x).enter x).Reaches cfg u ∧ ((s.begin x).enter x).Alike K cfg cfg 0 u ∧
      u.progress? y s.pos = some (.done (.missed s.pos)) ∧
      Tries cfg (bases.map fun e => .seq [e]) u seed.matched w ∧ w.exhausted = false ∧
      (seed.matched = true → seed = .hit s.pos w.pos ∧ t = w.leaveTo (s.begin x)) := by
  have hk : ((s.begin x).enter x).progress? x s.pos = some (.inProgress false) := by
    rw [State.progress?_enter, State.progress?_begin, if_pos ⟨rfl, rfl⟩]
  have hn' : ((s.begin x).enter x).memo.get? y s.pos = none := by
    rw [← State.progress?_eq_none, State.progress?_enter, State.progress?_begin_of_ne hne.symm]
    exact State.progress?_eq_none.mpr hn
  have hmissed : ∀ {o u h}, Derives cfg (.rule y ((s.begin x).enter x) o u) h →
      o = .missed s.pos ∧ (u.exhausted = false →
        ((s.begin x).enter x).Alike K cfg cfg 0 u ∧
          u.progress? y s.pos = some (.done (.missed s.pos))) :=
    fun hr => hr.missed_of_continued hx hy hne hother hv hk hn'
  have hbases : ∀ {b w h}, Derives cfg (.expr (cfg.grammar.body x) ((s.begin x).enter x) b w) h →
      w.exhausted = false →
      ∃ u, ((s.begin x).enter x).Reaches cfg u ∧ ((s.begin x).enter x).Alike K cfg cfg 0 u ∧
        u.progress? y s.pos = some (.done (.missed s.pos)) ∧
        Tries cfg (bases.map fun e => .seq [e]) u b w := by
    intro b w h he hex
    obtain ⟨o, u, h₁, hr, ht⟩ := he.tries_of_detour hbody fun hr => by rw [(hmissed hr).1]; rfl
    obtain ⟨ha, hdone⟩ := (hmissed hr).2 (ht.since.not_exhausted hex)
    refine ⟨_, (hr.sound hv).1.restore hv, ⟨rfl, ha.exhausted, ha.room, fun r p hr => ?_⟩, ?_, ht⟩
    · rw [State.progress?_moveTo, ha.progress r p hr]
    · rwa [State.progress?_moveTo]
  cases hd with
  | body he =>
    obtain ⟨u, hreach, ha, hdone, ht⟩ := hbases he hex
    exact ⟨u, _, hreach, ha, hdone, ht, hex, fun _ => ⟨rfl, rfl⟩⟩
  | body_miss he =>
    obtain ⟨u, hreach, ha, hdone, ht⟩ := hbases he hex
    exact ⟨u, _, hreach, ha, hdone, ht, hex, fun hm => by cases hm⟩

/-- **Growth stops at once.** Evaluated once more, the body of `x` finds `y` failed and matches no
further than the bases. -/
theorem Derives.eq_of_growth (hbody : cfg.grammar.body x = .detour y bases) {start : Nat} {v : State R}
    (hend : EndBy K cfg (bases.map fun e => .seq [e]) start v best.stop) (hrec : s.Recalls K v)
    (hmissed : s.progress? y start = some (.done (.missed start)))
    (hd : Derives cfg (.growth x start best s o t) h) : o = best := by
  have hle : ∀ {w h}, Derives cfg (.expr (cfg.grammar.body x) ((s.moveTo start).enter x) true w) h →
      w.pos ≤ best.stop := by
    intro w h he
    have hrecalled : ∀ {o u h}, Derives cfg (.rule y ((s.moveTo start).enter x) o u) h →
        o = .missed start ∧ u = ((s.moveTo start).enter x).reuse y (.missed start) :=
      fun hr => hr.eq_of_done hmissed
    obtain ⟨o, u, h₁, hr, ht⟩ := he.tries_of_detour hbody fun hr => by rw [(hrecalled hr).1]; rfl
    refine hend _ _ rfl (fun r p o hK hk => ?_) ht
    rw [(hrecalled hr).2, State.progress?_moveTo, State.progress?_reuse]
    exact hrec r p o hK hk
  cases hd with
  | grow hb hlt _ =>
    cases hb with
    | body he => exact absurd hlt.2 (Nat.not_lt.mpr (hle he))
    | body_miss => cases hlt.1
  | grow_stop => rfl

/-- **By way of another rule, a rule comes to its bases and to nothing else.** -/
theorem Derives.bases_of_detour (hshare : cfg.Shares K cfg') (hx : ¬K x) (hy : ¬K y) (hne : y ≠ x)
    (hwithin : ∀ e ∈ bases, e.Within K) (hbody : cfg.grammar.body x = .detour y bases)
    (hother : cfg.grammar.body y = .continued x suffixes) (hv : s.Valid cfg) (hi : s.Idle K)
    (hn : s.memo.get? x s.pos = none) (hn' : s.memo.get? y s.pos = none)
    (ha : ((s.begin x).enter x).Alike K cfg cfg' spare s') (hd : Derives cfg (.rule x s o t) h)
    (hex : t.exhausted = false) :
    ∃ t' h', Derives cfg' (.expr (.firstOf bases) s' o.matched t') h' ∧
      (o.matched = true → o.stop = t'.pos) := by
  -- wherever the body is evaluated first, its bases match in the same way from `s'`
  have hmirror : ∀ {b u w}, ((s.begin x).enter x).Alike K cfg cfg 0 u →
      Tries cfg (bases.map fun e => .seq [e]) u b w → w.exhausted = false →
      ∃ t' h', Derives cfg' (.expr (.firstOf bases) s' b t') h' ∧ t'.pos = w.pos := by
    intro b u w hu ht hexw
    obtain ⟨h', he⟩ := tries_iff.mp ht
    obtain ⟨t', h'', he', hat⟩ :=
      he.mirrors hshare (Expr.within_firstOf hwithin) (.inr hexw) s' (ha.left hu)
    exact ⟨t', h'', he', hat.pos⟩
  cases hd with
  | recalled he | reentered he => cases hn.symm.trans he
  | refused => cases hex
  | settled _ hdepth hb _ =>
    have hv' := hv.enter_begin (State.progress?_eq_none.mpr hn) hdepth
    obtain ⟨u, w, -, hu, -, ht, hexw, hhit⟩ :=
      hb.bases_of_first hx hy hne hbody hother hv' hn' hex
    obtain ⟨t', h', he, hpos⟩ := hmirror hu ht hexw
    refine ⟨t', h', he, fun hm => ?_⟩
    rw [(hhit hm).1]
    exact hpos.symm
  | grown _ hdepth hb hs hg =>
    have hv' := hv.enter_begin (State.progress?_eq_none.mpr hn) hdepth
    have hm := (Bool.and_eq_true_iff.mp hs).1
    obtain ⟨u, w, hreach, hu, hmissed, ht, hexw, hhit⟩ :=
      hb.bases_of_first hx hy hne hbody hother hv' hn' (hg.since.not_exhausted hex)
    obtain ⟨rfl, rfl⟩ := hhit hm
    have hend := ht.endBy hwithin hreach.valid (hi.of_reaches hx hreach) hexw
    rw [show u.pos = s.pos from hu.pos] at hend
    have hkept : ((w.leaveTo (s.begin x)).settle x s.pos (.hit s.pos w.pos)).progress? y s.pos =
        some (.done (.missed s.pos)) := by
      rw [State.progress?_settle_of_ne hne.symm, State.progress?_leaveTo]
      exact ht.knows hmissed
    obtain rfl := hg.eq_of_growth hbody hend (State.recalls_settle hx w _ _) hkept
    obtain ⟨t', h', he, hpos⟩ := hmirror hu ht hexw
    exact ⟨t', h', he, fun _ => hpos.symm⟩

/-! ### Where the direct rule goes on -/

/-- Written without the detour, `x` comes to a base and the suffixes behind it. -/
theorem Derives.iterated_of_direct (hshare : cfg.Shares K cfg') (hx : ¬K x)
    (hsuffixes : ∀ e ∈ suffixes, e.Within K) (hbases : ∀ e ∈ bases, e.Within K)
    (hbody : cfg.grammar.body x = .leftRecursive x suffixes bases) (hv : s.Valid cfg)
    (hi : s.Idle K) (hn : s.memo.get? x s.pos = none)
    (ha : ((s.begin x).enter x).Alike K cfg cfg' spare s') (hd : Derives cfg (.rule x s o t) h)
    (hex : t.exhausted = false) :
    ∃ t' h', Derives cfg' (.expr (.iterated suffixes bases) s' o.matched t') h' ∧
      (o.matched = true → o.stop = t'.pos) := by
  -- a third setting has the repetition for a body, and what the repetition consists of is the same
  let iterating : Setting R := { cfg' with
    grammar := { cfg'.grammar with
      body := Function.update cfg'.grammar.body x (.iterated suffixes bases) } }
  have hbodies : ∀ r, K r → iterating.grammar.body r = cfg'.grammar.body r :=
    fun r hr => Function.update_of_ne (fun heq : r = x => hx (heq ▸ hr)) _ _
  have hunroll : cfg.Unrolls K iterating x suffixes bases :=
    ⟨⟨hshare.closed, hshare.input, fun r hr => (hbodies r hr).trans (hshare.body r hr)⟩, hx,
      hsuffixes, hbases, hbody, Function.update_self ..⟩
  have hback : iterating.Shares K cfg' :=
    ⟨hunroll.shares.closed_right, rfl, fun r hr => (hbodies r hr).symm⟩
  have hinside : ((s.begin x).enter x).Alike K cfg iterating spare s' :=
    ⟨ha.pos, ha.exhausted, ha.room, ha.progress⟩
  have hsame : s'.Alike K iterating cfg' 0 s' := ⟨rfl, rfl, rfl, fun _ _ _ => rfl⟩
  obtain ⟨w, h₁, he, hstop⟩ := hd.iterated_of_rule hunroll hv hi hn hinside hex
  obtain ⟨w', h₂, he', haw⟩ :=
    he.mirrors hback (Expr.within_iterated hsuffixes hbases) (.inl rfl) s' hsame
  exact ⟨w', h₂, he', fun hm => (hstop hm).trans haw.pos.symm⟩

/-- A repetition of suffixes behind a base matches where the base does, and follows it. -/
theorem Derives.base_of_iterated (hd : Derives cfg (.expr (.iterated suffixes bases) s b t) h) :
    ∃ u h₁, Derives cfg (.expr (.firstOf bases) s b u) h₁ ∧
      (b = true → ∃ h₂, Derives cfg (.loop (.firstOf suffixes) u t) h₂) := by
  cases hd with
  | andThen he hmany =>
    cases hmany with
    | many hl => exact ⟨_, _, he, fun _ => ⟨_, hl⟩⟩
  | andThen_miss he => exact ⟨_, _, he, fun hb => by cases hb⟩

/-- A repetition moves on exactly if its first step does. -/
theorem Derives.lt_loop_iff {e : Expr R} {u : State R} {h' : List (Moment R)} (hv : s.Valid cfg)
    (he : Derives cfg (.expr e s b u) h') (hl : Derives cfg (.loop e s t) h) :
    s.pos < t.pos ↔ b = true ∧ s.pos < u.pos := by
  cases hl with
  | loop_miss he' =>
    obtain ⟨rfl, -, -⟩ := he'.determined _ _ _ he
    simp
  | loop_still he' hpos =>
    obtain ⟨rfl, rfl, -⟩ := he'.determined _ _ _ he
    simp
  | loop_next he' hpos hrest =>
    obtain ⟨rfl, rfl, -⟩ := he'.determined _ _ _ he
    have hu := he'.sound hv
    have hlt := Nat.lt_of_le_of_ne hu.le (Ne.symm hpos)
    exact ⟨fun _ => ⟨rfl, hlt⟩, fun _ => Nat.lt_of_lt_of_le hlt (hrest.sound hu.valid).le⟩

/-- From a state in which no rule is open and every rule is new, `x` comes to its bases in the grammar
with the detour and goes on to the suffixes in the other one. Evaluated by themselves, with no less
room than there is in either grammar, bases and suffixes match the same. -/
theorem Grammar.Detours.compare {g g' : Grammar R} {input : String} {d d' room : Nat}
    {u v : State R} {c : Bool} {o' : Outcome} {t' : State R} {h' h₁ h₂ : List (Moment R)}
    (hg : g.Detours g' x y suffixes bases) (hd : d ≤ room) (hd' : d' ≤ room)
    (hv : s.Valid ⟨g, input, d⟩) (hv' : s.Valid ⟨g', input, d'⟩) (hclosed : s.active.frames = [])
    (hnew : ∀ r, s.memo.get? r s.pos = none)
    (hdetour : Derives ⟨g, input, d⟩ (.rule x s o t) h) (hex : t.exhausted = false)
    (hdirect : Derives ⟨g', input, d'⟩ (.rule x s o' t') h') (hex' : t'.exhausted = false)
    (hbases : Derives ⟨g', input, room⟩ (.expr (.firstOf bases) s b u) h₁)
    (hu : u.Valid ⟨g', input, room⟩)
    (hsuffixes : Derives ⟨g', input, room⟩ (.expr (.firstOf suffixes) u c v) h₂) :
    o = (if b then .hit s.pos u.pos else .missed s.pos) ∧ o'.matched = o.matched ∧
      o.stop ≤ o'.stop ∧ (o.stop < o'.stop ↔ b = true ∧ c = true ∧ u.pos < v.pos) := by
  let K r := ∃ e ∈ suffixes ++ bases, g.Reaches e r
  have hx : ¬K x := fun ⟨e, he, hr⟩ => (hg.apart e he).1 hr
  have hy : ¬K y := fun ⟨e, he, hr⟩ => (hg.apart e he).2 hr
  have hagree : ∀ r, K r → g'.body r = g.body r :=
    fun r hr => hg.agree r (fun heq => hx (heq ▸ hr)) fun heq => hy (heq ▸ hr)
  have hsuffixesK : ∀ e ∈ suffixes, e.Within K :=
    fun e he r hr => ⟨e, List.mem_append_left _ he, .applied hr⟩
  have hbasesK : ∀ e ∈ bases, e.Within K :=
    fun e he r hr => ⟨e, List.mem_append_right _ he, .applied hr⟩
  have hshare : Setting.Shares K ⟨g, input, d⟩ ⟨g', input, room⟩ :=
    ⟨fun r ⟨e, he, hr⟩ q hq => ⟨e, he, hr.body hq⟩, rfl, hagree⟩
  have hshare' : Setting.Shares K ⟨g', input, d'⟩ ⟨g', input, room⟩ :=
    ⟨hshare.closed_right, rfl, fun _ _ => rfl⟩
  have hidle : s.Idle K := fun r p hmem => by simp [hclosed] at hmem
  -- both applications are retraced as evaluations of bases and suffixes
  have ha : ((s.begin x).enter x).Alike K ⟨g, input, d⟩ ⟨g', input, room⟩ (room - d + 1) s :=
    State.alike_inside hx s (by simp only; omega)
  have ha' : ((s.begin x).enter x).Alike K ⟨g', input, d'⟩ ⟨g', input, room⟩ (room - d' + 1) s :=
    State.alike_inside hx s (by simp only; omega)
  obtain ⟨w, _, hw, hstop⟩ := hdetour.bases_of_detour hshare hx hy hg.ne hbasesK hg.body
    hg.body_other hv hidle (hnew x) (hnew y) ha hex
  obtain ⟨t₁, _, hiterated, hstop'⟩ := hdirect.iterated_of_direct hshare' hx hsuffixesK hbasesK
    hg.body_direct hv' hidle (hnew x) ha' hex'
  obtain ⟨w', _, hw', hloop⟩ := hiterated.base_of_iterated
  obtain ⟨hm, rfl, -⟩ := hbases.determined _ _ _ hw
  obtain ⟨hm', rfl, -⟩ := hbases.determined _ _ _ hw'
  have hfits := (hdetour.sound hv).2.1
  have hfits' := (hdirect.sound hv').2.1
  cases b with
  | false =>
    rw [hfits.eq_missed hm, hfits'.eq_missed hm']
    simp
  | true =>
    obtain ⟨_, hl⟩ := hloop hm'
    have ho : o = .hit s.pos w'.pos := hstop hm ▸ hfits.eq_hit hm
    have ho' : o' = .hit s.pos t₁.pos := hstop' hm' ▸ hfits'.eq_hit hm'
    rw [ho, ho']
    exact ⟨rfl, rfl, (hl.sound hu).le, by simpa using hsuffixes.lt_loop_iff hu hl⟩

/-! ### Fresh runs -/

section Fresh

variable {g g' : Grammar R} {input : String} {p d d' : Nat}

/-- **A detour stops at the base.** Unless the bound on nesting is hit, the rule that asks for itself
by way of another one comes to the first of its bases that matches. Written without the detour it
matches in the same cases, and it matches more exactly where a suffix moves on behind that base. -/
theorem detour_stops_at_base (hg : g.Detours g' x y suffixes bases) (hp : p ≤ input.utf8ByteSize)
    (hex : ((Run.startAt g input d p).apply x).2.isExhausted = false)
    (hex' : ((Run.startAt g' input d' p).apply x).2.isExhausted = false) :
    let detoured := ((Run.startAt g input d p).apply x).1
    let direct := ((Run.startAt g' input d' p).apply x).1
    let based := (Run.startAt g' input (max d d') p).eval (.firstOf bases)
    let further := based.2.eval (.firstOf suffixes)
    detoured = (if based.1 then .hit p based.2.pos else .missed p) ∧
      direct.matched = detoured.matched ∧ detoured.stop ≤ direct.stop ∧
        (detoured.stop < direct.stop ↔
          based.1 = true ∧ further.1 = true ∧ based.2.pos < further.2.pos) := by
  obtain ⟨o, t, h, heq, hd⟩ := (Run.startAt g input d p).exists_apply (Run.valid_startAt hp) x
  obtain ⟨o', t', h', heq', hd'⟩ := (Run.startAt g' input d' p).exists_apply (Run.valid_startAt hp) x
  obtain ⟨b, u, h₁, hbased, hbases⟩ :=
    (Run.startAt g' input (max d d') p).exists_eval (Run.valid_startAt hp) (.firstOf bases)
  have hu : u.Valid ⟨g', input, max d d'⟩ := (hbases.sound (Run.valid_startAt hp)).valid
  obtain ⟨c, v, h₂, hfurther, hsuffixes⟩ :=
    Run.exists_eval ⟨⟨g', input, max d d'⟩, u⟩ hu (.firstOf suffixes)
  rw [heq] at hex
  rw [heq'] at hex'
  dsimp only
  rw [heq, heq', hbased]
  dsimp only [Run.startAt]
  rw [hfurther]
  exact hg.compare (Nat.le_max_left d d') (Nat.le_max_right d d') (Run.valid_startAt hp)
    (Run.valid_startAt hp) rfl (fun r => MemoTable.get?_empty r p) hd hex hd' hex' hbases hu hsuffixes

/-- Sums of digits: what is left of a plus can be a sum again. -/
inductive SumRule where
  | sum
  | longer
  | digit
  deriving DecidableEq

/-- A plus and one more digit. -/
def oneMoreDigit : Expr SumRule := .chain [.token '+', .apply .digit]

/-- Digits, sums that continue a sum, and what `sum` makes of them. -/
def sumsOfDigits (sum : Expr SumRule) : Grammar SumRule where
  rules := [.sum, .longer, .digit]
  root := .sum
  name := fun
    | .sum => "sum"
    | .longer => "longer"
    | .digit => "digit"
  label := fun
    | .sum => "Sum"
    | .longer => "Longer"
    | .digit => "Digit"
  production := fun _ => ""
  body := fun
    | .sum => sum
    | .longer => .continued .sum [oneMoreDigit]
    | .digit => .byte (ByteClass.range 0x30 0x39)
  mem_rules := by rintro (_ | _ | _) <;> decide

/-- Sums that ask for themselves by way of longer sums, and sums that do so themselves. -/
theorem detours_sumsOfDigits :
    (sumsOfDigits (.detour .longer [.apply .digit])).Detours
      (sumsOfDigits (.leftRecursive .sum [oneMoreDigit] [.apply .digit])) .sum .longer
      [oneMoreDigit] [.apply .digit] where
  ne := by decide
  body := rfl
  body_other := rfl
  body_direct := rfl
  agree := by
    rintro (_ | _ | _) hsum hlonger
    · exact absurd rfl hsum
    · rfl
    · rfl
  apart := by
    have hwithin : ∀ e ∈ [oneMoreDigit] ++ [.apply .digit], e.Within (· = SumRule.digit) := by
      simp [oneMoreDigit, Expr.Within, Expr.chain, Expr.applied, Expr.token, Expr.exactly]
    have hdigit : ∀ sum q, q = SumRule.digit →
        ((sumsOfDigits sum).body q).Within (· = SumRule.digit) := by
      rintro sum q rfl
      simp [sumsOfDigits, Expr.Within, Expr.applied]
    intro e he
    constructor <;> intro hreach <;> cases hreach.mem (hdigit _) (hwithin e he)

/-- A run on the input "1+2". -/
def sumsOfDigitsRun (sum : Expr SumRule) : Run SumRule := Run.startAt (sumsOfDigits sum) "1+2" 9 0

/-- A sum of two digits, of which the detour leaves one behind. -/
theorem detour_stops_at_base_two_digits :
    ((sumsOfDigitsRun (.detour .longer [.apply .digit])).apply .sum).1 = .hit 0 1 ∧
      ((sumsOfDigitsRun (.detour .longer [.apply .digit])).apply .sum).1.stop <
        ((sumsOfDigitsRun (.leftRecursive .sum [oneMoreDigit] [.apply .digit])).apply .sum).1.stop := by
  have hex : ((Run.startAt (sumsOfDigits (.detour .longer [.apply .digit])) "1+2" 9 0).apply
      .sum).2.isExhausted = false := by decide +kernel
  have hex' : ((Run.startAt (sumsOfDigits (.leftRecursive .sum [oneMoreDigit] [.apply .digit]))
      "1+2" 9 0).apply .sum).2.isExhausted = false := by decide +kernel
  obtain ⟨hdetoured, -, -, hlt⟩ :=
    detour_stops_at_base detours_sumsOfDigits (Nat.zero_le _) hex hex'
  exact ⟨hdetoured.trans (by decide +kernel), hlt.mpr (by decide +kernel)⟩

/-- **A detour does not grow like direct left recursion.** -/
theorem not_grows_by_detour :
    ¬∀ (g g' : Grammar SumRule) (x y : SumRule) (suffix base : Expr SumRule) (input : String)
        (p d d' : Nat), g.Detours g' x y [suffix] [base] → p ≤ input.utf8ByteSize →
      ((Run.startAt g input d p).apply x).2.isExhausted = false →
      ((Run.startAt g' input d' p).apply x).2.isExhausted = false →
      ((Run.startAt g input d p).apply x).1.matched = ((Run.startAt g' input d' p).apply x).1.matched ∧
        ((Run.startAt g input d p).apply x).1.stop = ((Run.startAt g' input d' p).apply x).1.stop := by
  intro hgrows
  have hsame := hgrows _ _ .sum .longer oneMoreDigit (.apply .digit) "1+2" 0 9 9
    detours_sumsOfDigits (Nat.zero_le _) (by decide +kernel) (by decide +kernel)
  exact absurd hsame.2 (by decide +kernel)

end Fresh

end AddressGrammar.Peg
