import AddressGrammar.Proofs.Modern.FoldedText
import AddressGrammar.Proofs.Modern.Forms
import AddressGrammar.Proofs.Peg.Carrying
import AddressGrammar.Proofs.Text.Placement

/-!
# Between two marks, inside a larger text

Comments, quoted strings and literals stand between two marks. What a text holds between two marks it
holds there as well when it stands inside a larger text, in front of a comma, although the rules in
between take commas like everything else: their text ends in front of the second mark, and a quoted
pair that would run on behind it never lets the second mark be found.

The converse fails. A mark that is not closed in a text may be closed by what follows it.

## Main definitions

* `Element` — a text stands inside another one, in front of a comma or at its end
* `Mark`, `Mark.enclosed` — the three kinds of marks, and what they enclose

## Main results

* `Element.carried_white` — white space is the same inside the larger text
* `Mark.content_cases` — what one part between two marks is
* `Element.enclosed` — what is enclosed in a text is enclosed in the larger one
-/

namespace AddressGrammar.Modern

open Text Peg Peg.Expr

variable {policy : Option Policy} {s t input : String} {off p q i j : Nat}

/-- At an offset of the second text stands the first one, and then a comma or nothing. -/
structure Element (s t : String) (off : Nat) : Prop where
  placed : Placed s t off
  stop : byteAt? t (off + s.utf8ByteSize) = none ∨ byteAt? t (off + s.utf8ByteSize) = some 44

namespace Element

variable (h : Element s t off)
include h

theorem byteAt?_eq (hp : p < s.utf8ByteSize) : byteAt? t (off + p) = byteAt? s p :=
  h.placed.byteAt?_eq hp

/-- A class without the comma does not see the end of the smaller text. -/
theorem classAt_eq {c : ByteClass} (hc : c.contains 44 = false) (hp : p ≤ s.utf8ByteSize) :
    classAt t c (off + p) = classAt s c p := by
  rcases Nat.eq_or_lt_of_le hp with rfl | hlt
  · have hnone : byteAt? s s.utf8ByteSize = none := byteAt?_eq_none_iff.mpr (Nat.le_refl _)
    rw [classAt, classAt, hnone]
    rcases h.stop with hstop | hstop
    · rw [hstop]
    · rw [hstop, Option.any_some, Option.any_none, hc]
  · exact h.placed.classAt_eq hlt c

theorem byteAt?_of_some {a : UInt8} (hp : byteAt? s p = some a) : byteAt? t (off + p) = some a :=
  (h.byteAt?_eq (lt_of_byteAt?_eq_some hp)).trans hp

theorem size_le : off + s.utf8ByteSize ≤ t.utf8ByteSize := h.placed.size_le

end Element

/-! ### White space -/

/-- The bytes that open nothing. -/
def plainBytes : ByteClass := ⟨[(0, 33), (35, 39), (41, 90), (92, 127)]⟩

/-- Whether a class holds none of the marks that open something, and no comma. -/
def isPlain (c : ByteClass) : Bool := plainBytes.includes c && !c.contains 44

/-- The rules for white space and line ends. -/
def isWhite : Rule → Bool
  | .wsp | .lf | .cr | .crlf | .fws | .obsFws => true
  | _ => false

theorem Element.window (h : Element s t off) :
    Window isPlain (· ≤ s.utf8ByteSize) s t off where
  classAt_eq := by
    intro c p hc hp
    exact h.classAt_eq (by simpa using (Bool.and_eq_true_iff.mp hc).2) hp
  next := fun _ _ hb => lt_of_classAt hb
  slice?_eq := h.placed.slice?_eq

/-- Whether bodies read given classes and rules only does not depend on the policy. -/
theorem reads_body (okClass : ByteClass → Bool) (okRule : Rule → Bool) (policy : Option Policy)
    (r : Rule) : (body policy r).reads okClass okRule = (body none r).reads okClass okRule := by
  cases policy <;> cases r <;> rfl

/-- **White space is the same inside the larger text.** -/
theorem Element.carried_white (h : Element s t off) (policy : Option Policy) {r : Rule}
    (hr : isWhite r = true) :
    (apply r).Carried s t ((grammar policy).Matches s) ((grammar policy).Matches t) off
      (· ≤ s.utf8ByteSize) := by
  refine Grammar.carried_rules h.window (fun _ => false) isWhite nofun (fun r hr => ?_) r hr
  refine (reads_body _ _ policy r).trans ?_
  cases r <;> first
    | decide
    | cases hr

theorem Element.carried_optFws (h : Element s t off) (policy : Option Policy) :
    optFws.Carried s t ((grammar policy).Matches s) ((grammar policy).Matches t) off
      (· ≤ s.utf8ByteSize) :=
  carried_of_reads h.window (fun r (hr : isWhite r = true) => h.carried_white policy hr) rfl

/-! ### Marks -/

/-- The marks around comments, quoted strings and literals. -/
inductive Mark where
  | paren | quote | bracket

namespace Mark

/-- The first mark. -/
def opens : Mark → UInt8
  | paren => 40
  | quote => 34
  | bracket => 91

/-- The second mark. -/
def closes : Mark → UInt8
  | paren => 41
  | quote => 34
  | bracket => 93

/-- What stands between them, part by part. -/
def content : Mark → Rule
  | paren => .ccontent
  | quote => .qcontent
  | bracket => .dcontent

/-- What stands between them without a backslash. -/
def text : Mark → Rule
  | paren => .ctext
  | quote => .qtext
  | bracket => .dtext

/-- The bytes of this text, other than control characters. -/
def shown : Mark → ByteClass
  | paren => ⟨[(33, 39), (42, 91), (93, 126)]⟩
  | quote => ⟨[(33, 33), (35, 91), (93, 126)]⟩
  | bracket => ⟨[(33, 90), (94, 126)]⟩

/-- The bytes of this text. -/
def textBytes (m : Mark) : ByteClass := ⟨controlBytes.intervals ++ m.shown.intervals⟩

/-- The parts between the marks. -/
def parts (m : Mark) : Expr Rule := many (chain [optFws, apply m.content])

/-- Both marks and what stands between them. -/
def enclosed (m : Mark) : Expr Rule :=
  chain [exactly m.opens, m.parts, optFws, exactly m.closes]

theorem matches_enclosed {call : Rule → Nat → Bool → Nat → Prop} {m : Mark} :
    m.enclosed.Matches input call p true q ↔
      byteAt? input p = some m.opens ∧ ∃ i j, m.parts.Matches input call (p + 1) true i ∧
        optFws.Matches input call i true j ∧ byteAt? input j = some m.closes ∧ q = j + 1 := by
  constructor
  · intro h
    obtain ⟨k, hopen, hrest⟩ := matches_andThen.mp h
    obtain ⟨i, hparts, hrest⟩ := matches_andThen.mp hrest
    obtain ⟨j, hfws, hclose⟩ := matches_andThen.mp hrest
    obtain ⟨ha, rfl⟩ := matches_exactly.mp hopen
    obtain ⟨hb, hq⟩ := matches_exactly.mp hclose
    exact ⟨ha, i, j, hparts, hfws, hb, hq⟩
  · rintro ⟨ha, i, j, hparts, hfws, hb, rfl⟩
    exact .andThen (matches_exactly.mpr ⟨ha, rfl⟩)
      (.andThen hparts (.andThen hfws (matches_exactly.mpr ⟨hb, rfl⟩)))

end Mark

theorem takes_comment :
    Takes policy input .comment p q ↔
      Mark.paren.enclosed.Matches input ((grammar policy).Matches input) p true q :=
  Grammar.matches_body.trans matches_attempt

theorem open_of_comment (h : Takes policy input .comment p q) : byteAt? input p = some 40 :=
  (Mark.matches_enclosed.mp (takes_comment.mp h)).1

/-! ### One part between two marks -/

/-- The bytes of a quoted pair, behind the backslash. -/
def pairBytes : ByteClass := ⟨[(1, 9), (11, 11), (12, 12), (14, 127)]⟩

theorem Mark.takes_text {m : Mark} :
    Takes policy input m.text p q ↔ classAt input m.textBytes p = true ∧ q = p + 1 := by
  have happend : classAt input m.textBytes p =
      (classAt input controlBytes p || classAt input m.shown p) := by
    rw [classAt, classAt, classAt]
    cases byteAt? input p with
    | none => rfl
    | some b => simp [ByteClass.contains, textBytes]
  have hbody : Takes policy input m.text p q ↔
      (orElse (apply .noWsCtl) (byte m.shown)).Matches input ((grammar policy).Matches input) p
        true q := by
    cases m <;> exact Grammar.matches_body
  have hcontrol : Takes policy input .noWsCtl p q ↔
      classAt input controlBytes p = true ∧ q = p + 1 := Grammar.matches_body.trans matches_byte
  rw [hbody, happend, Bool.or_eq_true]
  constructor
  · intro h
    rcases matches_orElse.mp h with hc | ⟨i, hi, hs⟩
    · obtain ⟨hb, hq⟩ := hcontrol.mp (matches_apply.mp hc)
      exact ⟨.inl hb, hq⟩
    · obtain rfl := (matches_apply.mp hi).eq_of_missed
      obtain ⟨hb, hq⟩ := matches_byte.mp hs
      exact ⟨.inr hb, hq⟩
  · rintro ⟨hb, rfl⟩
    by_cases hc : classAt input controlBytes p = true
    · exact .orElse (.apply (hcontrol.mpr ⟨hc, rfl⟩))
    · have hmiss : (grammar policy).Matches input .noWsCtl p false p :=
        .of_body (.byte_miss (Bool.eq_false_iff.mpr hc))
      exact .orElse_next (.apply hmiss) (.byte (hb.resolve_left hc))

/-- A quoted pair that something solid stands behind is a backslash and one byte. -/
theorem pair_of_quotedPair (h : Takes policy input .quotedPair p q) (hq : Solid input q) :
    byteAt? input p = some 92 ∧ classAt input pairBytes (p + 1) = true ∧ q = p + 2 := by
  have hk := promised policy input
  rcases matches_orElse.mp (Grammar.matches_body.mp h) with hplain | ⟨i, hi, hobs⟩
  · obtain ⟨i, hmark, htext⟩ := matches_andThen.mp (matches_attempt.mp hplain)
    obtain ⟨ha, rfl⟩ := matches_exactly.mp hmark
    have hbody := Grammar.matches_body.mp (matches_apply.mp htext)
    rcases matches_orElse.mp hbody with hbyte | ⟨j, -, hobs⟩
    · obtain ⟨hb, rfl⟩ := matches_byte.mp hbyte
      exact ⟨ha, hb, rfl⟩
    · have hstuck : ¬Solid input q := hk.taken (r := .obsText) (matches_apply.mp hobs)
      exact absurd hq hstuck
  · obtain ⟨rfl, j, hj⟩ := misses_attempt.mp hi
    have hmark : byteAt? input i = some 92 := hk.taken (r := .obsQp) (matches_apply.mp hobs)
    rcases misses_andThen.mp hj with hj | ⟨k, -, hj⟩
    · exact absurd hmark (misses_exactly.mp hj).1
    · exact (hk.missed (r := .text) (matches_apply.mp hj)).elim

theorem mark_of_quotedPair (h : Takes policy input .quotedPair p q) : byteAt? input p = some 92 := by
  rcases matches_orElse.mp (Grammar.matches_body.mp h) with hplain | ⟨i, hi, hobs⟩
  · obtain ⟨i, hmark, -⟩ := matches_andThen.mp (matches_attempt.mp hplain)
    exact (matches_exactly.mp hmark).1
  · obtain ⟨rfl, -⟩ := misses_attempt.mp hi
    exact (promised policy input).taken (r := .obsQp) (matches_apply.mp hobs)

theorem quotedPair_of_pair (hp : byteAt? input p = some 92)
    (hb : classAt input pairBytes (p + 1) = true) : Takes policy input .quotedPair p (p + 2) := by
  have htext : Takes policy input .text (p + 1) (p + 2) :=
    Grammar.matches_body.mpr (.orElse (.byte hb))
  exact Grammar.matches_body.mpr
    (.orElse (.attempt (.andThen (matches_exactly.mpr ⟨hp, rfl⟩) (.apply htext))))

namespace Mark

variable {m : Mark}

/-- What one part is. -/
theorem content_cases (h : Takes policy input m.content p q) :
    Takes policy input m.text p q ∨ Takes policy input .quotedPair p q ∨
      m = .paren ∧ Takes policy input .comment p q := by
  have hcases : ∀ {e : Expr Rule} {r : Rule},
      (orElse (apply r) e).Matches input ((grammar policy).Matches input) p true q →
      Takes policy input r p q ∨ e.Matches input ((grammar policy).Matches input) p true q := by
    intro e r h
    rcases matches_orElse.mp h with hr | ⟨i, hi, he⟩
    · exact .inl (matches_apply.mp hr)
    · obtain rfl := (matches_apply.mp hi).eq_of_missed
      exact .inr he
  have hbody := Grammar.matches_body.mp h
  cases m with
  | paren => exact (hcases hbody).imp_right fun h =>
      (hcases h).imp_right fun h => ⟨rfl, matches_apply.mp h⟩
  | quote | bracket => exact (hcases hbody).imp_right fun h => .inl (matches_apply.mp h)

theorem content_of_text (h : Takes policy input m.text p q) : Takes policy input m.content p q := by
  cases m <;> exact Grammar.matches_body.mpr (.orElse (.apply h))

theorem content_of_pair (hp : byteAt? input p = some 92)
    (h : Takes policy input .quotedPair p q) : Takes policy input m.content p q := by
  have htext : (grammar policy).Matches input m.text p false p := by
    refine misses_of_not_takes (Nat.le_of_lt (lt_of_byteAt?_eq_some hp)) fun i hi => ?_
    refine byteAt?_ne_of_classAt (takes_text.mp hi).1 ?_ hp
    cases m <;> decide
  cases m with
  | paren => exact Grammar.matches_body.mpr (.orElse_next (.apply htext) (.orElse (.apply h)))
  | quote | bracket => exact Grammar.matches_body.mpr (.orElse_next (.apply htext) (.apply h))

theorem content_of_comment (h : Takes policy input .comment p q) :
    Takes policy input .ccontent p q := by
  have hopen := open_of_comment h
  have hp := Nat.le_of_lt (lt_of_byteAt?_eq_some hopen)
  have htext : (grammar policy).Matches input .ctext p false p :=
    misses_of_not_takes hp fun i hi =>
      byteAt?_ne_of_classAt ((takes_text (m := .paren)).mp hi).1 (by decide) hopen
  have hpair : (grammar policy).Matches input .quotedPair p false p :=
    misses_of_not_takes hp fun i hi => by
      cases hopen.symm.trans (mark_of_quotedPair hi)
  exact Grammar.matches_body.mpr
    (.orElse_next (.apply htext) (.orElse_next (.apply hpair) (.apply h)))

/-- No part begins with the second mark. -/
theorem not_content (hp : byteAt? input p = some m.closes) :
    ¬Takes policy input m.content p q := by
  intro h
  rcases content_cases h with htext | hpair | ⟨rfl, hcomment⟩
  · refine byteAt?_ne_of_classAt (takes_text.mp htext).1 ?_ hp
    cases m <;> decide
  · have hmark := hp.symm.trans (mark_of_quotedPair hpair)
    cases m <;> cases hmark
  · cases hp.symm.trans (open_of_comment hcomment)

theorem mayHoldText (m : Mark) : MayHoldText m.content := by
  cases m <;> exact fun _ _ _ => id

/-- **Where the second mark is found** behind some more parts, something solid stands in front of
them: behind anything else there are no more parts, and no mark. -/
theorem solid_of_closed (hparts : m.parts.Matches input ((grammar policy).Matches input) p true i)
    (hfws : optFws.Matches input ((grammar policy).Matches input) i true j)
    (hj : byteAt? input j = some m.closes) : Solid input p := by
  have hk := promised policy input
  refine Classical.byContradiction fun hp => ?_
  have hpart : ∀ k l, k = p → (chain [optFws, apply m.content]).Matches input
      ((grammar policy).Matches input) k true l → l = p := by
    rintro k l rfl h
    obtain ⟨k', hk', hl⟩ := matches_andThen.mp h
    have hfolded : Folded input k k' := folded_of_covered hk (by decide) hk'
    obtain rfl := hfolded.eq_of_not_solid hp
    rcases m.mayHoldText _ _ _ (hk.taken (matches_apply.mp hl)) with hfolded | ⟨hsolid, -⟩
    · exact hfolded.eq_of_not_solid hp
    · exact absurd hsolid hp
  obtain ⟨rfl, -⟩ := hparts.many_invariant (I := (· = p)) hpart rfl
  have hfolded : Folded input i j := folded_of_covered hk (by decide) hfws
  obtain rfl := hfolded.eq_of_not_solid hp
  refine hp (solid_of_byteAt? hj ?_ ?_) <;> cases m <;> decide

end Mark

/-! ### Inside the larger text -/

/-- One part of a text that something solid stands behind. -/
theorem Element.content (h : Element s t off) {m : Mark}
    (hcomment : Takes policy s .comment p q → Takes policy t .comment (off + p) (off + q))
    (hm : Takes policy s m.content p q) (hq : Solid s q) :
    Takes policy t m.content (off + p) (off + q) := by
  rcases Mark.content_cases hm with htext | hpair | ⟨rfl, hc⟩
  · obtain ⟨hb, rfl⟩ := Mark.takes_text.mp htext
    have hb' := (h.placed.classAt_eq (lt_of_classAt hb) _).trans hb
    exact Mark.content_of_text (Mark.takes_text.mpr ⟨hb', rfl⟩)
  · obtain ⟨hmark, hb, rfl⟩ := pair_of_quotedPair hpair hq
    have hb' := (h.placed.classAt_eq (lt_of_classAt hb) _).trans hb
    have hmark' := h.byteAt?_of_some hmark
    exact Mark.content_of_pair hmark' (quotedPair_of_pair hmark' hb')
  · exact Mark.content_of_comment (hcomment hc)

/-- **What is enclosed in a text is enclosed in the larger one.** -/
theorem Element.enclosed (h : Element s t off) {m : Mark}
    (hm : m.enclosed.Matches s ((grammar policy).Matches s) p true q) :
    m.enclosed.Matches t ((grammar policy).Matches t) (off + p) true (off + q) := by
  induction hn : q - p using Nat.strongRecOn generalizing m p q with
  | _ n ih =>
    obtain ⟨hopen, i, j, hparts, hfws, hclose, rfl⟩ := Mark.matches_enclosed.mp hm
    have hij : i ≤ j := hfws.le fun _ _ _ _ h => h.le
    have hj := lt_of_byteAt?_eq_some hclose
    obtain ⟨hfws', -⟩ := h.carried_optFws policy i true j (by omega) hfws
    have hclose' := h.byteAt?_of_some hclose
    -- Every part has the rest of the parts and the second mark behind it.
    have hpart : ∀ k l, p + 1 ≤ k →
        (chain [optFws, apply m.content]).Matches s ((grammar policy).Matches s) k true l →
        m.parts.Matches s ((grammar policy).Matches s) l true i →
        (chain [optFws, apply m.content]).Matches t ((grammar policy).Matches t) (off + k) true
          (off + l) ∧ p + 1 ≤ l := by
      intro k l hk hkl hli
      obtain ⟨k', hgap, hl⟩ := matches_andThen.mp hkl
      have hkk : k ≤ k' := hgap.le fun _ _ _ _ h => h.le
      have hkl' := (matches_apply.mp hl).le
      have hle : l ≤ i := hli.le fun _ _ _ _ h => h.le
      obtain ⟨hgap', -⟩ := h.carried_optFws policy k true k' (by omega) hgap
      have hcomment : Takes policy s .comment k' l → Takes policy t .comment (off + k') (off + l) :=
        fun hc => takes_comment.mpr (ih (l - k') (by omega) (takes_comment.mp hc) rfl)
      have hcontent := h.content hcomment (matches_apply.mp hl)
        (Mark.solid_of_closed hli hfws hclose)
      exact ⟨.andThen hgap' (.apply hcontent), by omega⟩
    -- There are no more parts in front of the second mark.
    have hend : ∃ k, (chain [optFws, apply m.content]).Matches t ((grammar policy).Matches t)
        (off + i) false k := by
      have hsize := h.size_le
      have hmiss : (grammar policy).Matches t m.content (off + j) false (off + j) :=
        misses_of_not_takes (by omega) fun k => Mark.not_content hclose'
      exact ⟨_, .andThen hfws' (.apply hmiss)⟩
    obtain ⟨hparts', -⟩ := hparts.many_carried hpart (fun _ _ => hend) (Nat.le_refl _)
    exact Mark.matches_enclosed.mpr
      ⟨h.byteAt?_of_some hopen, off + i, off + j, hparts', hfws', hclose', rfl⟩

end AddressGrammar.Modern
