import AddressGrammar.Proofs.Peg.Segments
import AddressGrammar.Proofs.Validation.PlainCheck

/-!
# Gaps, and what stands behind them

Nearly every part of a modern address begins with comments and white space, if there are any. They
are taken in one go, so what an element begins with is found behind this gap: an atom character, a
quotation mark, a bracket. Two rules that expect different bytes there cannot both match at one
position, which is how the alternatives of the grammar exclude each other.

A gap is not always all the comments and white space that there are. But where an element stands
behind it nothing is left, and the element could as well have been asked for behind the gap: it
would have taken the same text.

## Main definitions

* `Gap` — the comments and white space from one position to another
* `Opens` — the bytes that a rule expects behind a gap
* `Shifts` — an expression does the same behind a gap as in front of it

## Main results

* `word_of_localPart`, `eq_of_displayName` — what a local part and a name begin with
* `shifts_address` — an address may be asked for behind the gap in front of it
-/

namespace AddressGrammar

namespace Text

/-- Whether two classes have no byte in common. -/
def ByteClass.disjoint (c d : ByteClass) : Bool :=
  c.intervals.all fun i => d.intervals.all fun j => decide (i.2 < j.1) || decide (j.2 < i.1)

theorem not_classAt_of_disjoint {s : String} {c d : ByteClass} {i : Nat} (hcd : c.disjoint d = true)
    (hc : classAt s c i = true) : ¬classAt s d i = true := by
  intro hd
  obtain ⟨b, hb, hbc⟩ := (Option.any_eq_true _ _).mp hc
  obtain ⟨b', hb', hbd⟩ := (Option.any_eq_true _ _).mp hd
  cases hb.symm.trans hb'
  obtain ⟨j, hj, hjb⟩ := List.any_eq_true.mp hbc
  obtain ⟨k, hk, hkb⟩ := List.any_eq_true.mp hbd
  have hjk := List.all_eq_true.mp (List.all_eq_true.mp hcd j hj) k hk
  simp only [Bool.and_eq_true, Bool.or_eq_true, decide_eq_true_eq] at hjb hkb hjk
  rcases hjk with hlt | hlt
  · exact absurd (UInt8.lt_of_le_of_lt hjb.2 hlt) (UInt8.not_lt.mpr hkb.1)
  · exact absurd (UInt8.lt_of_le_of_lt hkb.2 hlt) (UInt8.not_lt.mpr hjb.1)

theorem classAt_mono {s : String} {c d : ByteClass} {i : Nat} (hcd : c.intervals ⊆ d.intervals)
    (hc : classAt s c i = true) : classAt s d i = true := by
  obtain ⟨b, hb, hbc⟩ := (Option.any_eq_true _ _).mp hc
  obtain ⟨j, hj, hjb⟩ := List.any_eq_true.mp hbc
  exact (Option.any_eq_true _ _).mpr ⟨b, hb, List.any_eq_true.mpr ⟨j, hcd hj, hjb⟩⟩

end Text

namespace Modern

open Text Peg Peg.Expr

variable {policy : Option Policy} {input : String} {p q i j : Nat} {b : Bool}

/-- Under the policy, a rule takes the text between two positions. -/
abbrev Takes (policy : Option Policy) (input : String) (r : Rule) (p q : Nat) : Prop :=
  (grammar policy).Matches input r p true q

/-- Every expression has an answer at every position. -/
theorem exists_matches (policy : Option Policy) (hp : p ≤ input.utf8ByteSize) (e : Expr Rule) :
    ∃ b q, e.Matches input ((grammar policy).Matches input) p b q :=
  (ranking policy).exists_matches hp e

/-- An expression that does not match at a position inside the input fails there. -/
theorem exists_miss (policy : Option Policy) {e : Expr Rule} (hp : p ≤ input.utf8ByteSize)
    (h : ∀ q, ¬e.Matches input ((grammar policy).Matches input) p true q) :
    ∃ q, e.Matches input ((grammar policy).Matches input) p false q :=
  (ranking policy).exists_miss hp h

/-- A rule that does not match there fails there. -/
theorem misses_of_not_takes {r : Rule} (hp : p ≤ input.utf8ByteSize)
    (h : ∀ q, ¬Takes policy input r p q) : (grammar policy).Matches input r p false p := by
  obtain ⟨q, hr⟩ := exists_miss policy hp fun q hr => h q (matches_apply.mp hr)
  obtain rfl := (matches_apply.mp hr).eq_of_missed
  exact matches_apply.mp hr

/-! ### Gaps -/

/-- Comments and white space, if there are any, are taken between two positions. -/
def Gap (policy : Option Policy) (input : String) (p q : Nat) : Prop :=
  optCfws.Matches input ((grammar policy).Matches input) p true q

/-- What comments and white space begin with. -/
def gapStarts : ByteClass := ⟨[(9, 9), (13, 13), (32, 32), (40, 40)]⟩

theorem gapStarts_of_wsp (h : Takes policy input .wsp p q) : classAt input gapStarts p = true := by
  rcases matches_orElse.mp (Grammar.matches_body.mp h) with hspace | ⟨i, hi, htab⟩
  · exact classAt_of_byteAt? (matches_exactly.mp hspace).1 (by decide)
  · obtain ⟨-, rfl⟩ := misses_exactly.mp hi
    exact classAt_of_byteAt? (matches_exactly.mp htab).1 (by decide)

theorem gapStarts_of_blanks
    (h : (many1 (apply Rule.wsp)).Matches input ((grammar policy).Matches input) p true q) :
    classAt input gapStarts p = true := by
  obtain ⟨i, hi, -⟩ := matches_many1.mp h
  exact gapStarts_of_wsp (matches_apply.mp hi)

theorem gapStarts_of_fws (h : Takes policy input .fws p q) : classAt input gapStarts p = true := by
  rcases matches_orElse.mp (Grammar.matches_body.mp h) with hplain | ⟨i, hi, hobs⟩
  · obtain ⟨i, hline, hblanks⟩ := matches_andThen.mp (matches_attempt.mp hplain)
    rcases matches_opt.mp hline with hline | ⟨rfl, -⟩
    · obtain ⟨j, hmany, hcrlf⟩ := matches_andThen.mp hline
      cases hmany with
      | many_miss | many_still =>
        have hbody := Grammar.matches_body.mp (matches_apply.mp hcrlf)
        obtain ⟨k, hcr, -⟩ := matches_andThen.mp (matches_attempt.mp hbody)
        have hcr := matches_exactly.mp (Grammar.matches_body.mp (matches_apply.mp hcr))
        exact classAt_of_byteAt? hcr.1 (by decide)
      | many_next hwsp => exact gapStarts_of_wsp (matches_apply.mp hwsp)
    · exact gapStarts_of_blanks hblanks
  · obtain ⟨rfl, -⟩ := misses_attempt.mp hi
    have hbody := Grammar.matches_body.mp (matches_apply.mp hobs)
    obtain ⟨j, hblanks, -⟩ := matches_andThen.mp (matches_attempt.mp hbody)
    exact gapStarts_of_blanks hblanks

/-- A comment with white space in front of it. -/
theorem gapStarts_of_comment (h : (chain [optFws, apply Rule.comment]).Matches input
    ((grammar policy).Matches input) p true q) : classAt input gapStarts p = true := by
  obtain ⟨i, hfws, hcomment⟩ := matches_andThen.mp h
  rcases matches_opt.mp hfws with hfws | ⟨rfl, -⟩
  · exact gapStarts_of_fws (matches_apply.mp hfws)
  · have hbody := Grammar.matches_body.mp (matches_apply.mp hcomment)
    obtain ⟨j, hopen, -⟩ := matches_andThen.mp (matches_attempt.mp hbody)
    exact classAt_of_byteAt? (matches_exactly.mp hopen).1 (by decide)

theorem gapStarts_of_cfws (h : Takes policy input .cfws p q) :
    classAt input gapStarts p = true := by
  obtain ⟨i, hmany, hlast⟩ := matches_andThen.mp (matches_attempt.mp (Grammar.matches_body.mp h))
  cases hmany with
  | many_next hpart => exact gapStarts_of_comment hpart
  | many_miss | many_still =>
    rcases matches_orElse.mp hlast with hcomment | ⟨j, hj, hfws⟩
    · exact gapStarts_of_comment (matches_attempt.mp hcomment)
    · obtain ⟨rfl, -⟩ := misses_attempt.mp hj
      exact gapStarts_of_fws (matches_apply.mp hfws)

namespace Gap

theorem le (h : Gap policy input p q) : p ≤ q := Matches.le (fun _ _ _ _ h => h.le) h

/-- There is one gap at a position. -/
theorem unique (h : Gap policy input p i) (h' : Gap policy input p j) : j = i :=
  (Matches.unique h Grammar.matches_unique h').2

theorem exists_of_le (policy : Option Policy) (hp : p ≤ input.utf8ByteSize) :
    ∃ q, Gap policy input p q := by
  obtain ⟨b, q, h⟩ := exists_matches policy hp optCfws
  obtain rfl := h.eq_true_of_total rfl
  exact ⟨q, h⟩

/-- A gap is empty where nothing begins that it could take. -/
theorem eq_of_not_starts (h : Gap policy input p q) (hp : ¬classAt input gapStarts p = true) :
    q = p := by
  rcases matches_opt.mp h with hcfws | ⟨hq, -⟩
  · exact absurd (gapStarts_of_cfws (matches_apply.mp hcfws)) hp
  · exact hq

/-- A gap either is empty or begins with something that it takes. -/
theorem cases (h : Gap policy input p q) : q = p ∨ classAt input gapStarts p = true := by
  by_cases hp : classAt input gapStarts p = true
  · exact .inr hp
  · exact .inl (h.eq_of_not_starts hp)

theorem self {c : ByteClass} (policy : Option Policy) (hc : classAt input c p = true)
    (hdisj : c.disjoint gapStarts = true) : Gap policy input p p := by
  obtain ⟨q, hq⟩ := exists_of_le policy (Nat.le_of_lt (lt_of_classAt hc))
  obtain rfl := hq.eq_of_not_starts (not_classAt_of_disjoint hdisj hc)
  exact hq

theorem self_of_byte {a : UInt8} (policy : Option Policy) (hp : byteAt? input p = some a)
    (ha : (ByteClass.single a).disjoint gapStarts = true) : Gap policy input p p :=
  self policy (classAt_single.mpr hp) ha

end Gap

/-! ### What rules expect behind a gap -/

/-- The bytes that an atom consists of. -/
def atomBytes : ByteClass := ⟨(65, 90) :: (97, 122) :: (48, 57) :: atomMarks.intervals⟩

/-- What a word begins with, behind a gap. -/
def wordStarts : ByteClass := ⟨(34, 34) :: atomBytes.intervals⟩

/-- A rule expects a byte of a class behind the gap in front of it. -/
def Opens (policy : Option Policy) (input : String) (c : ByteClass) (r : Rule) : Prop :=
  ∀ p q, Takes policy input r p q → ∃ x, Gap policy input p x ∧ classAt input c x = true

theorem Opens.mono {c d : ByteClass} {r : Rule} (h : Opens policy input c r)
    (hcd : c.intervals ⊆ d.intervals) : Opens policy input d r := by
  intro p q hr
  obtain ⟨x, hx, hc⟩ := h p q hr
  exact ⟨x, hx, classAt_mono hcd hc⟩

/-- Two rules that expect different bytes do not match at one position. -/
theorem Opens.not_both {c d : ByteClass} {r s : Rule} (h : Opens policy input c r)
    (h' : Opens policy input d s) (hcd : c.disjoint d = true) (hr : Takes policy input r p i) :
    ¬Takes policy input s p j := by
  intro hs
  obtain ⟨x, hx, hc⟩ := h p i hr
  obtain ⟨x', hx', hd⟩ := h' p j hs
  obtain rfl := hx.unique hx'
  exact not_classAt_of_disjoint hcd hc hd

theorem atomBytes_of_atext (h : Takes policy input .atext p q) :
    classAt input atomBytes p = true := by
  have halpha : ∀ {p q}, Takes policy input .alpha p q → classAt input atomBytes p = true :=
    fun h => classAt_mono (by simp [atomBytes]) (matches_byte.mp (Grammar.matches_body.mp h)).1
  have hdigit : ∀ {p q}, Takes policy input .digit p q → classAt input atomBytes p = true :=
    fun h => classAt_mono (by simp [atomBytes, ByteClass.range])
      (matches_byte.mp (Grammar.matches_body.mp h)).1
  rcases matches_orElse.mp (Grammar.matches_body.mp h) with h₁ | ⟨i, hi, h₂⟩
  · exact halpha (matches_apply.mp h₁)
  · obtain rfl := (matches_apply.mp hi).eq_of_missed
    rcases matches_orElse.mp h₂ with h₂ | ⟨j, hj, h₃⟩
    · exact hdigit (matches_apply.mp h₂)
    · obtain rfl := (matches_apply.mp hj).eq_of_missed
      have hmarks : atomMarks.intervals ⊆ atomBytes.intervals :=
        fun _ h => .tail _ (.tail _ (.tail _ h))
      exact classAt_mono hmarks (matches_byte.mp h₃).1

theorem atomBytes_of_many1
    (h : (many1 (apply Rule.atext)).Matches input ((grammar policy).Matches input) p true q) :
    classAt input atomBytes p = true := by
  obtain ⟨i, hi, -⟩ := matches_many1.mp h
  exact atomBytes_of_atext (matches_apply.mp hi)

theorem opens_atom : Opens policy input atomBytes .atom := by
  intro p q h
  obtain ⟨i, hgap, h⟩ := matches_andThen.mp (matches_attempt.mp (Grammar.matches_body.mp h))
  obtain ⟨j, htext, -⟩ := matches_andThen.mp h
  exact ⟨i, hgap, atomBytes_of_many1 htext⟩

theorem opens_dotAtom : Opens policy input atomBytes .dotAtom := by
  intro p q h
  obtain ⟨i, hgap, h⟩ := matches_andThen.mp (matches_attempt.mp (Grammar.matches_body.mp h))
  obtain ⟨j, htext, -⟩ := matches_andThen.mp h
  have hbody := Grammar.matches_body.mp (matches_apply.mp htext)
  obtain ⟨k, htext, -⟩ := matches_andThen.mp (matches_attempt.mp hbody)
  exact ⟨i, hgap, atomBytes_of_many1 htext⟩

/-- A rule that asks for a gap and then for a fixed byte. -/
theorem opens_of_body {r : Rule} {a : UInt8} {e : Expr Rule}
    (hbody : (grammar policy).body r = attempt (andThen optCfws (andThen (exactly a) e))) :
    Opens policy input (.single a) r := by
  intro p q h
  have h := Grammar.matches_body.mp h
  rw [hbody] at h
  obtain ⟨i, hgap, h⟩ := matches_andThen.mp (matches_attempt.mp h)
  obtain ⟨j, hbyte, -⟩ := matches_andThen.mp h
  exact ⟨i, hgap, classAt_single.mpr (matches_exactly.mp hbyte).1⟩

theorem opens_quotedString : Opens policy input (.single 34) .quotedString := opens_of_body rfl

theorem opens_domainLiteral : Opens policy input (.single 91) .domainLiteral := opens_of_body rfl

theorem opens_obsRoute : Opens policy input (.single 64) .obsRoute := by
  intro p q h
  obtain ⟨i, hgap, h⟩ := matches_andThen.mp (matches_attempt.mp (Grammar.matches_body.mp h))
  obtain ⟨j, hlist, -⟩ := matches_andThen.mp h
  have hbody := Grammar.matches_body.mp (matches_apply.mp hlist)
  obtain ⟨k, hat, -⟩ := matches_andThen.mp (matches_attempt.mp hbody)
  exact ⟨i, hgap, classAt_single.mpr (matches_exactly.mp hat).1⟩

theorem opens_word : Opens policy input wordStarts .word := by
  intro p q h
  rcases matches_orElse.mp (Grammar.matches_body.mp h) with hatom | ⟨i, hi, hquoted⟩
  · exact opens_atom.mono (List.subset_cons_self _ _) p q (matches_apply.mp hatom)
  · obtain rfl := (matches_apply.mp hi).eq_of_missed
    exact opens_quotedString.mono (by simp [wordStarts, ByteClass.single]) _ q
      (matches_apply.mp hquoted)

theorem opens_displayName : Opens policy input wordStarts .displayName := by
  intro p q h
  have hphrase := Grammar.matches_body.mp (matches_apply.mp (Grammar.matches_body.mp h))
  rcases matches_orElse.mp hphrase with hwords | ⟨i, hi, hobs⟩
  · obtain ⟨i, hword, -⟩ := matches_many1.mp hwords
    exact opens_word p i (matches_apply.mp hword)
  · have hi' := Matches.eq_of_restores hi rfl rfl fun _ _ _ h => h.eq_of_missed
    subst hi'
    have hbody := Grammar.matches_body.mp (matches_apply.mp hobs)
    obtain ⟨j, hword, -⟩ := matches_andThen.mp (matches_attempt.mp hbody)
    exact opens_word _ j (matches_apply.mp hword)

theorem opens_localPart : Opens policy input wordStarts .localPart := by
  intro p q h
  rcases matches_orElse.mp (Grammar.matches_body.mp h) with hdotted | ⟨i, hi, hother⟩
  · exact opens_dotAtom.mono (List.subset_cons_self _ _) p q (matches_apply.mp hdotted)
  · obtain rfl := (matches_apply.mp hi).eq_of_missed
    rcases matches_orElse.mp hother with hquoted | ⟨j, hj, hobs⟩
    · exact opens_quotedString.mono (by simp [wordStarts, ByteClass.single]) _ q
        (matches_apply.mp hquoted)
    · obtain rfl := (matches_apply.mp hj).eq_of_missed
      have hbody := Grammar.matches_body.mp (matches_apply.mp hobs)
      obtain ⟨k, hword, -⟩ := matches_andThen.mp (matches_attempt.mp hbody)
      exact opens_word _ k (matches_apply.mp hword)

theorem opens_angleAddr : Opens policy input (.single 60) .angleAddr := by
  intro p q h
  rcases matches_orElse.mp (Grammar.matches_body.mp h) with hplain | ⟨i, hi, hobs⟩
  · obtain ⟨i, hgap, hplain⟩ := matches_andThen.mp (matches_attempt.mp hplain)
    obtain ⟨j, hbyte, -⟩ := matches_andThen.mp hplain
    exact ⟨i, hgap, classAt_single.mpr (matches_exactly.mp hbyte).1⟩
  · obtain ⟨rfl, -⟩ := misses_attempt.mp hi
    exact opens_of_body (r := .obsAngleAddr) rfl _ q (matches_apply.mp hobs)

/-- What an address begins with, behind a gap. -/
def addressStarts : ByteClass := ⟨(60, 60) :: wordStarts.intervals⟩

theorem opens_mailbox : Opens policy input addressStarts .mailbox := by
  intro p q h
  rcases matches_orElse.mp (Grammar.matches_body.mp h) with hnamed | ⟨i, hi, hspec⟩
  · have hbody := Grammar.matches_body.mp (matches_apply.mp hnamed)
    obtain ⟨i, hname, hangle⟩ := matches_andThen.mp (matches_attempt.mp hbody)
    rcases matches_opt.mp hname with hname | ⟨rfl, -⟩
    · exact opens_displayName.mono (List.subset_cons_self _ _) p i (matches_apply.mp hname)
    · exact opens_angleAddr.mono (by simp [addressStarts, ByteClass.single]) _ q
        (matches_apply.mp hangle)
  · obtain rfl := (matches_apply.mp hi).eq_of_missed
    have hbody := Grammar.matches_body.mp (matches_apply.mp hspec)
    obtain ⟨j, hlocal, -⟩ := matches_andThen.mp (matches_attempt.mp hbody)
    exact opens_localPart.mono (List.subset_cons_self _ _) _ j (matches_apply.mp hlocal)

theorem opens_address : Opens policy input addressStarts .address := by
  intro p q h
  rcases matches_orElse.mp (Grammar.matches_body.mp h) with hmailbox | ⟨i, hi, hgroup⟩
  · exact opens_mailbox p q (matches_apply.mp hmailbox)
  · obtain rfl := (matches_apply.mp hi).eq_of_missed
    have hbody := Grammar.matches_body.mp (matches_apply.mp hgroup)
    obtain ⟨j, hname, -⟩ := matches_andThen.mp (matches_attempt.mp hbody)
    exact opens_displayName.mono (List.subset_cons_self _ _) _ j (matches_apply.mp hname)

/-! ### Words, local parts and names -/

/-- What stands behind the first word of a local part that has an at sign behind it. -/
def dotOrAt : ByteClass := ⟨[(46, 46), (64, 64)]⟩

theorem dotOrAt_of_dot (h : byteAt? input p = some 46) : classAt input dotOrAt p = true :=
  classAt_of_byteAt? h (by decide)

theorem dotOrAt_of_at (h : byteAt? input p = some 64) : classAt input dotOrAt p = true :=
  classAt_of_byteAt? h (by decide)

theorem not_word_of_dotOrAt (h : classAt input dotOrAt p = true) :
    ¬Takes policy input .word p q := by
  intro hword
  obtain ⟨x, hx, hstart⟩ := opens_word p q hword
  obtain rfl := hx.eq_of_not_starts (not_classAt_of_disjoint (by decide) h)
  exact not_classAt_of_disjoint (by decide) h hstart

/-- A local part in front of an at sign begins with a word and goes on with a dot, or ends. -/
theorem word_of_localPart (h : Takes policy input .localPart p q) (hq : byteAt? input q = some 64) :
    ∃ i, Takes policy input .word p i ∧ classAt input dotOrAt i = true := by
  rcases matches_orElse.mp (Grammar.matches_body.mp h) with hdotted | ⟨i, hi, hother⟩
  · -- The first atom of the dotted form ends where its first dot stands, or behind the gap.
    have hbody := Grammar.matches_body.mp (matches_apply.mp hdotted)
    obtain ⟨i, hgap, hbody⟩ := matches_andThen.mp (matches_attempt.mp hbody)
    obtain ⟨j, htext, hgap'⟩ := matches_andThen.mp hbody
    have hbody := Grammar.matches_body.mp (matches_apply.mp htext)
    obtain ⟨k, hfirst, hrest⟩ := matches_andThen.mp (matches_attempt.mp hbody)
    have hk : k ≤ input.utf8ByteSize := by
      have hkj := hrest.le fun _ _ _ _ h => h.le
      have hjq := Gap.le hgap'
      have hqn := lt_of_byteAt?_eq_some hq
      omega
    obtain ⟨l, hl⟩ := Gap.exists_of_le policy hk
    have hatom : Takes policy input .atom p l :=
      Grammar.matches_body.mpr (.attempt (.andThen hgap (.andThen hfirst hl)))
    refine ⟨l, Grammar.matches_body.mpr (.orElse (.apply hatom)), ?_⟩
    cases hrest with
    | many_miss | many_still =>
      obtain rfl := Gap.unique hgap' hl
      exact dotOrAt_of_at hq
    | many_next hpart =>
      obtain ⟨m, hdot, -⟩ := matches_andThen.mp hpart
      have hdot := dotOrAt_of_dot (matches_exactly.mp hdot).1
      obtain rfl := hl.eq_of_not_starts (not_classAt_of_disjoint (by decide) hdot)
      exact hdot
  · obtain rfl := (matches_apply.mp hi).eq_of_missed
    rcases matches_orElse.mp hother with hquoted | ⟨j, hj, hobs⟩
    · have hquoted := matches_apply.mp hquoted
      have hp : i ≤ input.utf8ByteSize :=
        Nat.le_trans hquoted.le (Nat.le_of_lt (lt_of_byteAt?_eq_some hq))
      have hatom : (grammar policy).Matches input .atom i false i := misses_of_not_takes hp fun _ =>
        opens_quotedString.not_both opens_atom (by decide) hquoted
      exact ⟨q, Grammar.matches_body.mpr (.orElse_next (.apply hatom) (.apply hquoted)),
        dotOrAt_of_at hq⟩
    · obtain rfl := (matches_apply.mp hj).eq_of_missed
      have hbody := Grammar.matches_body.mp (matches_apply.mp hobs)
      obtain ⟨k, hword, hrest⟩ := matches_andThen.mp (matches_attempt.mp hbody)
      refine ⟨k, matches_apply.mp hword, ?_⟩
      cases hrest with
      | many_miss | many_still => exact dotOrAt_of_at hq
      | many_next hpart =>
        obtain ⟨m, hdot, -⟩ := matches_andThen.mp hpart
        exact dotOrAt_of_dot (matches_exactly.mp hdot).1

/-- A name is a single word where a dot or an at sign stands behind the first one. -/
theorem eq_of_displayName (hword : Takes policy input .word p i)
    (hi : classAt input dotOrAt i = true) (h : (grammar policy).Matches input .displayName p b q) :
    b = true ∧ q = i := by
  have hwords : ∀ {b j},
      (many1 (apply Rule.word)).Matches input ((grammar policy).Matches input) p b j → b = true ∧ j = i := by
    intro b j h
    cases h with
    | andThen hfirst hrest =>
      obtain ⟨-, rfl⟩ := hword.unique (matches_apply.mp (matches_attempt.mp hfirst))
      exact ⟨hrest.many_matched, hrest.many_stays fun k hk =>
        not_word_of_dotOrAt hi (matches_apply.mp hk)⟩
    | andThen_miss hfirst =>
      obtain ⟨-, k, hk⟩ := misses_attempt.mp hfirst
      cases (hword.unique (matches_apply.mp hk)).1
  obtain ⟨j, hbody, rfl⟩ := Grammar.matches_iff.mp h
  obtain ⟨k, hphrase, rfl⟩ := Grammar.matches_iff.mp (matches_apply.mp hbody)
  cases hphrase with
  | orElse hphrase =>
    obtain ⟨-, rfl⟩ := hwords hphrase
    exact ⟨rfl, rfl⟩
  | orElse_next hphrase => cases (hwords hphrase).1

/-! ### In front of a gap and behind it -/

/-- What the expression does at the first position it does at the second one too: it fails there as
well, or takes the text up to the same position. -/
def Shifts (policy : Option Policy) (input : String) (p x : Nat) (e : Expr Rule) : Prop :=
  ∀ b q, e.Matches input ((grammar policy).Matches input) p b q →
    ∃ q', e.Matches input ((grammar policy).Matches input) x b q' ∧ (b = true → q' = q)

section Shifts

variable {x : Nat} {e e₁ e₂ : Expr Rule} {r s : Rule}

theorem shifts_rule (h : Shifts policy input p x ((grammar policy).body r)) :
    Shifts policy input p x (apply r) := by
  intro b q hr
  obtain ⟨i, hi, rfl⟩ := Grammar.matches_iff.mp (matches_apply.mp hr)
  obtain ⟨j, hj, heq⟩ := h b i hi
  refine ⟨if b then j else x, .apply (.of_body hj), ?_⟩
  rintro rfl
  exact heq rfl

theorem shifts_attempt (h : Shifts policy input p x e) : Shifts policy input p x (attempt e) := by
  intro b q he
  cases he with
  | attempt he =>
    obtain ⟨q', hq', heq⟩ := h true q he
    exact ⟨q', .attempt hq', heq⟩
  | attempt_miss he =>
    obtain ⟨q', hq', -⟩ := h false _ he
    exact ⟨x, .attempt_miss hq', nofun⟩

theorem shifts_andThen (h : Shifts policy input p x e₁) :
    Shifts policy input p x (andThen e₁ e₂) := by
  intro b q he
  cases he with
  | andThen he₁ he₂ =>
    obtain ⟨i, hi, heq⟩ := h true _ he₁
    exact ⟨q, .andThen hi (heq rfl ▸ he₂), fun _ => rfl⟩
  | andThen_miss he =>
    obtain ⟨i, hi, -⟩ := h false _ he
    exact ⟨i, .andThen_miss hi, nofun⟩

/-- The second part of a choice is asked for where the first one was. -/
theorem shifts_orElse (hr : e₁.restores = true) (h₁ : Shifts policy input p x e₁)
    (h₂ : Shifts policy input p x e₂) : Shifts policy input p x (orElse e₁ e₂) := by
  intro b q he
  cases he with
  | orElse he =>
    obtain ⟨q', hq', heq⟩ := h₁ true q he
    exact ⟨q', .orElse hq', heq⟩
  | orElse_next he₁ he₂ =>
    obtain ⟨i, hi, -⟩ := h₁ false _ he₁
    have hp := he₁.eq_of_restores rfl hr fun _ _ _ h => h.eq_of_missed
    have hx := hi.eq_of_restores rfl hr fun _ _ _ h => h.eq_of_missed
    subst hp hx
    obtain ⟨q', hq', heq⟩ := h₂ b q he₂
    exact ⟨q', .orElse_next hi hq', heq⟩

theorem shifts_choice (hr : Shifts policy input p x (apply r))
    (hs : Shifts policy input p x (apply s)) :
    Shifts policy input p x (choice [r, s]) := shifts_orElse rfl hr hs

theorem shifts_opt_andThen (h₁ : Shifts policy input p x e₁) (h₂ : Shifts policy input p x e₂) :
    Shifts policy input p x (andThen (opt e₁) e₂) := by
  intro b q he
  cases he with
  | andThen hopt he₂ =>
    rcases matches_opt.mp hopt with he₁ | ⟨rfl, j, he₁⟩
    · obtain ⟨i, hi, heq⟩ := h₁ true _ he₁
      exact ⟨q, .andThen (.orElse (.attempt hi)) (heq rfl ▸ he₂), fun _ => rfl⟩
    · obtain ⟨i, hi, -⟩ := h₁ false _ he₁
      obtain ⟨q', hq', heq⟩ := h₂ b q he₂
      exact ⟨q', .andThen (.orElse_next (.attempt_miss hi) .succeed) hq', heq⟩
  | andThen_miss hopt => cases hopt.eq_true_of_total rfl

variable (hp : Gap policy input p x) (hx : Gap policy input x x)
include hp hx

/-- **What begins with a gap may be asked for behind it**, if nothing is left of the gap there. -/
theorem shifts_gap : Shifts policy input p x (attempt (andThen optCfws e)) := by
  refine shifts_attempt fun b q he => ?_
  cases he with
  | andThen hgap he =>
    obtain rfl := Gap.unique hp hgap
    exact ⟨q, .andThen hx he, fun _ => rfl⟩
  | andThen_miss hgap => cases hgap.eq_true_of_total rfl

theorem shifts_word : Shifts policy input p x (apply .word) :=
  shifts_rule (shifts_choice (shifts_rule (shifts_gap hp hx)) (shifts_rule (shifts_gap hp hx)))

theorem shifts_displayName : Shifts policy input p x (apply .displayName) :=
  shifts_rule (shifts_rule (shifts_orElse rfl (shifts_andThen (shifts_attempt (shifts_word hp hx)))
    (shifts_rule (shifts_attempt (shifts_andThen (shifts_word hp hx))))))

theorem shifts_localPart : Shifts policy input p x (apply .localPart) :=
  shifts_rule (shifts_orElse rfl (shifts_rule (shifts_gap hp hx))
    (shifts_choice (shifts_rule (shifts_gap hp hx))
      (shifts_rule (shifts_attempt (shifts_andThen (shifts_word hp hx))))))

theorem shifts_angleAddr : Shifts policy input p x (apply .angleAddr) :=
  shifts_rule (shifts_orElse rfl (shifts_gap hp hx) (shifts_rule (shifts_gap hp hx)))

theorem shifts_mailbox : Shifts policy input p x (apply .mailbox) :=
  shifts_rule (shifts_choice
    (shifts_rule (shifts_attempt
      (shifts_opt_andThen (shifts_displayName hp hx) (shifts_angleAddr hp hx))))
    (shifts_rule (shifts_attempt (shifts_andThen (shifts_localPart hp hx)))))

/-- **An address may be asked for behind the gap in front of it.** -/
theorem shifts_address : Shifts policy input p x (apply .address) :=
  shifts_rule (shifts_choice (shifts_mailbox hp hx)
    (shifts_rule (shifts_attempt (shifts_andThen (shifts_displayName hp hx)))))

end Shifts

end Modern

end AddressGrammar
