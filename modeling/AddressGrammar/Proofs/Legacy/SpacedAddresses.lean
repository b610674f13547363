import AddressGrammar.Proofs.Legacy.Fillings
import AddressGrammar.Proofs.Legacy.PlainAddresses

/-!
# Legacy addresses with comments in them

Both sides of an at sign are tokens with dots between them, and there may be comments in front of and
behind each token. The rules for the two sides ask for comments behind the first token and behind each
dot, and what is left behind the last token is asked for by the rules around them. Nobody asks for the
comments that stand between a token and a dot, the first token apart. Where there are any, a side ends
in front of them, and the rule that goes on behind the comments finds a dot.

So the grammar takes such a text, or it does not, and where comments stand in front of dots tells
which. Either way the derivation is as high as the comments are nested and nine more.

## Main definitions

* `IsWord`, `IsHostPart` — the tokens in front of an at sign and behind it
* `Spaced` — a token with comments on both sides
* `DotsFlush` — dots stand right behind their tokens, except for the first one
* `spacedText` — the text of an address

## Main results

* `exists_loop`, `exists_side` — how far a side of the at sign is read
* `within_onlyAddrSpec` — the verdict on a whole text, by a derivation of a known height
-/

namespace AddressGrammar.Legacy

open Text Peg Peg.Expr

/-! ### Texts -/

/-- The tokens of a local part. -/
def IsWord (s : String) : Prop := IsRun s ∨ IsQuotedString s

/-- The tokens of a domain. -/
def IsHostPart (s : String) : Prop := IsRun s ∨ IsDomainLiteral s

/-- A token with comments in front of it and behind it. -/
structure Spaced where
  before : List String
  token : String
  after : List String

namespace Spaced

/-- The token and what stands in front of it. -/
def lead (x : Spaced) : String := String.join x.before ++ x.token

def text (x : Spaced) : String := x.lead ++ String.join x.after

/-- The token is of a kind, and around it there are comments, nested at most so often. -/
structure Proper (IsToken : String → Prop) (n : Nat) (x : Spaced) : Prop where
  before : ∀ c ∈ x.before, IsComment n c
  token : IsToken x.token
  after : ∀ c ∈ x.after, IsComment n c

end Spaced

/-- Dots stand right behind their tokens, except for the first one. -/
def DotsFlush (xs : List Spaced) : Prop := ∀ x ∈ xs.tail.dropLast, x.after = []

instance : DecidablePred DotsFlush :=
  fun xs => inferInstanceAs (Decidable (∀ x ∈ xs.tail.dropLast, x.after = []))

/-- Words with dots between them, an at sign, and parts of a domain with dots between them. -/
def spacedText (words hosts : List Spaced) : String :=
  ".".intercalate (words.map Spaced.text) ++ "@" ++ ".".intercalate (hosts.map Spaced.text)

/-- What stands behind a first token and its comments: dots, and behind each of them a token. -/
def linked (xs : List Spaced) : String := String.join (xs.map fun x => "." ++ x.text)

/-- One side of the at sign, but for the comments in front. -/
def side (x : Spaced) (xs : List Spaced) : String := x.token ++ (String.join x.after ++ linked xs)

theorem linked_cons (x : Spaced) (xs : List Spaced) :
    linked (x :: xs) = "." ++ (x.lead ++ (String.join x.after ++ linked xs)) := by
  rw [linked, List.map_cons, String.join_cons, Spaced.text, linked]
  simp only [String.append_assoc]

theorem intercalate_text (x : Spaced) (xs : List Spaced) :
    ".".intercalate ((x :: xs).map Spaced.text) = String.join x.before ++ side x xs := by
  have hlinked : ".".intercalate ((x :: xs).map Spaced.text) = x.text ++ linked xs := by
    induction xs generalizing x with
    | nil => simp [linked]
    | cons y xs ih =>
      rw [linked_cons, List.map_cons, List.map_cons, String.intercalate_cons_cons, ← List.map_cons, ih]
      simp only [String.append_assoc, Spaced.text]
  rw [hlinked, Spaced.text, Spaced.lead, side]
  simp only [String.append_assoc]

theorem spacedText_cons (w h : Spaced) (ws hs : List Spaced) :
    spacedText (w :: ws) (h :: hs) =
      String.join w.before ++ (side w ws ++ ("@" ++ (String.join h.before ++ side h hs))) := by
  rw [spacedText, intercalate_text, intercalate_text]
  simp only [String.append_assoc]

variable {policy : Option Policy} {input s : String} {n p q : Nat} {xs : List Spaced} {x : Spaced}
  {cs : List String} {r : Rule} {IsToken : String → Prop}

/-! ### Comments -/

/-- A text with marks begins with the first of them. -/
theorem Enclosed.head {first last : UInt8} {c : ByteClass} {nests : Bool}
    (hs : Enclosed first last c nests n s) : ∃ l, bytes s = first :: l := by
  obtain ⟨inner, -, hbytes⟩ := hs
  exact ⟨_, hbytes⟩

/-- **Comments are taken up to what is none.** -/
theorem within_ocms (policy : Option Policy) (hcs : ∀ c ∈ cs, IsComment n c)
    (h : StandsAt input p (String.join cs))
    (hnext : byteAt? input (p + (String.join cs).utf8ByteSize) ≠ some 40) :
    (grammar policy).MatchesWithin input (n + 6) .ocms p true
      (p + (String.join cs).utf8ByteSize) := by
  have hmany : (many (apply Rule.comment)).Matches input
      ((grammar policy).MatchesWithin input (n + 5)) p true
      (p + (String.join cs).utf8ByteSize) := by
    induction cs generalizing p with
    | nil => exact .many_miss (Quotes.misses_comment (by omega) hnext)
    | cons c cs ih =>
      obtain ⟨hc, hcs⟩ := List.forall_mem_cons.mp hcs
      rw [String.join_cons] at h hnext ⊢
      obtain ⟨hhere, hbehind⟩ := standsAt_append.mp h
      rw [String.utf8ByteSize_append, ← Nat.add_assoc] at hnext ⊢
      obtain ⟨l, hl⟩ := hc.head
      have hpos : 0 < c.utf8ByteSize := by
        rw [← length_bytes, hl]
        exact Nat.succ_pos _
      exact .many_next (.apply (within_comment hc hhere)) (by omega) (ih hcs hbehind hnext)
  exact .of_body (b := true) hmany

/-- Comments do not go on with an atom. -/
theorem ends_of_comments (hcs : ∀ c ∈ cs, IsComment n c) (h : StandsAt input p (String.join cs))
    (hnext : classAt input atomBytes (p + (String.join cs).utf8ByteSize) = false) :
    classAt input atomBytes p = false := by
  cases cs with
  | nil => exact hnext
  | cons c cs =>
    rw [String.join_cons] at h
    obtain ⟨l, hl⟩ := (hcs c List.mem_cons_self).head
    have hopen := (standsAt_append.mp h).1.byteAt? hl
    exact Bool.eq_false_iff.mpr fun hc => byteAt?_ne_of_classAt hc (by decide) hopen

/-! ### Tokens -/

/-- A rule takes the tokens of a kind, unless an atom goes on behind them. -/
structure Tokens (policy : Option Policy) (input : String) (r : Rule) (IsToken : String → Prop) :
    Prop where
  within : ∀ {p s}, IsToken s → StandsAt input p s →
    classAt input atomBytes (p + s.utf8ByteSize) = false →
      (grammar policy).MatchesWithin input 6 r p true (p + s.utf8ByteSize)
  head : ∀ {s}, IsToken s → ∃ b l, bytes s = b :: l ∧ b ≠ 40

/-- No comment begins where a token stands. -/
theorem Tokens.not_comment (hr : Tokens policy input r IsToken) (hs : IsToken s)
    (h : StandsAt input p s) : byteAt? input p ≠ some 40 := by
  obtain ⟨b, l, hl, hb⟩ := hr.head hs
  rw [h.byteAt? hl]
  exact fun h => hb (Option.some.inj h)

theorem contains_of_isRun (hs : IsRun s) : ∀ b ∈ bytes s, atomBytes.contains b = true := by
  intro b hb
  obtain ⟨i, hi⟩ := List.mem_iff_getElem?.mp hb
  rw [← byteAt?_eq_getElem?] at hi
  have hclass := ((isRun_iff holdsAtext_atomBytes).mp hs).2 i (lt_of_byteAt?_eq_some hi)
  rwa [classAt, hi] at hclass

/-- A run begins with a byte of an atom. -/
theorem exists_head_of_isRun (hs : IsRun s) : ∃ b l, bytes s = b :: l ∧ b ≠ 40 := by
  cases hb : bytes s with
  | nil =>
    have hpos := ((isRun_iff holdsAtext_atomBytes).mp hs).1
    rw [← length_bytes, hb] at hpos
    cases hpos
  | cons b l =>
    refine ⟨b, l, rfl, ?_⟩
    rintro rfl
    cases contains_of_isRun hs 40 (hb ▸ List.mem_cons_self)

/-- A run that stands somewhere is a longest one if no atom goes on behind it. -/
theorem runBetween_of_standsAt (hs : IsRun s) (h : StandsAt input p s)
    (hnext : classAt input atomBytes (p + s.utf8ByteSize) = false) :
    RunBetween input atomBytes p (p + s.utf8ByteSize) := by
  have hpos := ((isRun_iff holdsAtext_atomBytes).mp hs).1
  exact ⟨by omega, fun _ hi hi' => h.classAt (contains_of_isRun hs) hi hi', Bool.eq_false_iff.mp hnext⟩

theorem within_atom (hs : IsRun s) (h : StandsAt input p s)
    (hnext : classAt input atomBytes (p + s.utf8ByteSize) = false) :
    (grammar policy).MatchesWithin input 1 .atom p true (p + s.utf8ByteSize) :=
  (flat policy).within rfl Nat.zero_lt_one
    (reads_atom_iff.mpr (runBetween_of_standsAt hs h hnext))

/-- No atom begins where a mark stands. -/
theorem misses_atom {a : UInt8} {m : Nat} (hp : byteAt? input p = some a)
    (ha : atomBytes.contains a = false) :
    (grammar policy).MatchesWithin input (m + 1) .atom p false p :=
  .of_body (b := false) (.run_miss (Bool.eq_false_iff.mpr fun hc => byteAt?_ne_of_classAt hc ha hp))

theorem tokens_word : Tokens policy input .word IsWord where
  within := by
    rintro p s (hs | hs) h hnext
    · exact .of_body (b := true) (n := 5)
        (.orElse (.apply ((within_atom hs h hnext).mono (by decide))))
    · obtain ⟨l, hl⟩ := hs.head
      exact .of_body (b := true) (n := 5) (.orElse_next (.apply (misses_atom (h.byteAt? hl) (by decide)))
        (.apply (within_quotedString hs h)))
  head := by
    rintro s (hs | hs)
    · exact exists_head_of_isRun hs
    · obtain ⟨l, hl⟩ := hs.head
      exact ⟨34, l, hl, by decide⟩

theorem tokens_subDomain : Tokens policy input .subDomain IsHostPart where
  within := by
    rintro p s (hs | hs) h hnext
    · have href : (grammar policy).MatchesWithin input 5 .domainRef p true (p + s.utf8ByteSize) :=
        .of_body (b := true) (n := 4) (.apply ((within_atom hs h hnext).mono (by decide)))
      exact .of_body (b := true) (n := 5) (.orElse (.apply href))
    · obtain ⟨l, hl⟩ := hs.head
      have href : (grammar policy).MatchesWithin input 5 .domainRef p false p :=
        .of_body (b := false) (n := 4) (.apply (misses_atom (h.byteAt? hl) (by decide)))
      exact .of_body (b := true) (n := 5) (.orElse_next (.apply href)
        (.apply (within_domainLiteral hs h)))
  head := by
    rintro s (hs | hs)
    · exact exists_head_of_isRun hs
    · obtain ⟨l, hl⟩ := hs.head
      exact ⟨91, l, hl, by decide⟩

/-! ### Links -/

/-- A dot, comments and a token. -/
abbrev link (r : Rule) : Expr Rule := chain [token '.', apply .ocms, apply r]

/-- What stands behind a side of the at sign: neither more of an atom, nor a comment, nor a dot. -/
structure Ends (input : String) (p : Nat) : Prop where
  atom : classAt input atomBytes p = false
  comment : byteAt? input p ≠ some 40
  dot : byteAt? input p ≠ some 46

theorem Ends.of_at (hp : byteAt? input p = some 64) : Ends input p where
  atom := Bool.eq_false_iff.mpr fun hc => byteAt?_ne_of_classAt hc (by decide) hp
  comment := by
    rw [hp]
    decide
  dot := by
    rw [hp]
    decide

theorem Ends.of_size (input : String) : Ends input input.utf8ByteSize where
  atom := Bool.eq_false_iff.mpr fun hc => Nat.lt_irrefl _ (lt_of_classAt hc)
  comment := fun hp => Nat.lt_irrefl _ (lt_of_byteAt?_eq_some hp)
  dot := fun hp => Nat.lt_irrefl _ (lt_of_byteAt?_eq_some hp)

/-- A dot, or the end of a side, is not what a token or comments go on with. -/
theorem Ends.of_linked (h : StandsAt input p (linked xs))
    (hend : Ends input (p + (linked xs).utf8ByteSize)) :
    (classAt input atomBytes p = false ∧ byteAt? input p ≠ some 40) ∧
      (xs = [] ∨ byteAt? input p = some 46) := by
  cases xs with
  | nil => exact ⟨⟨hend.atom, hend.comment⟩, .inl rfl⟩
  | cons x xs =>
    rw [linked_cons] at h
    have hdot : byteAt? input p = some 46 := (standsAt_append.mp h).1.byteAt? (l := []) rfl
    have hopen : byteAt? input p ≠ some 40 := fun hp => by cases hdot.symm.trans hp
    exact ⟨⟨Bool.eq_false_iff.mpr fun hc => byteAt?_ne_of_classAt hc (by decide) hdot, hopen⟩,
      .inr hdot⟩

theorem forall_mem_dropLast_cons {α : Type} {P : α → Prop} {a : α} {l : List α} :
    (∀ b ∈ (a :: l).dropLast, P b) ↔ (l ≠ [] → P a) ∧ ∀ b ∈ l.dropLast, P b := by
  cases l <;> simp

/-- A side of the at sign is read to its end, or up to a dot if not all dots stand right behind their
tokens. -/
def ReadTo (input : String) (flush : Prop) (stop j : Nat) : Prop :=
  (flush ∧ j = stop) ∨ (¬flush ∧ byteAt? input j = some 46)

section Sides

variable (hr : Tokens policy input r IsToken)
include hr

/-- A token with comments in front of it. -/
theorem within_lead (hx : x.Proper IsToken n) (h : StandsAt input p x.lead)
    (hnext : classAt input atomBytes (p + x.lead.utf8ByteSize) = false) :
    (chain [apply Rule.ocms, apply r]).Matches input ((grammar policy).MatchesWithin input (n + 6)) p
      true (p + x.lead.utf8ByteSize) := by
  obtain ⟨hbefore, htoken⟩ := standsAt_append.mp h
  rw [Spaced.lead, add_size_append] at hnext ⊢
  exact .andThen (.apply (within_ocms policy hx.before hbefore (hr.not_comment hx.token htoken)))
    (.apply ((hr.within hx.token htoken hnext).mono (by omega)))

/-- **Behind a first token, dots are read as long as they stand right behind their tokens.** -/
theorem exists_loop (hxs : ∀ x ∈ xs, x.Proper IsToken n) (h : StandsAt input p (linked xs))
    (hend : Ends input (p + (linked xs).utf8ByteSize)) :
    ∃ i j, (many (link r)).Matches input ((grammar policy).MatchesWithin input (n + 6)) p true i ∧
      (xs = [] ∨ p < i) ∧ (grammar policy).MatchesWithin input (n + 6) .ocms i true j ∧
      ReadTo input (∀ x ∈ xs.dropLast, x.after = []) (p + (linked xs).utf8ByteSize) j := by
  induction xs generalizing p with
  | nil =>
    have hocms : (grammar policy).MatchesWithin input (n + 6) .ocms p true p :=
      within_ocms policy (List.forall_mem_nil _) standsAt_empty hend.comment
    exact ⟨p, p, .many_miss (.andThen_miss (misses_exactly.mpr ⟨hend.dot, rfl⟩)), .inl rfl, hocms,
      .inl ⟨nofun, rfl⟩⟩
  | cons x xs ih =>
    obtain ⟨hx, hxs⟩ := List.forall_mem_cons.mp hxs
    rw [linked_cons] at h hend ⊢
    simp only [add_size_append] at hend ⊢
    obtain ⟨hdot, h⟩ := standsAt_append.mp h
    obtain ⟨hlead, h⟩ := standsAt_append.mp h
    obtain ⟨hafter, hrest⟩ := standsAt_append.mp h
    obtain ⟨⟨hatom, hopen⟩, hnext⟩ := hend.of_linked hrest
    have hstep : (link r).Matches input ((grammar policy).MatchesWithin input (n + 6)) p true
        (p + ".".utf8ByteSize + x.lead.utf8ByteSize) :=
      .andThen (matches_exactly.mpr ⟨hdot.byteAt? (l := []) rfl, rfl⟩)
        (within_lead hr hx hlead (ends_of_comments hx.after hafter hatom))
    have hlt : p < p + ".".utf8ByteSize + x.lead.utf8ByteSize :=
      Nat.lt_add_right _ (Nat.lt_succ_self p)
    generalize p + ".".utf8ByteSize + x.lead.utf8ByteSize = t at *
    simp only [forall_mem_dropLast_cons]
    by_cases hflush : x.after = []
    · -- the dot behind the token is the next one to be read
      rw [hflush] at hrest hend ⊢
      obtain ⟨i, j, hloop, -, hocms, hread⟩ := ih hxs hrest hend
      have hle : t ≤ i := hloop.le fun _ _ _ _ h => h.matches.le
      rw [and_iff_right fun _ => rfl]
      exact ⟨i, j, .many_next hstep (Nat.ne_of_gt hlt) hloop, .inr (Nat.lt_of_lt_of_le hlt hle), hocms,
        hread⟩
    · -- comments behind the token are left to others, who find the next dot behind them
      obtain ⟨c, cs, hcs⟩ := List.exists_cons_of_ne_nil hflush
      obtain ⟨l, hl⟩ := (hx.after c (hcs ▸ List.mem_cons_self)).head
      have hc : byteAt? input t = some 40 := by
        rw [hcs, String.join_cons] at hafter
        exact (standsAt_append.mp hafter).1.byteAt? hl
      have hmiss : (link r).Matches input ((grammar policy).MatchesWithin input (n + 6)) t false t :=
        .andThen_miss (misses_exactly_of_ne hc (by decide))
      refine ⟨t, _, .many_next hstep (Nat.ne_of_gt hlt) (.many_miss hmiss), .inr hlt,
        within_ocms policy hx.after hafter hopen, ?_⟩
      cases xs with
      | nil => exact .inl ⟨⟨fun h => absurd rfl h, nofun⟩, rfl⟩
      | cons y ys =>
        exact .inr ⟨fun h => hflush (h.1 (List.cons_ne_nil _ _)), hnext.resolve_left nofun⟩

/-- **How far a side of the at sign is read.** -/
theorem exists_side (hx : x.Proper IsToken n) (hxs : ∀ x ∈ xs, x.Proper IsToken n)
    (h : StandsAt input p (side x xs))
    (hend : Ends input (p + (side x xs).utf8ByteSize)) :
    ∃ k l i j, (grammar policy).MatchesWithin input (n + 6) r p true k ∧
      (grammar policy).MatchesWithin input (n + 6) .ocms k true l ∧
      (many (link r)).Matches input ((grammar policy).MatchesWithin input (n + 6)) l true i ∧
      (xs = [] ∨ l < i) ∧ (grammar policy).MatchesWithin input (n + 6) .ocms i true j ∧
      ReadTo input (DotsFlush (x :: xs))
        (p + (side x xs).utf8ByteSize) j := by
  simp only [side, add_size_append] at hend ⊢
  obtain ⟨htoken, h⟩ := standsAt_append.mp h
  obtain ⟨hafter, hrest⟩ := standsAt_append.mp h
  obtain ⟨⟨hatom, hopen⟩, -⟩ := hend.of_linked hrest
  obtain ⟨i, j, hloop, hlt, hocms, hread⟩ := exists_loop hr hxs hrest hend
  exact ⟨_, _, i, j, (hr.within hx.token htoken (ends_of_comments hx.after hafter hatom)).mono (by omega),
    within_ocms policy hx.after hafter hopen, hloop, hlt, hocms, hread⟩

end Sides

/-! ### Addresses -/

section Whole

variable {w h : Spaced} {ws hs : List Spaced}

/-- **A bare address is taken if the dots on its left side are flush**, as far as its right side is
read. -/
theorem exists_addrSpec (hw : ∀ x ∈ w :: ws, x.Proper IsWord n)
    (hh : ∀ x ∈ h :: hs, x.Proper IsHostPart n) (hhs : hs ≠ [])
    (hall : StandsAt input p (side w ws ++ ("@" ++ (String.join h.before ++ side h hs))))
    (hend : Ends input
      (p + (side w ws ++ ("@" ++ (String.join h.before ++ side h hs))).utf8ByteSize)) :
    (¬DotsFlush (w :: ws) ∧ (grammar none).MatchesWithin input (n + 8) .addrSpec p false p) ∨
      DotsFlush (w :: ws) ∧ ∃ i j, (grammar none).MatchesWithin input (n + 8) .addrSpec p true i ∧
        (grammar none).MatchesWithin input (n + 6) .ocms i true j ∧
        ReadTo input (DotsFlush (h :: hs))
          (p + (side w ws ++ ("@" ++ (String.join h.before ++ side h hs))).utf8ByteSize) j := by
  obtain ⟨hw, hws⟩ := List.forall_mem_cons.mp hw
  obtain ⟨hh, hhs'⟩ := List.forall_mem_cons.mp hh
  simp only [add_size_append] at hend ⊢
  obtain ⟨hfront, hall⟩ := standsAt_append.mp hall
  obtain ⟨hat, hall⟩ := standsAt_append.mp hall
  obtain ⟨hbefore, hback⟩ := standsAt_append.mp hall
  have hat : byteAt? input (p + (side w ws).utf8ByteSize) = some 64 := hat.byteAt? (l := []) rfl
  have hwords : Tokens none input .word IsWord := tokens_word
  obtain ⟨k, l, i, j, hword, hocms, hloop, -, hocms', hread⟩ :=
    exists_side hwords hw hws hfront (.of_at hat)
  have hlocal : (grammar none).MatchesWithin input (n + 7) .localPart p true i :=
    .of_body (b := true) (.attempt (.andThen (.apply hword) (.andThen (.apply hocms) hloop)))
  rcases hread with ⟨hflush, rfl⟩ | ⟨hflush, hdot⟩
  · refine .inr ⟨hflush, ?_⟩
    have htokens : Tokens none input .subDomain IsHostPart := tokens_subDomain
    have hgap := within_ocms none hh.before hbefore
      (htokens.not_comment hh.token (standsAt_append.mp hback).1)
    obtain ⟨k', l', i', j', hpart, hocms₁, hloop', hlt, hocms₂, hread'⟩ :=
      exists_side htokens hh hhs' hback hend
    have hdomain := many1_of_many hloop' (hlt.resolve_left hhs)
    have hdomain : (grammar none).MatchesWithin input (n + 7) .domain _ true i' :=
      .of_body (b := true) (.attempt (.andThen (.apply hpart) (.andThen (.apply hocms₁) hdomain)))
    refine ⟨i', j', .of_body (b := true) (.attempt (.andThen (.apply hlocal) (.andThen
      (.apply (hocms'.mono (by omega))) (.andThen (matches_exactly.mpr ⟨hat, rfl⟩) (.andThen
        (.apply (hgap.mono (by omega))) (.apply hdomain)))))), hocms₂, hread'⟩
  · have hmiss : (token '@' : Expr Rule).Matches input ((grammar none).MatchesWithin input (n + 7)) j
        false j := misses_exactly_of_ne hdot (by decide)
    exact .inl ⟨hflush, .of_body (b := false) (.attempt_miss (.andThen (.apply hlocal)
      (.andThen (.apply (hocms'.mono (by omega))) (.andThen_miss hmiss))))⟩

/-- **The verdict on a whole text**, by a derivation of a known height. -/
theorem within_onlyAddrSpec (hw : ∀ x ∈ w :: ws, x.Proper IsWord n)
    (hh : ∀ x ∈ h :: hs, x.Proper IsHostPart n) (hhs : hs ≠ [])
    (hinput : input = spacedText (w :: ws) (h :: hs)) :
    ∃ b q, (grammar none).MatchesWithin input (n + 9) .onlyAddrSpec 0 b q ∧
      (b = true ↔ DotsFlush (w :: ws) ∧ DotsFlush (h :: hs)) ∧ (b = true → q = input.utf8ByteSize) := by
  have hstands : StandsAt input 0 (spacedText (w :: ws) (h :: hs)) := hinput ▸ standsAt_self input
  have hsize : 0 + (spacedText (w :: ws) (h :: hs)).utf8ByteSize = input.utf8ByteSize := by
    rw [hinput, Nat.zero_add]
  rw [spacedText_cons] at hstands hsize
  rw [add_size_append] at hsize
  obtain ⟨hbefore, hall⟩ := standsAt_append.mp hstands
  have hfirst := hw w List.mem_cons_self
  have htokens : Tokens none input .word IsWord := tokens_word
  have hgap := within_ocms none hfirst.before hbefore
    (htokens.not_comment hfirst.token (standsAt_append.mp (standsAt_append.mp hall).1).1)
  have hread := exists_addrSpec hw hh hhs hall (hsize ▸ Ends.of_size input)
  rw [hsize] at hread
  rcases hread with ⟨hflush, hspec⟩ | ⟨hflush, i, j, hspec, hocms, hread⟩
  · exact ⟨false, _, .of_body (b := false) (.attempt_miss (.andThen (.apply (hgap.mono (by omega)))
      (.andThen_miss (.apply hspec)))), ⟨nofun, fun h => absurd h.1 hflush⟩, nofun⟩
  · rcases hread with ⟨hflush', rfl⟩ | ⟨hflush', hdot⟩
    · exact ⟨true, _, .of_body (b := true) (.attempt (.andThen (.apply (hgap.mono (by omega)))
        (.andThen (.apply hspec) (.andThen (.apply (hocms.mono (by omega))) matches_atEnd)))),
        ⟨fun _ => ⟨hflush, hflush'⟩, fun _ => rfl⟩, fun _ => rfl⟩
    · have hmore : (atEnd : Expr Rule).Matches input ((grammar none).MatchesWithin input (n + 8)) j
          false j := .notAhead (.byte (classAt_all (lt_of_byteAt?_eq_some hdot)))
      exact ⟨false, _, .of_body (b := false) (.attempt_miss (.andThen (.apply (hgap.mono (by omega)))
        (.andThen (.apply hspec) (.andThen (.apply (hocms.mono (by omega))) hmore)))),
        ⟨nofun, fun h => absurd h.2 hflush'⟩, nofun⟩

end Whole

end AddressGrammar.Legacy
