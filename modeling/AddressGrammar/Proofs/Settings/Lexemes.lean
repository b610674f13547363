import AddressGrammar.Settings.Token
import Mathlib.Data.List.Chain

/-!
# How tokens are spelled and laid out

What the tokenizer reads, said without it. A token other than a string or a number has one spelling.
A string is spelled piece by piece, each character as itself, by a short escape or by a code; a
number has a whole part without a leading zero and perhaps a sign, a fraction and an exponent. A text
is laid out of lexemes in their order with blanks anywhere between them.

Numbers are the only tokens that do not say where they end. Two of them side by side would run
together, so a layout determines its tokens if no number stands next to another one. That is never
the case in JSON.

## Main definitions

* `Token.Spelled`, `Lexeme` — the spellings of a token, and a token with one of them
* `Laid` — the texts that are laid out of lexemes
* `Parted` — no number stands next to another one

## Main results

* `exists_lexeme_of_token?`, `Lexeme.token?_append` — reading one token
* `exists_laid_of_tokens?`, `Laid.tokens?_eq` — reading all of them
-/

namespace AddressGrammar.Settings

/-! ### Spellings -/

/-- The characters of a piece of a string. -/
inductive StringPiece.Spelled : StringPiece → List Char → Prop where
  | plain {c} (hc : 0x20 ≤ c.toNat) (hquote : c ≠ '"') (hback : c ≠ '\\') : Spelled (.char c) [c]
  | short {e c} (h : shortEscape? e = some c) : Spelled (.char c) ['\\', e]
  | coded {a b c d n} (h : hexValue? a b c d = some n) : Spelled (.unit n) ['\\', 'u', a, b, c, d]

/-- The characters of the inside of a string. -/
inductive Inside : List StringPiece → List Char → Prop where
  | nil : Inside [] []
  | cons {p ps cs ds} (hp : p.Spelled cs) (hps : Inside ps ds) : Inside (p :: ps) (cs ++ ds)

/-- Digits, at least one. -/
structure IsDigits (cs : List Char) : Prop where
  ne_nil : cs ≠ []
  isDigit : ∀ c ∈ cs, c.isDigit = true

/-- The whole part of a number. Only a single zero begins with a zero. -/
structure IsWhole (cs : List Char) : Prop extends IsDigits cs where
  length_eq : cs.head? = some '0' → cs.length = 1

/-- The fraction of a number, if there is one. -/
inductive Fraction : Bool → List Char → Prop where
  | absent : Fraction false []
  | present {ds} (h : IsDigits ds) : Fraction true ('.' :: ds)

/-- The exponent of a number, if there is one. -/
inductive Exponent : Bool → List Char → Prop where
  | absent : Exponent false []
  | present {e sign ds} (he : e = 'e' ∨ e = 'E') (hsign : sign = [] ∨ sign = ['+'] ∨ sign = ['-'])
      (h : IsDigits ds) : Exponent true (e :: (sign ++ ds))

/-- A number without its sign. It has a value if it is its whole part. -/
inductive Unsigned : Option Nat → List Char → Prop where
  | parts {whole fraction exponent hasFraction hasExponent} (hw : IsWhole whole)
      (hf : Fraction hasFraction fraction) (he : Exponent hasExponent exponent) :
      Unsigned (if hasFraction || hasExponent then none else some (digitsValue whole))
        (whole ++ (fraction ++ exponent))

/-- The characters of a token that has one spelling. -/
def Token.fixedText? : Token → Option (List Char)
  | openBrace => some ['\x7b']
  | closeBrace => some ['\x7d']
  | openBracket => some ['[']
  | closeBracket => some [']']
  | colon => some [':']
  | comma => some [',']
  | null => some ['n', 'u', 'l', 'l']
  | true => some ['t', 'r', 'u', 'e']
  | false => some ['f', 'a', 'l', 's', 'e']
  | string _ => none
  | number _ => none

/-- The characters of a token. -/
inductive Token.Spelled : Token → List Char → Prop where
  | fixed {t cs} (h : t.fixedText? = some cs) : Spelled t cs
  | string {ps cs} (h : Inside ps cs) :
      Spelled (.string ((joinPieces ps).map String.ofList)) ('"' :: (cs ++ ['"']))
  | unsigned {v cs} (h : Unsigned v cs) : Spelled (.number v) cs
  | negative {v cs} (h : Unsigned v cs) : Spelled (.number none) ('-' :: cs)

/-- A token and the characters that spell it in a text. -/
structure Lexeme where
  /-- The token. -/
  token : Token
  /-- Its characters. -/
  chars : List Char
  /-- They spell it. -/
  spelled : token.Spelled chars

/-! ### Strings -/

theorem exists_inside_of_stringPieces? {cs rest : List Char} {ps : List StringPiece}
    (h : stringPieces? cs = some (ps, rest)) : ∃ ds, Inside ps ds ∧ cs = ds ++ '"' :: rest := by
  fun_induction stringPieces? cs generalizing ps rest with
  | case1 => simp at h
  | case2 cs =>
    obtain ⟨rfl, rfl⟩ := by simpa using h
    exact ⟨[], .nil, rfl⟩
  | case3 a b c d cs n ps' cs' hps hn ih =>
    obtain ⟨rfl, rfl⟩ := by simpa using h
    obtain ⟨ds, hds, rfl⟩ := ih hps
    exact ⟨_, .cons (.coded hn) hds, rfl⟩
  | case4 => simp at h
  | case5 e cs _ c ps' cs' hps hc ih =>
    obtain ⟨rfl, rfl⟩ := by simpa using h
    obtain ⟨ds, hds, rfl⟩ := ih hps
    exact ⟨_, .cons (.short hc) hds, rfl⟩
  | case6 => simp at h
  | case7 => simp at h
  | case8 c cs hquote _ _ hc ps' cs' hps ih =>
    obtain ⟨rfl, rfl⟩ := by simpa using h
    obtain ⟨ds, hds, rfl⟩ := ih hps
    simp only [Bool.or_eq_true, decide_eq_true_eq, not_or, Nat.not_lt] at hc
    exact ⟨_, .cons (.plain hc.1 (fun hq => hquote hq) hc.2) hds, rfl⟩
  | case9 => simp at h

theorem Inside.stringPieces?_append {ps : List StringPiece} {cs : List Char} (h : Inside ps cs)
    (rest : List Char) : stringPieces? (cs ++ '"' :: rest) = some (ps, rest) := by
  induction h with
  | nil => simp [stringPieces?]
  | @cons p ps cs ds hp hps ih =>
    rw [List.append_assoc]
    cases hp with
    | plain hc hquote hback => simp [stringPieces?, hback, ih, Nat.not_lt.mpr hc]
    | @short e c h =>
      have hu : e ≠ 'u' := by rintro rfl; simp [shortEscape?] at h
      simp [stringPieces?, hu, h, ih]
    | coded h => simp [stringPieces?, h, ih]

/-! ### Numbers -/

/-- Nothing of a number follows. -/
def EndsNumber (cs : List Char) : Prop :=
  ∀ c ∈ cs.head?, c.isDigit = false ∧ c ≠ '.' ∧ c ≠ 'e' ∧ c ≠ 'E'

theorem isDigits_of_digits? {cs ds rest : List Char} (h : digits? cs = some (ds, rest)) :
    IsDigits ds ∧ cs = ds ++ rest := by
  unfold digits? at h
  split at h
  · simp at h
  · next hne =>
    obtain ⟨rfl, rfl⟩ := by simpa using h
    exact ⟨⟨hne, List.all_eq_true.mp List.all_takeWhile⟩, List.takeWhile_append_dropWhile.symm⟩

theorem IsDigits.digits?_append {ds rest : List Char} (h : IsDigits ds)
    (hrest : ∀ c ∈ rest.head?, c.isDigit = false) : digits? (ds ++ rest) = some (ds, rest) := by
  have htake : rest.takeWhile Char.isDigit = [] ∧ rest.dropWhile Char.isDigit = rest := by
    cases rest with
    | nil => simp
    | cons c cs => simp [hrest c rfl]
  have hall : (ds ++ rest).takeWhile Char.isDigit = ds := by
    rw [List.takeWhile_append_of_pos h.isDigit, htake.1, List.append_nil]
  unfold digits?
  rw [hall, List.dropWhile_append_of_pos h.isDigit, htake.2]
  cases ds with
  | nil => exact absurd rfl h.ne_nil
  | cons => rfl

theorem exists_fraction_of_fraction? {cs rest : List Char} {b : Bool}
    (h : fraction? cs = some (b, rest)) : ∃ ds, Fraction b ds ∧ cs = ds ++ rest := by
  unfold fraction? at h
  split at h
  · next cs =>
    obtain ⟨⟨ds, rest'⟩, hds, heq⟩ := Option.map_eq_some_iff.mp h
    obtain ⟨rfl, rfl⟩ := by simpa using heq
    obtain ⟨hdigits, rfl⟩ := isDigits_of_digits? hds
    exact ⟨_, .present hdigits, rfl⟩
  · obtain ⟨rfl, rfl⟩ := by simpa using h
    exact ⟨[], .absent, rfl⟩

theorem Fraction.fraction?_append {ds rest : List Char} {b : Bool} (h : Fraction b ds)
    (hrest : ∀ c ∈ rest.head?, c.isDigit = false ∧ c ≠ '.') :
    fraction? (ds ++ rest) = some (b, rest) := by
  cases h with
  | absent =>
    cases rest with
    | nil => rfl
    | cons c cs => simp [fraction?, (hrest c rfl).2]
  | present h => simp [fraction?, h.digits?_append fun c hc => (hrest c hc).1]

theorem exists_exponent_of_exponent? {cs rest : List Char} {b : Bool}
    (h : exponent? cs = some (b, rest)) : ∃ ds, Exponent b ds ∧ cs = ds ++ rest := by
  have hsign : ∀ cs, ∃ sign, (sign = [] ∨ sign = ['+'] ∨ sign = ['-']) ∧ cs = sign ++ dropSign cs := by
    intro cs
    unfold dropSign
    split <;> simp
  have hpresent : ∀ e cs, (e = 'e' ∨ e = 'E') →
      (digits? (dropSign cs)).map (fun d => (true, d.2)) = some (b, rest) →
      ∃ ds, Exponent b ds ∧ e :: cs = ds ++ rest := by
    intro e cs he h
    obtain ⟨⟨ds, rest'⟩, hds, heq⟩ := Option.map_eq_some_iff.mp h
    obtain ⟨rfl, rfl⟩ := by simpa using heq
    obtain ⟨sign, hs, hcs⟩ := hsign cs
    obtain ⟨hdigits, hrest⟩ := isDigits_of_digits? hds
    refine ⟨_, .present he hs hdigits, ?_⟩
    rw [hcs, hrest]
    simp
  unfold exponent? at h
  split at h
  · exact hpresent _ _ (.inl rfl) h
  · exact hpresent _ _ (.inr rfl) h
  · obtain ⟨rfl, rfl⟩ := by simpa using h
    exact ⟨[], .absent, rfl⟩

theorem Exponent.exponent?_append {ds rest : List Char} {b : Bool} (h : Exponent b ds)
    (hrest : EndsNumber rest) : exponent? (ds ++ rest) = some (b, rest) := by
  cases h with
  | absent =>
    cases rest with
    | nil => rfl
    | cons c cs =>
      obtain ⟨-, -, he, hE⟩ := hrest c rfl
      simp [exponent?, he, hE]
  | @present e sign ds he hsign h =>
    have hdigits := h.digits?_append fun c hc => (hrest c hc).1
    have hdrop : dropSign (sign ++ (ds ++ rest)) = ds ++ rest := by
      rcases hsign with rfl | rfl | rfl
      · obtain ⟨d, ds, rfl⟩ := List.exists_cons_of_ne_nil h.ne_nil
        have hd := h.isDigit d (List.mem_cons_self ..)
        have hplus : d ≠ '+' := by rintro rfl; simp at hd
        have hminus : d ≠ '-' := by rintro rfl; simp at hd
        simp [dropSign, hplus, hminus]
      · rfl
      · rfl
    rcases he with rfl | rfl <;> simp [exponent?, hdrop, hdigits]

theorem exists_unsigned_of_number? {cs rest : List Char} {v : Option Nat}
    (h : number? cs = some (v, rest)) : ∃ ds, Unsigned v ds ∧ cs = ds ++ rest := by
  unfold number? at h
  split at h
  · simp at h
  · next whole rest₁ hwhole =>
    split at h
    · simp at h
    · next hlead =>
      split at h
      · simp at h
      · next hasFraction rest₂ hfraction =>
        split at h
        · simp at h
        · next hasExponent rest₃ hexponent =>
          cases h
          obtain ⟨hdigits, rfl⟩ := isDigits_of_digits? hwhole
          obtain ⟨fraction, hf, rfl⟩ := exists_fraction_of_fraction? hfraction
          obtain ⟨exponent, he, rfl⟩ := exists_exponent_of_exponent? hexponent
          refine ⟨_, .parts ⟨hdigits, fun hzero => ?_⟩ hf he, by simp⟩
          simpa [hzero] using hlead

theorem Unsigned.number?_append {cs rest : List Char} {v : Option Nat} (h : Unsigned v cs)
    (hrest : EndsNumber rest) : number? (cs ++ rest) = some (v, rest) := by
  cases h with
  | @parts whole fraction exponent hasFraction hasExponent hw hf he =>
    have hbehind : ∀ c ∈ (exponent ++ rest).head?, c.isDigit = false ∧ c ≠ '.' := by
      cases he with
      | absent => exact fun c hc => ⟨(hrest c hc).1, (hrest c hc).2.1⟩
      | present he => rcases he with rfl | rfl <;> simp
    have hfraction := hf.fraction?_append hbehind
    have hwhole : ∀ c ∈ (fraction ++ (exponent ++ rest)).head?, c.isDigit = false := by
      cases hf with
      | absent => exact fun c hc => (hbehind c hc).1
      | present => simp
    have hlead : (decide (whole.head? = some '0') && whole.length != 1) = false := by
      by_cases hzero : whole.head? = some '0'
      · simp [hw.length_eq hzero]
      · simp [hzero]
    rw [List.append_assoc, List.append_assoc, number?, hw.digits?_append hwhole]
    simp [hlead, hfraction, he.exponent?_append hrest]

/-! ### Tokens -/

/-- The token is a number. -/
def Token.isNumber : Token → Bool
  | number _ => Bool.true
  | _ => Bool.false

/-- **What is read as a token spells it.** -/
theorem exists_lexeme_of_token? {cs rest : List Char} {t : Token}
    (h : token? cs = some (t, rest)) : ∃ l : Lexeme, l.token = t ∧ cs = l.chars ++ rest := by
  have hfixed : ∀ {t' : Token} {ds tail : List Char}, t'.fixedText? = some ds →
      some (t', tail) = some (t, rest) → ∃ l : Lexeme, l.token = t ∧ ds ++ tail = l.chars ++ rest := by
    intro t' ds tail hds heq
    obtain ⟨rfl, rfl⟩ := by simpa using heq
    exact ⟨⟨t', ds, .fixed hds⟩, rfl, rfl⟩
  unfold token? at h
  split at h
  case h_1 | h_2 | h_3 | h_4 | h_5 | h_6 | h_7 | h_8 | h_9 => exact hfixed rfl h
  · obtain ⟨⟨ps, tail⟩, hps, heq⟩ := Option.map_eq_some_iff.mp h
    obtain ⟨rfl, rfl⟩ := by simpa using heq
    obtain ⟨ds, hds, rfl⟩ := exists_inside_of_stringPieces? hps
    exact ⟨⟨_, _, .string hds⟩, rfl, by simp⟩
  · obtain ⟨⟨v, tail⟩, hv, heq⟩ := Option.map_eq_some_iff.mp h
    obtain ⟨rfl, rfl⟩ := by simpa using heq
    obtain ⟨ds, hds, rfl⟩ := exists_unsigned_of_number? hv
    exact ⟨⟨_, _, .negative hds⟩, rfl, rfl⟩
  · obtain ⟨⟨v, tail⟩, hv, heq⟩ := Option.map_eq_some_iff.mp h
    obtain ⟨rfl, rfl⟩ := by simpa using heq
    obtain ⟨ds, hds, rfl⟩ := exists_unsigned_of_number? hv
    exact ⟨⟨_, _, .unsigned hds⟩, rfl, rfl⟩

/-- A number begins with a digit. -/
theorem Unsigned.exists_digit {v : Option Nat} {cs : List Char} (h : Unsigned v cs) :
    ∃ c ds, cs = c :: ds ∧ c.isDigit = true := by
  cases h with
  | @parts whole _ _ _ _ hw =>
    obtain ⟨c, ds, rfl⟩ := List.exists_cons_of_ne_nil hw.ne_nil
    exact ⟨c, _, rfl, hw.isDigit c (List.mem_cons_self ..)⟩

/-- **Reading a lexeme.** Behind a number nothing may follow that would belong to it. -/
theorem Lexeme.token?_append (l : Lexeme) {rest : List Char}
    (hrest : l.token.isNumber = true → EndsNumber rest) :
    token? (l.chars ++ rest) = some (l.token, rest) := by
  obtain ⟨t, cs, hspelled⟩ := l
  cases hspelled with
  | fixed h =>
    cases t with
    | string | number => simp [Token.fixedText?] at h
    | _ =>
      obtain rfl := by simpa [Token.fixedText?] using h
      rfl
  | string h => simp [token?, h.stringPieces?_append]
  | unsigned h =>
    have hnumber := h.number?_append (hrest rfl)
    obtain ⟨c, ds, rfl, hc⟩ := h.exists_digit
    -- A digit begins none of the other tokens.
    have hlast : token? (c :: (ds ++ rest)) =
        (number? (c :: (ds ++ rest))).map fun d => (.number d.1, d.2) := by
      unfold token?
      split <;> simp_all
    rw [List.cons_append] at hnumber ⊢
    rw [hlast, hnumber]
    rfl
  | negative h => simp [token?, h.number?_append (hrest rfl)]

/-- A lexeme begins with a character that is no blank, and with none that would belong to a number
in front of it unless it is a number itself. -/
theorem Lexeme.exists_head (l : Lexeme) : ∃ c cs, l.chars = c :: cs ∧ isBlank c = false ∧
    (l.token.isNumber = false → c.isDigit = false ∧ c ≠ '.' ∧ c ≠ 'e' ∧ c ≠ 'E') := by
  obtain ⟨t, cs, hspelled⟩ := l
  cases hspelled with
  | fixed h =>
    cases t with
    | string | number => simp [Token.fixedText?] at h
    | _ =>
      obtain rfl := by simpa [Token.fixedText?] using h
      exact ⟨_, _, rfl, by decide, fun _ => by decide⟩
  | string h => exact ⟨_, _, rfl, by decide, fun _ => by decide⟩
  | unsigned h =>
    obtain ⟨c, ds, rfl, hc⟩ := h.exists_digit
    refine ⟨c, ds, rfl, ?_, nofun⟩
    by_contra hblank
    simp only [isBlank, Bool.or_eq_true, decide_eq_true_eq, Bool.not_eq_false] at hblank
    obtain ((rfl | rfl) | rfl) | rfl := hblank <;> simp at hc
  | negative h => exact ⟨_, _, rfl, by decide, nofun⟩

/-! ### Layouts -/

/-- The text is laid out of the lexemes: they stand in it in their order, with blanks anywhere
between them, in front of the first and behind the last. -/
inductive Laid : List Lexeme → List Char → Prop where
  | nil : Laid [] []
  | blank {ls c cs} (hc : isBlank c = true) (h : Laid ls cs) : Laid ls (c :: cs)
  | lexeme {l ls cs} (h : Laid ls cs) : Laid (l :: ls) (l.chars ++ cs)

/-- No number stands next to another one. -/
def Parted (ts : List Token) : Prop :=
  ts.IsChain fun t u => ¬(t.isNumber = true ∧ u.isNumber = true)

/-- Lexemes may be laid out without blanks. -/
theorem laid_flatMap (ls : List Lexeme) : Laid ls (ls.flatMap Lexeme.chars) := by
  induction ls with
  | nil => exact .nil
  | cons l ls ih => exact .lexeme ih

/-- The first character that is no blank is the one that the first lexeme begins with. -/
theorem Laid.find?_eq {l : Lexeme} {ls : List Lexeme} {cs : List Char} (h : Laid (l :: ls) cs) :
    cs.find? (fun c => !isBlank c) = l.chars.head? := by
  obtain ⟨lexemes, hlexemes⟩ : ∃ lexemes, l :: ls = lexemes := ⟨_, rfl⟩
  rw [hlexemes] at h
  induction h with
  | nil => cases hlexemes
  | blank hc _ ih => rw [List.find?_cons_of_neg (by simp [hc]), ih hlexemes]
  | lexeme _ _ =>
    cases hlexemes
    obtain ⟨c, cs, hchars, hblank, -⟩ := l.exists_head
    rw [hchars, List.cons_append, List.find?_cons_of_pos (by simp [hblank]), List.head?_cons]

/-- Behind a number, a layout goes on with something else. -/
theorem Laid.endsNumber {ls : List Lexeme} {cs : List Char} (h : Laid ls cs)
    (hls : ∀ l ∈ ls.head?, l.token.isNumber = false) : EndsNumber cs := by
  cases h with
  | nil => exact fun _ hc => by simp at hc
  | @blank _ c cs hc _ =>
    intro d hd
    obtain rfl : c = d := by simpa using hd
    simp only [isBlank, Bool.or_eq_true, decide_eq_true_eq] at hc
    obtain ((rfl | rfl) | rfl) | rfl := hc <;> decide
  | @lexeme l _ _ _ =>
    obtain ⟨c, ds, hchars, -, hhead⟩ := l.exists_head
    intro d hd
    obtain rfl : c = d := by simpa [hchars] using hd
    exact hhead (hls l rfl)

/-- **Reading all tokens of a layout.** -/
theorem Laid.tokensWithin_eq {ls : List Lexeme} {cs : List Char} (h : Laid ls cs)
    (hparted : Parted (ls.map Lexeme.token)) {n : Nat} (hn : cs.length ≤ n) :
    tokensWithin n cs = some (ls.map Lexeme.token) := by
  induction h generalizing n with
  | nil => cases n <;> rfl
  | @blank ls c cs hc _ ih =>
    obtain ⟨n, rfl⟩ := Nat.exists_eq_succ_of_ne_zero (Nat.ne_zero_of_lt hn)
    simp [tokensWithin, hc, ih hparted (Nat.le_of_succ_le_succ hn)]
  | @lexeme l ls cs h ih =>
    rw [List.map_cons, Parted, List.isChain_cons] at hparted
    have hread : token? (l.chars ++ cs) = some (l.token, cs) := by
      refine l.token?_append fun hnumber => h.endsNumber fun l' hl' => ?_
      have hhead : l'.token ∈ (ls.map Lexeme.token).head? := by
        rw [List.head?_map]
        exact Option.mem_map_of_mem _ hl'
      simpa [hnumber] using hparted.1 _ hhead
    obtain ⟨c, ds, hchars, hblank, -⟩ := l.exists_head
    rw [hchars] at hn hread ⊢
    obtain ⟨n, rfl⟩ := Nat.exists_eq_succ_of_ne_zero (Nat.ne_zero_of_lt hn)
    have hle : cs.length ≤ n := by simp at hn; omega
    rw [List.cons_append] at hread ⊢
    simp [tokensWithin, hblank, hread, ih hparted.2 hle]

/-- What is read as tokens is laid out of lexemes for them. -/
theorem exists_laid_of_tokensWithin {n : Nat} {cs : List Char} {ts : List Token}
    (h : tokensWithin n cs = some ts) : ∃ ls, ls.map Lexeme.token = ts ∧ Laid ls cs := by
  induction n generalizing cs ts with
  | zero =>
    cases cs with
    | nil => exact ⟨[], by simpa [tokensWithin] using h, .nil⟩
    | cons => simp [tokensWithin] at h
  | succ n ih =>
    cases cs with
    | nil => exact ⟨[], by simpa [tokensWithin] using h, .nil⟩
    | cons c cs =>
      rw [tokensWithin] at h
      split at h
      · next hc =>
        obtain ⟨ls, hls, hlaid⟩ := ih h
        exact ⟨ls, hls, .blank hc hlaid⟩
      · split at h
        · next t rest ht =>
          obtain ⟨ts', hts', rfl⟩ := Option.map_eq_some_iff.mp h
          obtain ⟨ls, rfl, hlaid⟩ := ih hts'
          obtain ⟨l, rfl, hl⟩ := exists_lexeme_of_token? ht
          exact ⟨l :: ls, rfl, hl ▸ .lexeme hlaid⟩
        · simp at h

theorem Laid.tokens?_eq {ls : List Lexeme} {text : String} (h : Laid ls text.toList)
    (hparted : Parted (ls.map Lexeme.token)) : tokens? text = some (ls.map Lexeme.token) :=
  h.tokensWithin_eq hparted (Nat.le_of_eq String.length_toList)

theorem exists_laid_of_tokens? {text : String} {ts : List Token} (h : tokens? text = some ts) :
    ∃ ls, ls.map Lexeme.token = ts ∧ Laid ls text.toList := exists_laid_of_tokensWithin h

end AddressGrammar.Settings
