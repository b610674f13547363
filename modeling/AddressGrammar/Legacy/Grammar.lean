import AddressGrammar.Legacy.Notation
import AddressGrammar.Peg.Grammar

/-!
# The legacy address grammar

The parsing expressions of the legacy rules. Lexical tokens are matched as runs of bytes. Comments
may stand between the tokens of an address, white space only where a rule asks for it. A domain has
at least two parts. With a policy on domains, the text of the whole domain must satisfy it, comments
in it included.

## Main definitions

* `Legacy.body` — the parsing expression of each rule
* `Legacy.grammar` — the grammar, with or without a policy on domains
* `Legacy.title` — the text of the grammar
-/

namespace AddressGrammar.Legacy

open Text Peg Peg.Expr Rule

/-- The bytes that have to be quoted inside a word. -/
def specials : ByteClass := ByteClass.ofText "()<>@,;:\\\".[]"

/-- The bytes of an atom: ASCII without controls, the space and the specials. -/
def atomBytes : ByteClass :=
  ⟨[(33, 33), (35, 39), (42, 43), (45, 45), (47, 57), (61, 61), (63, 63), (65, 90), (94, 126)]⟩

/-- The bytes that stand for themselves in a comment. -/
def commentBytes : ByteClass := ⟨[(0, 12), (14, 39), (42, 91), (93, 127)]⟩

/-- The bytes that stand for themselves in a domain literal. -/
def literalBytes : ByteClass := ⟨[(0, 12), (14, 90), (94, 127)]⟩

/-- The bytes that stand for themselves in a quoted string. -/
def quotedBytes : ByteClass := ⟨[(0, 12), (14, 33), (35, 91), (93, 127)]⟩

/-- A domain without regard to a policy. -/
def domainText : Expr Rule :=
  chain [apply subDomain, apply ocms, many1 (chain [token '.', apply ocms, apply subDomain])]

/-- The parsing expression of a rule. -/
def body (policy : Option Policy) : Rule → Expr Rule
  | htab => token '\t'
  | lf => token '\n'
  | cr => token '\r'
  | space => token ' '
  | spaces => many (apply space)
  | atSign => token '@'
  | lwspChar => choice [space, htab]
  | char => byte .ascii
  | ctl => byte ⟨[(0, 31), (127, 127)]⟩
  | special => byte specials
  | crlf => seq [apply cr, apply lf]
  | linearWhiteSpace => many1 (chain [opt (apply crlf), apply lwspChar])
  | atom => run atomBytes
  | ctext => alt [run commentBytes, apply linearWhiteSpace]
  | dtext => alt [run literalBytes, apply linearWhiteSpace]
  | qtext => alt [run quotedBytes, apply linearWhiteSpace]
  | quotedPair => seq [token '\\', apply char]
  | quotedString =>
    seq [token '"', many (alt [apply qtext, apply quotedPair]), token '"']
  | domainLiteral =>
    seq [token '[', many (alt [apply dtext, apply quotedPair]), token ']']
  | comment => seq [token '(', many (choice [ctext, quotedPair, comment]), token ')']
  | ocms => many (apply comment)
  | word => choice [atom, quotedString]
  | phrase => many1 (chain [apply word, apply spaces])
  | valid => seq [apply ocms, apply address, apply ocms]
  | address => choice [mailbox, group]
  | group =>
    seq [apply phrase, apply ocms, token ':', apply ocms, apply mailbox,
      many (chain [apply ocms, token ',', apply ocms, apply mailbox]), apply ocms, token ';']
  | mailbox =>
    alt [apply addrSpec,
      seq [apply phrase, apply spaces, apply ocms, apply spaces, apply angleAddr]]
  | angleAddr =>
    seq [token '<', apply ocms, opt (apply route), apply ocms, apply addrSpec, token '>']
  | route => seq [many1 (chain [apply atSign, apply ocms, apply domain]), token ':']
  | addrSpec => seq [apply localPart, apply ocms, token '@', apply ocms, apply domain]
  | localPart =>
    seq [apply word, apply ocms, many (chain [token '.', apply ocms, apply word])]
  | domain =>
    match policy with
    | some p => check domainText p
    | none => attempt domainText
  | subDomain => choice [domainRef, domainLiteral]
  | domainRef => apply atom
  | root => seq [apply valid, atEnd]
  | onlyAddrSpec => seq [apply ocms, apply addrSpec, apply ocms, atEnd]

/-- The legacy address grammar, with a policy on domains if one is given. -/
def grammar (policy : Option Policy) : Grammar Rule where
  rules := Rule.all
  root := root
  name := Rule.name
  label := Rule.label
  production r := r.production.render Rule.name
  body := body policy
  mem_rules := Rule.mem_all

/-- The text of the grammar, for people. -/
def title (policy : Option Policy) : String :=
  "Rfc822 \x7b validates_domains: " ++ toString policy.isSome ++ " \x7d"

end AddressGrammar.Legacy
