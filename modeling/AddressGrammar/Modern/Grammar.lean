import AddressGrammar.Modern.Notation
import AddressGrammar.Peg.Grammar

/-!
# The modern address grammar

The parsing expressions of the modern rules. Alternatives are tried in the order in which they are
written and repetitions take all they can get, so comments and white space before an element are
never given back to a later one. A list of addresses matches its plain form as soon as there is one
address; lists with elements left out match through the obsolete form only.

A domain is its dotted form, a literal or its obsolete form. With a policy on domains, the text of
the dotted and of the obsolete form must satisfy it; a literal is never asked about.

## Main definitions

* `Modern.body` — the parsing expression of each rule
* `Modern.grammar` — the grammar, with or without a policy on domains
* `Modern.title` — the text of the grammar
-/

namespace AddressGrammar.Modern

open Text Peg Peg.Expr Rule

/-- Control characters other than white space and line ends. -/
def controlBytes : ByteClass := ⟨[(1, 8), (11, 11), (12, 12), (14, 31), (127, 127)]⟩

/-- The characters of an atom other than letters and digits. -/
def atomMarks : ByteClass := ByteClass.ofText "!#$%&'*+-/=?^_`\x7b|\x7d~"

/-- White space between other elements, if there is any. -/
def optFws : Expr Rule := opt (apply fws)

/-- Comments and white space, if there are any. -/
def optCfws : Expr Rule := opt (apply cfws)

/-- One form of a domain, under the policy if there is one. -/
def domainForm (policy : Option Policy) (form : Rule) : Expr Rule :=
  match policy with
  | some p => check (apply form) p
  | none => apply form

/-- A list with elements left out: addresses, each before a comma, and perhaps one behind the
last. -/
def sparseList : Expr Rule :=
  seq [many1 (chain [opt (apply address), optCfws, token ',', optCfws]), opt (apply address)]

/-- The parsing expression of a rule. -/
def body (policy : Option Policy) : Rule → Expr Rule
  | wsp => alt [token ' ', token '\t']
  | lf => token '\n'
  | cr => token '\r'
  | crlf => seq [apply cr, apply lf]
  | alpha => byte ⟨[(65, 90), (97, 122)]⟩
  | digit => byte (.range 48 57)
  | noWsCtl => byte controlBytes
  | text => alt [byte ⟨[(1, 9), (11, 11), (12, 12), (14, 127)]⟩, apply obsText]
  | quotedPair => alt [seq [token '\\', apply text], apply obsQp]
  | fws =>
    alt [seq [opt (chain [many (apply wsp), apply crlf]), many1 (apply wsp)], apply obsFws]
  | ctext => alt [apply noWsCtl, byte ⟨[(33, 39), (42, 91), (93, 126)]⟩]
  | ccontent => choice [ctext, quotedPair, comment]
  | comment => seq [token '(', many (chain [optFws, apply ccontent]), optFws, token ')']
  | cfws =>
    seq [many (chain [optFws, apply comment]), alt [seq [optFws, apply comment], apply fws]]
  | atext => alt [apply alpha, apply digit, byte atomMarks]
  | atom => seq [optCfws, many1 (apply atext), optCfws]
  | dotAtom => seq [optCfws, apply dotAtomText, optCfws]
  | dotAtomText => seq [many1 (apply atext), many (chain [token '.', many1 (apply atext)])]
  | qtext => alt [apply noWsCtl, byte ⟨[(33, 33), (35, 91), (93, 126)]⟩]
  | qcontent => choice [qtext, quotedPair]
  | quotedString =>
    seq [optCfws, token '"', many (chain [optFws, apply qcontent]), optFws, token '"', optCfws]
  | word => choice [atom, quotedString]
  | phrase => alt [many1 (apply word), apply obsPhrase]
  | utext => alt [apply noWsCtl, byte (.range 33 126), apply obsUtext]
  | unstructured => seq [many (chain [optFws, apply utext]), optFws]
  | address => choice [mailbox, group]
  | mailbox => choice [nameAddr, addrSpec]
  | nameAddr => seq [opt (apply displayName), apply angleAddr]
  | angleAddr =>
    alt [seq [optCfws, token '<', apply addrSpec, token '>', optCfws], apply obsAngleAddr]
  | group =>
    seq [apply displayName, token ':', opt (alt [apply mailboxList, apply cfws]), token ';',
      optCfws]
  | displayName => apply phrase
  | mailboxList =>
    alt [seq [apply mailbox, many (chain [token ',', apply mailbox])], apply obsMboxList]
  | addressList =>
    alt [seq [apply address, many (chain [token ',', apply address])], apply obsAddrList]
  | addrSpec => seq [apply localPart, token '@', apply domain]
  | localPart => choice [dotAtom, quotedString, obsLocalPart]
  | domain => alt [domainForm policy dotAtom, apply domainLiteral, domainForm policy obsDomain]
  | domainLiteral =>
    seq [optCfws, token '[', many (chain [optFws, apply dcontent]), optFws, token ']', optCfws]
  | dcontent => choice [dtext, quotedPair]
  | dtext => alt [apply noWsCtl, byte ⟨[(33, 90), (94, 126)]⟩]
  | obsQp => seq [token '\\', byte (.range 0 127)]
  | obsText =>
    seq [many (apply lf), many (apply cr),
      many (chain [apply obsChar, many (apply lf), many (apply cr)])]
  | obsChar => byte ⟨[(0, 9), (11, 11), (12, 12), (14, 127)]⟩
  | obsUtext => apply obsText
  | obsPhrase => seq [apply word, many (alt [apply word, token '.', apply cfws])]
  | obsPhraseList =>
    alt [apply phrase,
      seq [many1 (chain [opt (apply phrase), optCfws, token ',', optCfws]), opt (apply phrase)]]
  | obsFws => seq [many1 (apply wsp), many (chain [apply crlf, many1 (apply wsp)])]
  | obsAngleAddr =>
    seq [optCfws, token '<', opt (apply obsRoute), apply addrSpec, token '>', optCfws]
  | obsRoute => seq [optCfws, apply obsDomainList, token ':', optCfws]
  | obsDomainList =>
    seq [token '@', apply domain,
      many (chain [many (alt [apply cfws, token ',']), optCfws, token '@', apply domain])]
  | obsLocalPart => seq [apply word, many (chain [token '.', apply word])]
  | obsDomain => seq [apply atom, many (chain [token '.', apply atom])]
  | obsMboxList => sparseList
  | obsAddrList => sparseList
  | root => seq [apply address, atEnd]
  | onlyAddrSpec => seq [apply addrSpec, atEnd]
  | onlyAddressList => alt [seq [apply addressList, atEnd], seq [apply obsAddrList, atEnd]]

/-- The modern address grammar, with a policy on domains if one is given. -/
def grammar (policy : Option Policy) : Grammar Rule where
  rules := Rule.all
  root := root
  name := Rule.name
  label := Rule.label
  production r := r.production.render Rule.name
  body := body policy
  mem_rules := Rule.mem_all

/-- The text of the grammar, for people. -/
def title (policy : Option Policy) : String :=
  "Rfc2822 \x7b validates_domains: " ++ toString policy.isSome ++ " \x7d"

end AddressGrammar.Modern
