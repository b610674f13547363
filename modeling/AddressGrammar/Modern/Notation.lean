import AddressGrammar.Modern.Rule
import AddressGrammar.Notation.Production

/-!
# The productions of the modern address grammar

## Main definitions

* `Modern.Rule.production` — the definition of each rule
-/

namespace AddressGrammar.Modern

open Notation Notation.Production

namespace Rule

/-- A rule or nothing. -/
private def maybe (r : Rule) : Production Rule := optional (rule r)

/-- Text as a production. -/
private def quote (s : String) : Production Rule := terminal (.text s)

/-- A byte by its code. -/
private def code (b : UInt8) : Production Rule := terminal (.code b)

/-- A range of bytes by their codes. -/
private def codes (lo hi : UInt8) : Production Rule := terminal (.codes lo hi)

/-- A list with elements left out: elements, each before a comma, and perhaps one behind the
last. -/
private def sparseList : Production Rule :=
  seqs (plus (seqs (maybe address) [maybe cfws, quote ",", maybe cfws])) [maybe address]

/-- What a domain policy is asked about, or a literal, which it is not. -/
private def domainForms : Production Rule :=
  alts (validDomain (rule dotAtom)) [rule domainLiteral, validDomain (rule obsDomain)]

/-- The definition of a rule. -/
def production : Rule → Production Rule
  | wsp => alts (quote " ") [code 9]
  | lf => terminal (.slashed (.hexUpper 0x0A))
  | cr => terminal (.slashed (.hexUpper 0x0D))
  | crlf => seqs (rule cr) [rule lf]
  | alpha =>
    terminal (.oneOf false [.range (.char 'A') (.char 'Z'), .range (.char 'a') (.char 'z')])
  | digit => terminal (.oneOf false [.range (.char '0') (.char '9')])
  | noWsCtl => alts (codes 1 8) [code 11, code 12, codes 14 31, code 127]
  | text => alts (codes 1 9) [code 11, code 12, codes 14 127, rule obsText]
  | quotedPair => alts (seqs (quote "\\") [rule text]) [rule obsQp]
  | fws =>
    alts (seqs (optional (seqs (star (rule wsp)) [rule crlf])) [plus (rule wsp)]) [rule obsFws]
  | ctext => alts (rule noWsCtl) [codes 33 39, codes 42 91, codes 93 126]
  | ccontent => alts (rule ctext) [rule quotedPair, rule comment]
  | comment =>
    seqs (quote "(") [star (seqs (maybe fws) [rule ccontent]), maybe fws, quote ")"]
  | cfws =>
    seqs (star (seqs (maybe fws) [rule comment]))
      [alts (seqs (maybe fws) [rule comment]) [rule fws]]
  | atext =>
    alts (rule alpha) (rule digit :: ["!", "#", "$", "%", "&", "'", "*", "+", "-", "/", "=", "?",
      "^", "_", "`", "\x7b", "|", "\x7d", "~"].map quote)
  | atom => seqs (maybe cfws) [plus (rule atext), maybe cfws]
  | dotAtom => seqs (maybe cfws) [rule dotAtomText, maybe cfws]
  | dotAtomText => seqs (plus (rule atext)) [star (seqs (quote ".") [plus (rule atext)])]
  | qtext => alts (rule noWsCtl) [code 33, codes 35 91, codes 93 126]
  | qcontent => alts (rule qtext) [rule quotedPair]
  | quotedString =>
    seqs (maybe cfws)
      [quote "\"", star (seqs (maybe fws) [rule qcontent]), maybe fws, quote "\"", maybe cfws]
  | word => alts (rule atom) [rule quotedString]
  | phrase => alts (plus (rule word)) [rule obsPhrase]
  | utext => alts (rule noWsCtl) [codes 33 126, rule obsUtext]
  | unstructured => seqs (star (seqs (maybe fws) [rule utext])) [maybe fws]
  | address => alts (rule mailbox) [rule group]
  | mailbox => alts (rule nameAddr) [rule addrSpec]
  | nameAddr => seqs (maybe displayName) [rule angleAddr]
  | angleAddr =>
    alts (seqs (maybe cfws) [quote "<", rule addrSpec, quote ">", maybe cfws]) [rule obsAngleAddr]
  | group =>
    seqs (rule displayName)
      [quote ":", optional (alts (rule mailboxList) [rule cfws]), quote ";", maybe cfws]
  | displayName => rule phrase
  | mailboxList =>
    alts (seqs (rule mailbox) [star (seqs (quote ",") [rule mailbox])]) [rule obsMboxList]
  | addressList =>
    alts (seqs (rule address) [star (seqs (quote ",") [rule address])]) [rule obsAddrList]
  | addrSpec => seqs (rule localPart) [quote "@", rule domain]
  | localPart => alts (rule dotAtom) [rule quotedString, rule obsLocalPart]
  | domain => domainForms
  | domainLiteral =>
    seqs (maybe cfws)
      [quote "[", star (seqs (maybe fws) [rule dcontent]), maybe fws, quote "]", maybe cfws]
  | dcontent => alts (rule dtext) [rule quotedPair]
  | dtext => alts (rule noWsCtl) [codes 33 90, codes 94 126]
  | obsQp => seqs (quote "\\") [codes 0 127]
  | obsText =>
    seqs (star (rule lf))
      [star (rule cr), star (seqs (rule obsChar) [star (rule lf), star (rule cr)])]
  | obsChar => alts (codes 0 9) [code 11, code 12, codes 14 127]
  | obsUtext => rule obsText
  | obsPhrase => seqs (rule word) [star (alts (rule word) [quote ".", rule cfws])]
  | obsPhraseList =>
    alts (rule phrase)
      [seqs (plus (seqs (maybe phrase) [maybe cfws, quote ",", maybe cfws])) [maybe phrase]]
  | obsFws => seqs (plus (rule wsp)) [star (seqs (rule crlf) [plus (rule wsp)])]
  | obsAngleAddr =>
    seqs (maybe cfws) [quote "<", maybe obsRoute, rule addrSpec, quote ">", maybe cfws]
  | obsRoute => seqs (maybe cfws) [rule obsDomainList, quote ":", maybe cfws]
  | obsDomainList =>
    seqs (quote "@") [rule domain,
      star (seqs (star (alts (rule cfws) [quote ","])) [maybe cfws, quote "@", rule domain])]
  | obsLocalPart => seqs (rule word) [star (seqs (quote ".") [rule word])]
  | obsDomain => seqs (rule atom) [star (seqs (quote ".") [rule atom])]
  | obsMboxList => sparseList
  | obsAddrList => sparseList
  | root => seqs (rule address) [eof]
  | onlyAddrSpec => seqs (rule addrSpec) [eof]
  | onlyAddressList => alts (seqs (rule addressList) [eof]) [seqs (rule obsAddrList) [eof]]

end Rule

end AddressGrammar.Modern
