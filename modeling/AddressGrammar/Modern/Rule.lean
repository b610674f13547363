/-!
# The rules of the modern address grammar

The names are those of RFC 2822, in the order of its sections: core rules, tokens, folding white
space and comments, atoms, quoted strings, phrases, addresses, domains, the obsolete forms that keep
older addresses valid, and three rules for a whole input.

## Main definitions

* `Rule`, `Rule.all` — the rules, and the list of them
* `Rule.name`, `Rule.label` — the name and the identifier of a rule
-/

namespace AddressGrammar.Modern

/-- The rules of the grammar. -/
inductive Rule where
  | wsp | lf | cr | crlf | alpha | digit | noWsCtl | text | quotedPair | fws | ctext | ccontent
  | comment | cfws | atext | atom | dotAtom | dotAtomText | qtext | qcontent | quotedString
  | word | phrase | utext | unstructured | address | mailbox | nameAddr | angleAddr | group
  | displayName | mailboxList | addressList | addrSpec | localPart | domain | domainLiteral
  | dcontent | dtext | obsQp | obsText | obsChar | obsUtext | obsPhrase | obsPhraseList | obsFws
  | obsAngleAddr | obsRoute | obsDomainList | obsLocalPart | obsDomain | obsMboxList
  | obsAddrList | root | onlyAddrSpec | onlyAddressList
  deriving DecidableEq

namespace Rule

/-- Every rule, in the order of declaration. -/
def all : List Rule :=
  [.wsp, .lf, .cr, .crlf, .alpha, .digit, .noWsCtl, .text, .quotedPair, .fws, .ctext, .ccontent,
   .comment, .cfws, .atext, .atom, .dotAtom, .dotAtomText, .qtext, .qcontent, .quotedString,
   .word, .phrase, .utext, .unstructured, .address, .mailbox, .nameAddr, .angleAddr, .group,
   .displayName, .mailboxList, .addressList, .addrSpec, .localPart, .domain, .domainLiteral,
   .dcontent, .dtext, .obsQp, .obsText, .obsChar, .obsUtext, .obsPhrase, .obsPhraseList, .obsFws,
   .obsAngleAddr, .obsRoute, .obsDomainList, .obsLocalPart, .obsDomain, .obsMboxList,
   .obsAddrList, .root, .onlyAddrSpec, .onlyAddressList]

theorem mem_all (r : Rule) : r ∈ all := by
  cases r <;> decide

/-- The name of a rule in the defining document. -/
def name : Rule → String
  | wsp => "WSP"
  | lf => "LF"
  | cr => "CR"
  | crlf => "CRLF"
  | alpha => "ALPHA"
  | digit => "DIGIT"
  | noWsCtl => "NO-WS-CTL"
  | text => "text"
  | quotedPair => "quoted-pair"
  | fws => "FWS"
  | ctext => "ctext"
  | ccontent => "ccontent"
  | comment => "comment"
  | cfws => "CFWS"
  | atext => "atext"
  | atom => "atom"
  | dotAtom => "dot-atom"
  | dotAtomText => "dot-atom-text"
  | qtext => "qtext"
  | qcontent => "qcontent"
  | quotedString => "quoted-string"
  | word => "word"
  | phrase => "phrase"
  | utext => "utext"
  | unstructured => "unstructured"
  | address => "address"
  | mailbox => "mailbox"
  | nameAddr => "name-addr"
  | angleAddr => "angle-addr"
  | group => "group"
  | displayName => "display-name"
  | mailboxList => "mailbox-list"
  | addressList => "address-list"
  | addrSpec => "addr-spec"
  | localPart => "local-part"
  | domain => "domain"
  | domainLiteral => "domain-literal"
  | dcontent => "dcontent"
  | dtext => "dtext"
  | obsQp => "obs-qp"
  | obsText => "obs-text"
  | obsChar => "obs-char"
  | obsUtext => "obs-utext"
  | obsPhrase => "obs-phrase"
  | obsPhraseList => "obs-phrase-list"
  | obsFws => "obs-FWS"
  | obsAngleAddr => "obs-angle-addr"
  | obsRoute => "obs-route"
  | obsDomainList => "obs-domain-list"
  | obsLocalPart => "obs-local-part"
  | obsDomain => "obs-domain"
  | obsMboxList => "obs-mbox-list"
  | obsAddrList => "obs-addr-list"
  | root => "root"
  | onlyAddrSpec => "only_addr_spec"
  | onlyAddressList => "only_address_list"

/-- The identifier of a rule in the text of a run. -/
def label : Rule → String
  | wsp => "Wsp"
  | lf => "Lf"
  | cr => "Cr"
  | crlf => "Crlf"
  | alpha => "Alpha"
  | digit => "Digit"
  | noWsCtl => "NoWsCtl"
  | text => "Text"
  | quotedPair => "QuotedPair"
  | fws => "Fws"
  | ctext => "Ctext"
  | ccontent => "Ccontent"
  | comment => "Comment"
  | cfws => "Cfws"
  | atext => "Atext"
  | atom => "Atom"
  | dotAtom => "DotAtom"
  | dotAtomText => "DotAtomText"
  | qtext => "Qtext"
  | qcontent => "Qcontent"
  | quotedString => "QuotedString"
  | word => "Word"
  | phrase => "Phrase"
  | utext => "Utext"
  | unstructured => "Unstructured"
  | address => "Address"
  | mailbox => "Mailbox"
  | nameAddr => "NameAddr"
  | angleAddr => "AngleAddr"
  | group => "Group"
  | displayName => "DisplayName"
  | mailboxList => "MailboxList"
  | addressList => "AddressList"
  | addrSpec => "AddrSpec"
  | localPart => "LocalPart"
  | domain => "Domain"
  | domainLiteral => "DomainLiteral"
  | dcontent => "Dcontent"
  | dtext => "Dtext"
  | obsQp => "ObsQp"
  | obsText => "ObsText"
  | obsChar => "ObsChar"
  | obsUtext => "ObsUtext"
  | obsPhrase => "ObsPhrase"
  | obsPhraseList => "ObsPhraseList"
  | obsFws => "ObsFws"
  | obsAngleAddr => "ObsAngleAddr"
  | obsRoute => "ObsRoute"
  | obsDomainList => "ObsDomainList"
  | obsLocalPart => "ObsLocalPart"
  | obsDomain => "ObsDomain"
  | obsMboxList => "ObsMboxList"
  | obsAddrList => "ObsAddrList"
  | root => "Root"
  | onlyAddrSpec => "OnlyAddrSpec"
  | onlyAddressList => "OnlyAddressList"

end Rule

end AddressGrammar.Modern
