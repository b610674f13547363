/-!
# The rules of the legacy address grammar

The names are those of RFC 822, with underscores, in the order of its sections: lexical tokens,
comments between tokens, words, addresses, domains, and two rules for a whole input. The rule named
by a hyphen is the optional space between words.

## Main definitions

* `Rule`, `Rule.all` — the rules, and the list of them
* `Rule.name`, `Rule.label` — the name and the identifier of a rule
-/

namespace AddressGrammar.Legacy

/-- The rules of the grammar. -/
inductive Rule where
  | htab | lf | cr | space | spaces | atSign | lwspChar | char | ctl | special | crlf
  | linearWhiteSpace | atom | ctext | dtext | qtext | quotedPair | quotedString | domainLiteral
  | comment | ocms | word | phrase | valid | address | group | mailbox | angleAddr | route
  | addrSpec | localPart | domain | subDomain | domainRef | root | onlyAddrSpec
  deriving DecidableEq

namespace Rule

/-- Every rule, in the order of declaration. -/
def all : List Rule :=
  [.htab, .lf, .cr, .space, .spaces, .atSign, .lwspChar, .char, .ctl, .special, .crlf,
   .linearWhiteSpace, .atom, .ctext, .dtext, .qtext, .quotedPair, .quotedString, .domainLiteral,
   .comment, .ocms, .word, .phrase, .valid, .address, .group, .mailbox, .angleAddr, .route,
   .addrSpec, .localPart, .domain, .subDomain, .domainRef, .root, .onlyAddrSpec]

theorem mem_all (r : Rule) : r ∈ all := by
  cases r <;> decide

/-- The name of a rule in the defining document. -/
def name : Rule → String
  | htab => "HTAB"
  | lf => "LF"
  | cr => "CR"
  | space => "SPACE"
  | spaces => "-"
  | atSign => "AT"
  | lwspChar => "LWSP_char"
  | char => "CHAR"
  | ctl => "CTL"
  | special => "special"
  | crlf => "CRLF"
  | linearWhiteSpace => "linear_white_space"
  | atom => "atom"
  | ctext => "ctext"
  | dtext => "dtext"
  | qtext => "qtext"
  | quotedPair => "quoted_pair"
  | quotedString => "quoted_string"
  | domainLiteral => "domain_literal"
  | comment => "comment"
  | ocms => "ocms"
  | word => "word"
  | phrase => "phrase"
  | valid => "valid"
  | address => "address"
  | group => "group"
  | mailbox => "mailbox"
  | angleAddr => "angle_addr"
  | route => "route"
  | addrSpec => "addr_spec"
  | localPart => "local_part"
  | domain => "domain"
  | subDomain => "sub_domain"
  | domainRef => "domain_ref"
  | root => "root"
  | onlyAddrSpec => "only_addr_spec"

/-- The identifier of a rule in the text of a run. -/
def label : Rule → String
  | htab => "Htab"
  | lf => "Lf"
  | cr => "Cr"
  | space => "Space"
  | spaces => "Hyphen"
  | atSign => "At"
  | lwspChar => "LwspChar"
  | char => "Char"
  | ctl => "Ctl"
  | special => "Special"
  | crlf => "Crlf"
  | linearWhiteSpace => "LinearWhiteSpace"
  | atom => "Atom"
  | ctext => "Ctext"
  | dtext => "Dtext"
  | qtext => "Qtext"
  | quotedPair => "QuotedPair"
  | quotedString => "QuotedString"
  | domainLiteral => "DomainLiteral"
  | comment => "Comment"
  | ocms => "Ocms"
  | word => "Word"
  | phrase => "Phrase"
  | valid => "Valid"
  | address => "Address"
  | group => "Group"
  | mailbox => "Mailbox"
  | angleAddr => "AngleAddr"
  | route => "Route"
  | addrSpec => "AddrSpec"
  | localPart => "LocalPart"
  | domain => "Domain"
  | subDomain => "SubDomain"
  | domainRef => "DomainRef"
  | root => "Root"
  | onlyAddrSpec => "OnlyAddrSpec"

end Rule

end AddressGrammar.Legacy
