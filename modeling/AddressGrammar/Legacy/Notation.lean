import AddressGrammar.Legacy.Rule
import AddressGrammar.Notation.Production

/-!
# The productions of the legacy address grammar

## Main definitions

* `Legacy.Rule.production` — the definition of each rule
-/

namespace AddressGrammar.Legacy

open Notation Notation.Production

namespace Rule

/-- Text as a production. -/
private def spelled (s : String) : Production Rule := terminal (.text s)

/-- Characters of a byte class, each on its own. -/
private def chars (s : String) : List ClassPiece := s.toList.map fun c => .one (.char c)

/-- A carriage return and the bytes above ASCII, as they are listed in a class. -/
private def returnAndHigh : List ClassPiece :=
  [.one (.hexUpper 0x0D), .range (.hexUpper 0x80) (.hexUpper 0xFF)]

/-- A delimited text: runs of plain text and quoted pairs between two delimiters. -/
private def delimited (opening closing : String) (content : Rule) : Production Rule :=
  seqs (spelled opening) [star (alts (rule content) [rule quotedPair]), spelled closing]

/-- The definition of a rule. -/
def production : Rule → Production Rule
  | htab => terminal (.slashed (.hexUpper 0x09))
  | lf => terminal (.slashed (.hexUpper 0x0A))
  | cr => terminal (.slashed (.hexUpper 0x0D))
  | space => spelled " "
  | spaces => star (rule space)
  | atSign => spelled "@"
  | lwspChar => alts (rule space) [rule htab]
  | char => terminal (.oneOf false [.range (.hexLower 0x00) (.hexLower 0x7f)])
  | ctl => terminal (.oneOf false [.range (.hexLower 0x00) (.hexLower 0x1f), .one (.hexLower 0x7f)])
  | special => terminal (.oneOf false (chars "]()<>@,;:\\\".["))
  | crlf => seqs (rule cr) [rule lf]
  | linearWhiteSpace => plus (seqs (optional (rule crlf)) [rule lwspChar])
  | atom =>
    terminal (.runOf true (chars "]" ++
      [.range (.hexUpper 0x00) (.hexUpper 0x20)] ++ chars " " ++
      [.one (.hexUpper 0x7F), .range (.hexUpper 0x80) (.hexUpper 0xFF)] ++
      chars "()<>@,;:\\\".["))
  | ctext =>
    alts (terminal (.runOf true (chars ")\\" ++ returnAndHigh ++ chars "(")))
      [rule linearWhiteSpace]
  | dtext =>
    alts (terminal (.runOf true (chars "]\\" ++ returnAndHigh ++ chars "[")))
      [rule linearWhiteSpace]
  | qtext =>
    alts (terminal (.runOf true (chars "\"\\" ++ returnAndHigh))) [rule linearWhiteSpace]
  | quotedPair => seqs (spelled "\\") [rule char]
  | quotedString => delimited "\"" "\"" qtext
  | domainLiteral => delimited "[" "]" dtext
  | comment =>
    seqs (spelled "(") [star (alts (rule ctext) [rule quotedPair, rule comment]), spelled ")"]
  | ocms => star (rule comment)
  | word => alts (rule atom) [rule quotedString]
  | phrase => plus (seqs (rule word) [rule spaces])
  | valid => seqs (rule ocms) [rule address, rule ocms]
  | address => alts (rule mailbox) [rule group]
  | group =>
    seqs (rule phrase) [rule ocms, spelled ":", rule ocms, rule mailbox,
      star (seqs (rule ocms) [spelled ",", rule ocms, rule mailbox]), rule ocms, spelled ";"]
  | mailbox =>
    alts (rule addrSpec) [seqs (rule phrase) [rule spaces, rule ocms, rule spaces, rule angleAddr]]
  | angleAddr =>
    seqs (spelled "<") [rule ocms, optional (rule route), rule ocms, rule addrSpec, spelled ">"]
  | route => seqs (plus (seqs (rule atSign) [rule ocms, rule domain])) [spelled ":"]
  | addrSpec => seqs (rule localPart) [rule ocms, spelled "@", rule ocms, rule domain]
  | localPart =>
    seqs (rule word) [rule ocms, star (seqs (spelled ".") [rule ocms, rule word])]
  | domain =>
    validDomain (seqs (rule subDomain) [rule ocms,
      plus (seqs (spelled ".") [rule ocms, rule subDomain])])
  | subDomain => alts (rule domainRef) [rule domainLiteral]
  | domainRef => rule atom
  | root => seqs (rule valid) [eof]
  | onlyAddrSpec => seqs (rule ocms) [rule addrSpec, rule ocms, eof]

end Rule

end AddressGrammar.Legacy
