import AddressGrammar.Proofs.Peg.LeftCalls
import AddressGrammar.Proofs.Validation.Verdict
import AddressGrammar.Settings.Config
import AddressGrammar.Validation.Shorthands
import AddressGrammar.Proofs.Validation.PlainCheck
import AddressGrammar.Proofs.Peg.Segments
import AddressGrammar.Proofs.Peg.Fuel
import AddressGrammar.Proofs.Modern.FoldedText
import AddressGrammar.Proofs.Peg.Lockstep
import AddressGrammar.Proofs.Peg.LeftRecursion
import AddressGrammar.Proofs.Peg.Detours
import AddressGrammar.Proofs.Peg.Locality
import AddressGrammar.Proofs.Validation.ErrorLocality
import AddressGrammar.Proofs.Peg.Nesting
import AddressGrammar.Proofs.Peg.Headroom
import AddressGrammar.Proofs.Validation.RaisedBound
import AddressGrammar.Proofs.Peg.Refusals
import AddressGrammar.Proofs.Legacy.Refusals
import AddressGrammar.Proofs.Hostname.PlainNames
import AddressGrammar.Proofs.Modern.Gaps
import AddressGrammar.Proofs.Modern.Domains
import AddressGrammar.Proofs.Modern.Refusals
import AddressGrammar.Proofs.Validation.Narrowing
import AddressGrammar.Proofs.Text.Spans
import AddressGrammar.Proofs.Peg.Preservation
import AddressGrammar.Proofs.Validation.AsciiOnly
import AddressGrammar.Proofs.Notation.Derivability
import AddressGrammar.Proofs.Notation.Shapes
import AddressGrammar.Proofs.Validation.Transcription
import AddressGrammar.Proofs.Validation.AnyPolicy
import AddressGrammar.Proofs.Peg.SingleEvaluation
import AddressGrammar.Proofs.Validation.SingleEvaluation
import AddressGrammar.Proofs.Modern.Forms
import AddressGrammar.Proofs.Validation.Starts
import AddressGrammar.Proofs.Validation.Depth
import AddressGrammar.Proofs.Text.Placement
import AddressGrammar.Proofs.Peg.Carrying
import AddressGrammar.Proofs.Modern.Marks
import AddressGrammar.Proofs.Modern.Elements
import AddressGrammar.Proofs.Modern.Joining
import AddressGrammar.Proofs.Validation.JoinedLists
import AddressGrammar.Proofs.Peg.Moves
import AddressGrammar.Proofs.Peg.Stability
import AddressGrammar.Proofs.Peg.Consent
import AddressGrammar.Proofs.Validation.Consent
import AddressGrammar.Proofs.Text.DottedText
import AddressGrammar.Proofs.Peg.DottedRuns
import AddressGrammar.Proofs.Modern.PlainAddresses
import AddressGrammar.Proofs.Legacy.PlainAddresses
import AddressGrammar.Proofs.Validation.PlainAddresses
import AddressGrammar.Proofs.Peg.Diagnostics
import AddressGrammar.Proofs.Peg.PositionIndependence
import AddressGrammar.Proofs.Validation.SpacedAddresses
import AddressGrammar.Proofs.Validation.DomainFlag
import AddressGrammar.Proofs.Settings.RoundTrip
import AddressGrammar.Proofs.Modern.ObsoleteForms
import AddressGrammar.Proofs.Peg.Restoration
import AddressGrammar.Proofs.Validation.FoundCharacters
import AddressGrammar.Proofs.Hostname.Names
import AddressGrammar.Proofs.Modern.Unstructured
import AddressGrammar.Proofs.Legacy.Delimited
import AddressGrammar.Proofs.Modern.Endings
import AddressGrammar.Proofs.Text.Lines
import AddressGrammar.Proofs.Modern.WhiteSpace
import AddressGrammar.Proofs.Peg.ByteRuns
