import GraphemeRegex.CommandLine.Answer
import GraphemeRegex.Main
import GraphemeRegex.Pattern.Equality
import GraphemeRegex.Proofs.Program.Draft
import GraphemeRegex.Proofs.Text.Reach
import GraphemeRegex.Proofs.Lowering.Segments
import GraphemeRegex.Proofs.Lowering.Fragment
import GraphemeRegex.Proofs.Lowering.Emission
import GraphemeRegex.Proofs.Semantics.Ends
import GraphemeRegex.Proofs.Machine.Evaluation
import GraphemeRegex.Proofs.Lowering.Computing
import GraphemeRegex.Proofs.Lowering.LoopState
import GraphemeRegex.Proofs.Lowering.Looping
import GraphemeRegex.Proofs.Lowering.Correctness
import GraphemeRegex.Proofs.Machine.Discipline
import GraphemeRegex.Proofs.Machine.Fitting
import GraphemeRegex.Proofs.Semantics.Answers
import GraphemeRegex.Proofs.Lowering.Keeping
import GraphemeRegex.Proofs.Lowering.Safety
import GraphemeRegex.Proofs.Semantics.Languages
import GraphemeRegex.Proofs.Machine.Limiting
import GraphemeRegex.Proofs.Text.Boundaries
import GraphemeRegex.Proofs.Lowering.Consuming
import GraphemeRegex.Proofs.Semantics.Clusters
import GraphemeRegex.Proofs.Lowering.Enclosure
import GraphemeRegex.Proofs.Reading.Printable
import GraphemeRegex.Proofs.Reading.Digits
import GraphemeRegex.Proofs.Reading.Spelling
import GraphemeRegex.Proofs.Reading.Openings
import GraphemeRegex.Proofs.Reading.Operands
import GraphemeRegex.Proofs.Reading.Readable
import GraphemeRegex.Proofs.Reading.Nesting
import GraphemeRegex.Proofs.Reading.Roundtrip
import GraphemeRegex.Proofs.Program.Building
import GraphemeRegex.Proofs.Machine.Bounds
import GraphemeRegex.Proofs.Text.Flatness
import GraphemeRegex.Proofs.Lowering.Scalarwise
import GraphemeRegex.Proofs.Semantics.Levels
import GraphemeRegex.Proofs.Reading.Span
import GraphemeRegex.Proofs.Reading.Shape
import GraphemeRegex.Proofs.Reading.Outcomes
import GraphemeRegex.Proofs.Reading.Brackets
import GraphemeRegex.Proofs.Reading.Totality
import GraphemeRegex.Proofs.Pattern.Erasing
import GraphemeRegex.Proofs.Lowering.Transparency
import GraphemeRegex.Proofs.Program.Numbering
import GraphemeRegex.Proofs.Lowering.Ownership
import GraphemeRegex.Proofs.Lowering.Supported
import GraphemeRegex.Proofs.Reading.Literal
import GraphemeRegex.Proofs.Semantics.Literals
import GraphemeRegex.Proofs.Semantics.Possessive
import GraphemeRegex.Proofs.Machine.Acceptance
import GraphemeRegex.Proofs.Pattern.Nodes
import GraphemeRegex.Proofs.Lowering.Refusal
import GraphemeRegex.Proofs.Machine.Straight
import GraphemeRegex.Proofs.Semantics.Quotes
import GraphemeRegex.Proofs.Pattern.Regreeding
import GraphemeRegex.Proofs.Semantics.Greediness
import GraphemeRegex.Proofs.Pattern.Tagging
import GraphemeRegex.Proofs.Lowering.OpenLevels
import GraphemeRegex.Proofs.Lowering.Ledger
import GraphemeRegex.Proofs.Lowering.Accounting
import GraphemeRegex.Proofs.Reading.Enclosing
import GraphemeRegex.Proofs.Reading.Deepening
import GraphemeRegex.Proofs.Reading.CutOff
import GraphemeRegex.Proofs.Reading.Dialects
import GraphemeRegex.Proofs.Reading.Braces
import GraphemeRegex.Proofs.Reading.Numbers
import GraphemeRegex.Proofs.Program.Resolution
import GraphemeRegex.Proofs.Program.Listing
import GraphemeRegex.Proofs.Machine.TraceLines
import GraphemeRegex.Proofs.CommandLine.Agreement
import GraphemeRegex.Proofs.Program.Constants
import GraphemeRegex.Proofs.Lowering.Locality
import GraphemeRegex.Proofs.Machine.FallingBack
import GraphemeRegex.Proofs.Lowering.Exits
