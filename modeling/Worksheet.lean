import Worksheet.Json.Stored
import Worksheet.Main
import Worksheet.Sheet.Uncached
import Worksheet.Proofs.Route
import Worksheet.Proofs.Resolution
import Worksheet.Proofs.Evaluation
import Worksheet.Grid.Request
import Worksheet.Proofs.Coherence
import Worksheet.Proofs.Entries
import Worksheet.Proofs.Refinement
import Worksheet.Proofs.References
import Worksheet.Proofs.Solution
import Worksheet.Grid.Repair
import Worksheet.Proofs.Repair
import Worksheet.CommandLine.Page
import Worksheet.Proofs.Keeping
import Worksheet.Proofs.Printing
import Worksheet.Proofs.Strict
import Worksheet.Proofs.Arguments
import Worksheet.Proofs.Onwards
import Worksheet.Proofs.Modes
import Worksheet.Sheet.Reached
import Worksheet.Proofs.Effects
import Worksheet.Proofs.Errors
import Worksheet.Proofs.Loading
import Worksheet.Proofs.Ordering
import Worksheet.Proofs.Remembering
import Worksheet.Grid.History
import Worksheet.Proofs.History
import Worksheet.Table.Request
import Worksheet.Proofs.Fronting
import Worksheet.Binary64.Numeral
import Worksheet.Binary64.Rounding
import Worksheet.Proofs.Numeral
import Worksheet.Proofs.Rounding
import Worksheet.Proofs.Shortest
import Worksheet.Proofs.Displaying
import Worksheet.Proofs.Retyping
import Worksheet.Grid.Visit
import Worksheet.Proofs.Visiting
import Worksheet.Proofs.Passing
import Worksheet.CommandLine.Group
import Worksheet.Proofs.Grouping
import Worksheet.Proofs.Unfolding
import Worksheet.Proofs.Isolation
import Worksheet.Proofs.Policies
import Worksheet.Proofs.Locality
import Worksheet.Binary64.Conversion
import Worksheet.Literal.Spelling
import Worksheet.Proofs.Spelling
import Worksheet.Proofs.Accuracy
import Worksheet.Address.Label
import Worksheet.Proofs.Labelling
import Worksheet.Proofs.Gathering
import Worksheet.Proofs.Scanning
import Worksheet.Json.Grammar
import Worksheet.Proofs.Quoting
import Worksheet.Proofs.Scalars
import Worksheet.Proofs.Skipping
import Worksheet.Proofs.Reading
import Worksheet.Proofs.Storing
import Worksheet.Proofs.Configuring
import Worksheet.Toml.Nested
import Worksheet.Proofs.Yielding
import Worksheet.Proofs.Nesting
import Worksheet.Proofs.Drafting
import Worksheet.Proofs.Heeding
import Worksheet.Proofs.Stepping
