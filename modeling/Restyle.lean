import Restyle.CommandLine
import Restyle.Conversion.Decode
import Restyle.Main
import Restyle.Stylesheet.Encode
import Restyle.Stylesheet.MapSelectors
import Restyle.Proofs.Printing.Layouts
import Restyle.Proofs.Printing.Faults
import Restyle.Proofs.Printing.Posture
import Restyle.Proofs.Printing.Tasks
import Restyle.Proofs.Tree.Removal
import Restyle.Proofs.Printing.Lenient
import Restyle.Proofs.Declaration.Exactness
import Restyle.Proofs.Json.ReadBack
import Restyle.Proofs.Json.Nesting
import Restyle.Proofs.Json.Spelling
import Restyle.Proofs.Stylesheet.Spelling
import Restyle.Proofs.Stylesheet.RoundTrip
import Restyle.Proofs.Printing.Header
import Restyle.Proofs.Printing.Rendering
import Restyle.Proofs.Printing.Pieces
import Restyle.Proofs.Externals.Search
import Restyle.Proofs.Externals.Resolution
import Restyle.Proofs.Externals.Placement
import Restyle.Proofs.Condition.Renderable
import Restyle.Proofs.Tree.Listing
import Restyle.Proofs.Tree.Brackets
import Restyle.Proofs.Printing.WellFormed
import Restyle.Proofs.Constant.Naming
import Restyle.Proofs.Constant.References
import Restyle.Proofs.Conversion.Outcome
import Restyle.Proofs.Printing.PlainText
import Restyle.Proofs.Printing.Balance
import Restyle.Proofs.Json.Literals
import Restyle.Proofs.Json.Records
import Restyle.Proofs.Stylesheet.FreeSpelling
import Restyle.Proofs.Externals.Stripping
import Restyle.Proofs.FileSystem.Locations
import Restyle.Proofs.Report.ReadBack
import Restyle.Proofs.Job.Overwriting
import Restyle.Proofs.Constant.Collisions
import Restyle.Proofs.Conversion.Collection
import Restyle.Proofs.Printing.Chains
import Restyle.Proofs.Selector.Scanning
import Restyle.Proofs.Condition.Parentheses
import Restyle.Proofs.Condition.Truth
import Restyle.Proofs.Declaration.Refusals
import Restyle.Proofs.Printing.Unnesting
import Restyle.Proofs.Printing.Fixing
import Restyle.Proofs.Value.Flattening
import Restyle.Proofs.Constant.Casing
import Restyle.Proofs.Tree.Editing
import Restyle.Proofs.Printing.Lines
