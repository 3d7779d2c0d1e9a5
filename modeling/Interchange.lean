import Interchange.Cli.FileTree
import Interchange.Main
import Interchange.Proofs.Calendar.Day
import Interchange.Proofs.Calendar.Instant
import Interchange.Proofs.Calendar.Reader
import Interchange.Proofs.Calendar.ReadBack
import Interchange.Proofs.Calendar.Proper
import Interchange.Proofs.Calendar.Timestamp
import Interchange.Proofs.Pipeline.StepOrder
import Interchange.Proofs.Pipeline.FailFast
import Interchange.Proofs.Pipeline.Rearranged
import Interchange.Proofs.Table
import Interchange.Proofs.Http.Expansion
import Interchange.Proofs.Http.LastReply
import Interchange.Proofs.Http.Headers
import Interchange.Proofs.Http.Message
import Interchange.Proofs.Path.Frame
import Interchange.Proofs.Pipeline.MappingFrame
import Interchange.Proofs.Xml.Node
import Interchange.Proofs.Xml.Reader
import Interchange.Proofs.Number.Nearest
import Interchange.Proofs.Number.Floats
import Interchange.Proofs.Number.ReadBack
import Interchange.Proofs.Number.Decimal
import Interchange.Proofs.Number.Integers
import Interchange.Proofs.Number.Whole
import Interchange.Proofs.Xml.Message
import Interchange.Proofs.Xml.Soap
import Interchange.Proofs.Rule.Order
import Interchange.Proofs.Rule.Turns
import Interchange.Proofs.Pipeline.Simulation
import Interchange.Proofs.Cache.Transparency
import Interchange.Proofs.Error
import Interchange.Proofs.Pipeline.References
import Interchange.Proofs.Bundle.Diagnostics
import Interchange.Proofs.Pipeline.Selection
import Interchange.Proofs.Bundle.Routing
import Interchange.Proofs.Expr.Grammar
import Interchange.Proofs.Expr.Scope
import Interchange.Proofs.Expr.Numeric
import Interchange.Proofs.Expr.Bindings
import Interchange.Proofs.Expr.Spelling
import Interchange.Proofs.Xml.NormalForm
import Interchange.Proofs.Xml.Children
import Interchange.Proofs.Mapping.Policies
import Interchange.Proofs.Mapping.Integers
import Interchange.Proofs.Mapping.Coercion
import Interchange.Proofs.Pipeline.Candidates
import Interchange.Proofs.Pipeline.Score
import Interchange.Proofs.Pipeline.Course
import Interchange.Proofs.Pipeline.Reply
import Interchange.Proofs.Pipeline.Requests
import Interchange.Proofs.Pipeline.Checked
import Interchange.Proofs.Cache.Capacity
import Interchange.Proofs.Path.Lens
import Interchange.Proofs.Path.Locality
import Interchange.Proofs.Path.Removal
import Interchange.Proofs.Path.Bounds
import Interchange.Proofs.Path.Leaves
import Interchange.Proofs.Path.Places
import Interchange.Proofs.Path.Merging
import Interchange.Proofs.Path.Spelling
import Interchange.Proofs.Cache.Interleaving
import Interchange.Proofs.Rule.Rearranged
import Interchange.Proofs.Rule.Appending
import Interchange.Proofs.Rule.Absence
import Interchange.Proofs.Rule.Equality
import Interchange.Proofs.Record.ReadBack
import Interchange.Proofs.Rule.ReadBack
import Interchange.Proofs.Text.Pieces
import Interchange.Proofs.Text.Replacing
import Interchange.Proofs.Xml.Fallback
import Interchange.Proofs.Xml.Escaping
import Interchange.Proofs.WireFormat
import Interchange.Proofs.Xml.WellFormed
import Interchange.Proofs.Masking
import Interchange.Proofs.Value.InOrder
import Interchange.Proofs.Value.Written
import Interchange.Proofs.Mapping.Masking
import Interchange.Proofs.Mapping.Order
