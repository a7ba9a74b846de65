import Workflow.Graph.History
import Workflow.Template.Codec
import Workflow.Main
import Workflow.Proofs.Graph.Ancestry
import Workflow.Proofs.Graph.WellFormed
import Workflow.Proofs.Graph.Walk
import Workflow.Proofs.Graph.Acceptance
import Workflow.Proofs.Graph.Preservation
import Workflow.Proofs.Tree
import Workflow.Proofs.Document.Valid
import Workflow.Proofs.Document.Loading
import Workflow.Proofs.Graph.Forest
import Workflow.Proofs.Compile
import Workflow.Proofs.Agent
import Workflow.Proofs.RoundTrip
import Workflow.Proofs.Compile.Acceptance
import Workflow.Proofs.Compile.Lowering
import Workflow.Proofs.Compile.Sentinel
import Workflow.Proofs.Decimal.Shortest
import Workflow.Proofs.Json.Numeral
import Workflow.Proofs.Json.StringLiteral
import Workflow.Proofs.Json.Seen
import Workflow.Proofs.Json.Text
import Workflow.Proofs.Json.Reading
import Workflow.Proofs.Json.Memory
import Workflow.Proofs.Json.Equality
import Workflow.Proofs.Document.Reading
import Workflow.Proofs.Document.Reread
import Workflow.Proofs.Document.Lossless
import Workflow.Proofs.Graph.Reading
import Workflow.Proofs.Saving
import Workflow.Proofs.Compile.Chain
import Workflow.Proofs.Compile.Content
import Workflow.Proofs.Graph.Lookup
import Workflow.Proofs.Canvas
import Workflow.Proofs.Canvas.Reading
import Workflow.Proofs.Scope
import Workflow.Proofs.Graph.Upstream
import Workflow.Proofs.Reopening
import Workflow.Proofs.Graph.Compatible
import Workflow.Proofs.Graph.Stuck
import Workflow.Proofs.Graph.Parts
import Workflow.Proofs.Graph.Siblings
import Workflow.Proofs.Document.Acceptance
import Workflow.Proofs.Scope.Nearest
import Workflow.Proofs.Graph.Removal
import Workflow.Proofs.Graph.Connection
import Workflow.Proofs.Graph.Dismantling
import Workflow.Proofs.Graph.Moves
import Workflow.Proofs.Graph.Reversal
import Workflow.Proofs.Document.Reachability
import Workflow.Proofs.Reference.Grammar
import Workflow.Proofs.Scope.Reports
import Workflow.Proofs.Scope.Distinct
import Workflow.Proofs.Canvas.Conversion
import Workflow.Proofs.Compile.Reports
import Workflow.Proofs.Agent.Naming
import Workflow.Proofs.Agent.Findings
import Workflow.Proofs.Validation
import Workflow.Proofs.Validation.Defaults
import Workflow.Proofs.Graph.Duality
import Workflow.Proofs.Document.Traversal
