import Tributary.Builtin.Apply
import Tributary.Builtin.Argument
import Tributary.Builtin.Collection
import Tributary.Builtin.Picture
import Tributary.Builtin.Scalar
import Tributary.Builtin.Signature
import Tributary.Checked
import Tributary.Compiled
import Tributary.Decimal.Basic
import Tributary.Decimal.Layout
import Tributary.Decimal.Shortest
import Tributary.Diagnostic
import Tributary.Distinct
import Tributary.Document.Basic
import Tributary.Document.Reader
import Tributary.Double
import Tributary.EvalError
import Tributary.Exposure
import Tributary.Expr.Basic
import Tributary.Format.Base64
import Tributary.Format.Domain.Basic
import Tributary.Format.Domain.Mapping
import Tributary.Format.Host
import Tributary.Format.Identifier
import Tributary.Format.Punycode
import Tributary.Format.Regex
import Tributary.Format.Url
import Tributary.Graph.Basic
import Tributary.Graph.Build
import Tributary.Graph.Cycle
import Tributary.Json.Basic
import Tributary.Json.Printer
import Tributary.Json.Reader
import Tributary.Json.Token
import Tributary.Model.Basic
import Tributary.Model.Build
import Tributary.ModelFile
import Tributary.Node.Basic
import Tributary.Node.Eval
import Tributary.Node.Json
import Tributary.Number
import Tributary.Operator
import Tributary.Plan.Basic
import Tributary.Plan.Build
import Tributary.Plan.Evaluate
import Tributary.Raster
import Tributary.Rules
import Tributary.Schedule
import Tributary.Scope.Binding
import Tributary.Scope.References
import Tributary.Text.Basic
import Tributary.Text.Case
import Tributary.Text.Direction
import Tributary.Text.Joining
import Tributary.Text.Mark
import Tributary.Text.Normal.Basic
import Tributary.Text.Normal.Combining
import Tributary.Text.Normal.Decomposition
import Tributary.Text.Table
import Tributary.Time.Calendar
import Tributary.Time.Moment
import Tributary.Time.Pattern
import Tributary.Ty
import Tributary.Typing
import Tributary.Value.Basic
import Tributary.Value.Json
import Tributary.Value.Order
import Tributary.Words
import Tributary.Proofs.Checked
import Tributary.Proofs.Distinct
import Tributary.Proofs.Schedule
import Tributary.Proofs.Schedule.Loop
import Tributary.Proofs.Model.Names
import Tributary.Proofs.Expr.Named
import Tributary.Proofs.Plan.Stages
import Tributary.Proofs.Expr.Simulation
import Tributary.Proofs.Builtin.Proper
import Tributary.Proofs.Node.Stack
import Tributary.Proofs.Node.Closed
import Tributary.Proofs.Node.Reads
import Tributary.Proofs.Plan.Record
import Tributary.Proofs.Graph.Reach
import Tributary.Proofs.Graph.Search
import Tributary.Proofs.Graph.Components
import Tributary.Proofs.Graph.Cycle
import Tributary.Proofs.Schedule.Order
import Tributary.Proofs.Graph.Parents
import Tributary.Proofs.Plan.Order
import Tributary.Proofs.Graph.Orphans
import Tributary.Proofs.Plan.Demand
import Tributary.Proofs.Plan.Closure
import Tributary.Proofs.Scope.Notes
import Tributary.Proofs.Scope.Recorded
import Tributary.Proofs.Plan.Dependence
import Tributary.Proofs.Typing.Lattice
import Tributary.Proofs.Typing.Admits
import Tributary.Proofs.Builtin.Results
import Tributary.Proofs.Typing.Relation
import Tributary.Proofs.Typing.Sound
import Tributary.Proofs.Rules
import Tributary.Proofs.Plan.Declared
import Tributary.Proofs.Plan.Inputs
import Tributary.Proofs.Plan.Joins
import Tributary.Proofs.Typing.Relaxed
import Tributary.Proofs.Expr.Depth
import Tributary.Proofs.Plan.Permissive
import Tributary.Proofs.Model.Renaming
import Tributary.Proofs.Graph.Renaming
import Tributary.Proofs.Plan.Reordered
import Tributary.Proofs.Model.WellFormed
import Tributary.Proofs.Decimal.Digits
import Tributary.Proofs.Json.Tokens
import Tributary.Proofs.Json.RoundTrip
import Tributary.Proofs.Value.Json
import Tributary.Proofs.Time.Calendar
import Tributary.Proofs.Time.Timestamp
import Tributary.Proofs.Scope.Meaning
import Tributary.Proofs.Typing.Faults
import Tributary.Proofs.Scope.Uses
import Tributary.Proofs.Graph.References
import Tributary.Proofs.Plan.Matching
import Tributary.Proofs.Typing.Collections
import Tributary.Proofs.Double.Rounding
import Tributary.Proofs.Double.Conversion
import Tributary.Proofs.Number.Order
import Tributary.Proofs.Value.Order
import Tributary.Proofs.Builtin.Sorting
import Tributary.Proofs.Raster
import Tributary.Proofs.Words
import Tributary.Proofs.Raster.Resize
import Tributary.Proofs.Builtin.Picture
import Tributary.Proofs.Builtin.Resizing
import Tributary.Proofs.Scope.Params
import Tributary.Proofs.Node.Integers
import Tributary.Proofs.Node.Paths
import Tributary.Proofs.Text
import Tributary.Proofs.Format.Base64
import Tributary.Proofs.Format.Regex
import Tributary.Proofs.Format.Email
import Tributary.Proofs.Builtin.Scalar
import Tributary.Proofs.Model.Conflicts
import Tributary.Proofs.Typing.Spelling
