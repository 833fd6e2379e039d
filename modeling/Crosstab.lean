import Crosstab.Catalog.Basic
import Crosstab.Catalog.Builtin
import Crosstab.Catalog.Registry
import Crosstab.Column
import Crosstab.Command.Arguments
import Crosstab.Command.Basic
import Crosstab.Decimal.Layout
import Crosstab.Decimal.Reader
import Crosstab.Decimal.Shortest
import Crosstab.Document.Basic
import Crosstab.Document.Decode
import Crosstab.Duration
import Crosstab.Engine.Basic
import Crosstab.Engine.Failure
import Crosstab.Engine.Setup
import Crosstab.Join.Basic
import Crosstab.Join.Json
import Crosstab.Json.Basic
import Crosstab.Json.Literal
import Crosstab.Json.Printer
import Crosstab.Json.Reader
import Crosstab.Main
import Crosstab.Naming
import Crosstab.Plan.Basic
import Crosstab.Plan.Json
import Crosstab.Plan.Operand
import Crosstab.Plan.Resolve
import Crosstab.Proofs.Catalog.Load
import Crosstab.Proofs.Catalog.Registration
import Crosstab.Proofs.Catalog.Rule
import Crosstab.Proofs.Command.Offline
import Crosstab.Proofs.Document.RoundTrip
import Crosstab.Proofs.Engine.Call
import Crosstab.Proofs.Except
import Crosstab.Proofs.Keyed
import Crosstab.Proofs.Plan.Acceptance
import Crosstab.Proofs.Plan.Calendar
import Crosstab.Proofs.Plan.DateOperand
import Crosstab.Proofs.Plan.DateText
import Crosstab.Proofs.Plan.Identity
import Crosstab.Proofs.Plan.Mirror
import Crosstab.Proofs.Plan.Operand
import Crosstab.Proofs.Plan.Relationship
import Crosstab.Proofs.Plan.Resolve
import Crosstab.Proofs.Plan.Sound
import Crosstab.Proofs.Plan.Value
import Crosstab.Proofs.Plan.ValueFault
import Crosstab.Proofs.Report.Flat
import Crosstab.Proofs.Report.Rectangle
import Crosstab.Proofs.Settings.Duration
import Crosstab.Proofs.Settings.Expansion
import Crosstab.Proofs.Spec.RoundTrip
import Crosstab.Proofs.Sql.Balance
import Crosstab.Proofs.Sql.Cast
import Crosstab.Proofs.Sql.Clause
import Crosstab.Proofs.Sql.Meaning
import Crosstab.Proofs.Sql.Nesting
import Crosstab.Proofs.Sql.Nodes
import Crosstab.Proofs.Sql.Operand
import Crosstab.Proofs.Sql.Pattern
import Crosstab.Proofs.Sql.Placeholders
import Crosstab.Proofs.Sql.Readable
import Crosstab.Proofs.Sql.Scan
import Crosstab.Proofs.Sql.Scope
import Crosstab.Proofs.Statement.Compile
import Crosstab.Proofs.Statement.Conjunction
import Crosstab.Proofs.Statement.Dialect
import Crosstab.Proofs.Statement.Independence
import Crosstab.Proofs.Statement.JoinScope
import Crosstab.Proofs.Statement.Label
import Crosstab.Proofs.Statement.Mentions
import Crosstab.Proofs.Statement.Placeholders
import Crosstab.Proofs.Statement.Quoting
import Crosstab.Proofs.Statement.Scope
import Crosstab.Proofs.Statement.Search
import Crosstab.Proofs.Statement.Test
import Crosstab.Proofs.Table.Cleared
import Crosstab.Proofs.Table.Combination
import Crosstab.Proofs.Table.Combined
import Crosstab.Proofs.Table.Exact
import Crosstab.Proofs.Table.Header
import Crosstab.Proofs.Table.Slice
import Crosstab.Proofs.Table.Slot
import Crosstab.Proofs.Table.Sums
import Crosstab.Proofs.Table.Tabulation
import Crosstab.Proofs.Text.Blank
import Crosstab.Proofs.Text.Numeral
import Crosstab.Proofs.Text.Run
import Crosstab.Proofs.Worker.Argument
import Crosstab.Proofs.Worker.Exchange
import Crosstab.Proofs.Worker.Routing
import Crosstab.Rejection
import Crosstab.Report
import Crosstab.Settings.Basic
import Crosstab.Settings.Expansion
import Crosstab.Settings.Json
import Crosstab.Settings.Resolve
import Crosstab.Spec.Basic
import Crosstab.Spec.Json
import Crosstab.Sql.Bindings
import Crosstab.Sql.Dialect
import Crosstab.Sql.Expr
import Crosstab.Sql.Render
import Crosstab.Sql.Scan
import Crosstab.Sql.Token
import Crosstab.Statement.Basic
import Crosstab.Statement.Compile
import Crosstab.Statement.Condition
import Crosstab.Store
import Crosstab.Table.Pivot
import Crosstab.Table.Row
import Crosstab.Table.Spread
import Crosstab.Text.Blank
import Crosstab.Text.Case
import Crosstab.Text.Digit
import Crosstab.Text.Letter
import Crosstab.Text.Title
import Crosstab.Toml.Quoted
import Crosstab.Toml.Reader
import Crosstab.Toml.Scalar
import Crosstab.Toml.Tree
import Crosstab.Worker.Client
import Crosstab.Worker.Fault
import Crosstab.Worker.Peer
import Crosstab.Worker.Protocol
import Crosstab.Worker.Session
