import FilterLang.Calendar.Date
import FilterLang.Calendar.DateTime
import FilterLang.Calendar.Reading
import FilterLang.Calendar.Zone
import FilterLang.Error
import FilterLang.Expr.Basic
import FilterLang.Expr.Fault
import FilterLang.Expr.Parser
import FilterLang.Expr.Reading
import FilterLang.Grid.Basic
import FilterLang.Grid.Document
import FilterLang.Json.Basic
import FilterLang.Json.Number
import FilterLang.Json.Reading
import FilterLang.Json.Writing
import FilterLang.Mapper.Basic
import FilterLang.Mapper.Field
import FilterLang.Mapper.Schema
import FilterLang.Number.Double
import FilterLang.Number.Reading
import FilterLang.Number.Rounding
import FilterLang.Number.Shortest
import FilterLang.Number.Word
import FilterLang.Number.Written
import FilterLang.Operator.Basic
import FilterLang.Operator.ReadyMade
import FilterLang.Operator.Registry
import FilterLang.Order.Entry
import FilterLang.Order.SortKey
import FilterLang.Path.Basic
import FilterLang.Path.Reading
import FilterLang.Predicate.Basic
import FilterLang.Predicate.Target
import FilterLang.Proofs.Calendar.Writing
import FilterLang.Proofs.Expr.Acceptance
import FilterLang.Proofs.Expr.Grammar
import FilterLang.Proofs.Expr.RoundTrip
import FilterLang.Proofs.Expr.Written
import FilterLang.Proofs.Operator.Registered
import FilterLang.Proofs.Outcome
import FilterLang.Proofs.Path.Hops
import FilterLang.Proofs.Query.Building
import FilterLang.Proofs.Query.Planning
import FilterLang.Proofs.Path.Reached
import FilterLang.Proofs.Sql.Column
import FilterLang.Proofs.Sql.Literal
import FilterLang.Proofs.Sql.Quoting
import FilterLang.Proofs.Text.Decimal
import FilterLang.Proofs.Text.Runs
import FilterLang.Proofs.Text.Trim
import FilterLang.Proofs.Token.Escape
import FilterLang.Proofs.Token.Word
import FilterLang.Query.Comparison
import FilterLang.Query.Plan
import FilterLang.Query.Recording
import FilterLang.Query.Target
import FilterLang.Settings.Basic
import FilterLang.Settings.File
import FilterLang.Sql.Column
import FilterLang.Sql.Condition
import FilterLang.Sql.Paging
import FilterLang.Sql.Quoting
import FilterLang.Sql.Select
import FilterLang.Sql.Target
import FilterLang.StableSort
import FilterLang.Text.Alphanumeric
import FilterLang.Text.Basic
import FilterLang.Text.Blank
import FilterLang.Text.CodeRange
import FilterLang.Text.Hexadecimal
import FilterLang.Text.Lowercase
import FilterLang.Text.Quoted
import FilterLang.Token.Basic
import FilterLang.Token.Filter
import FilterLang.Token.Indexer
import FilterLang.Token.Ordering
import FilterLang.Toml.Basic
import FilterLang.Toml.Draft
import FilterLang.Toml.Reading
import FilterLang.Toml.Scalars
import FilterLang.Toml.Strings
import FilterLang.Uuid.Basic
import FilterLang.Uuid.Reading
import FilterLang.Validity
import FilterLang.Value.Basic
import FilterLang.Value.Coercion
import FilterLang.Value.Node
import FilterLang.Proofs.Predicate.Meaning
import FilterLang.Proofs.Uuid.Writing
import FilterLang.Proofs.Sql.Rendering
import FilterLang.Proofs.Token.Resumption
import FilterLang.Proofs.Expr.Guarded
import FilterLang.Proofs.Predicate.Redrawing
import FilterLang.Proofs.Predicate.Guarded
import FilterLang.Proofs.Predicate.Parentheses
import FilterLang.Proofs.Predicate.Nulls
import FilterLang.Proofs.Predicate.Selection
import FilterLang.Proofs.Number.Writing
import FilterLang.Proofs.Sql.Alike
import FilterLang.Proofs.Sql.Framing
import FilterLang.Proofs.Predicate.Validity
import FilterLang.Proofs.Order.Validity
import FilterLang.Proofs.Predicate.Elements
import FilterLang.Proofs.Predicate.Rebuilding
import FilterLang.Proofs.Predicate.Unmapped
import FilterLang.Proofs.Predicate.HopGuards
import FilterLang.Proofs.Predicate.Complements
import FilterLang.Proofs.Predicate.Keys
import FilterLang.Proofs.Sql.Acceptance
import FilterLang.Proofs.Grid.Paging
import FilterLang.Proofs.Sql.Never
import FilterLang.Proofs.Predicate.Choices
import FilterLang.Proofs.Text.Lowercase
import FilterLang.Proofs.Predicate.CaseFolding
import FilterLang.Proofs.Number.Interval
import FilterLang.Proofs.Number.Shortest
import FilterLang.Proofs.Number.PlainForm
import FilterLang.Proofs.Value.Entries
import FilterLang.Proofs.Predicate.Merging
import FilterLang.Proofs.Value.Reading
import FilterLang.Proofs.Value.Order
import FilterLang.Proofs.StableSort
import FilterLang.Proofs.Order.Comparison
import FilterLang.Proofs.Order.Stability
import FilterLang.Proofs.Order.Blocks
import FilterLang.Proofs.Calendar.Reading
import FilterLang.Proofs.Uuid.Reading
import FilterLang.Proofs.Value.Writing
import FilterLang.Proofs.Value.Dates
import FilterLang.Proofs.Grid.Limits
import FilterLang.Proofs.Token.Pieces
import FilterLang.Proofs.Token.Symbols
import FilterLang.Proofs.Expr.Embedding
import FilterLang.Proofs.Token.Spacing
import FilterLang.Proofs.Order.Correspondence
import FilterLang.Proofs.Path.Grammar
import FilterLang.Proofs.History
import FilterLang.Proofs.Operator.Commands
import FilterLang.Proofs.Mapper.Changes
import FilterLang.Proofs.Positions
