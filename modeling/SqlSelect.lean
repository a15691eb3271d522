import SqlSelect.Calendar
import SqlSelect.Column
import SqlSelect.Condition
import SqlSelect.Config
import SqlSelect.Config.Search
import SqlSelect.Decimal.Binary64
import SqlSelect.Decimal.Layout
import SqlSelect.Decimal.Shortest
import SqlSelect.Dialect
import SqlSelect.Engine.Admission
import SqlSelect.Engine.Cast
import SqlSelect.Engine.Cell
import SqlSelect.Engine.Comparable
import SqlSelect.Engine.Database
import SqlSelect.Engine.Executor
import SqlSelect.Engine.Filter
import SqlSelect.Engine.Pool
import SqlSelect.Engine.Reading
import SqlSelect.Engine.Reference
import SqlSelect.Engine.Table
import SqlSelect.Error
import SqlSelect.Event
import SqlSelect.Json.Basic
import SqlSelect.Json.Printer
import SqlSelect.Json.Reader
import SqlSelect.Operation
import SqlSelect.Operator
import SqlSelect.Proofs.Condition.Comparisons
import SqlSelect.Proofs.Condition.Growth
import SqlSelect.Proofs.Condition.Operator
import SqlSelect.Proofs.Condition.Pruning
import SqlSelect.Proofs.Dialect.Identifier
import SqlSelect.Proofs.Dialect.Literal
import SqlSelect.Proofs.Dialect.Quoting
import SqlSelect.Proofs.Dialect.Token
import SqlSelect.Proofs.Engine.Connections
import SqlSelect.Proofs.Engine.Conversion
import SqlSelect.Proofs.Engine.Executor
import SqlSelect.Proofs.Engine.Row
import SqlSelect.Proofs.Engine.Slots
import SqlSelect.Proofs.Json.Fields
import SqlSelect.Proofs.Query.Base
import SqlSelect.Proofs.Query.Decoding
import SqlSelect.Proofs.Query.Failure
import SqlSelect.Proofs.Query.Grouping
import SqlSelect.Proofs.Query.Growth
import SqlSelect.Proofs.Query.Incremental
import SqlSelect.Proofs.Query.Introduction
import SqlSelect.Proofs.Query.Log
import SqlSelect.Proofs.Query.Lookup
import SqlSelect.Proofs.Query.Naming
import SqlSelect.Proofs.Query.Order
import SqlSelect.Proofs.Query.Reference
import SqlSelect.Proofs.Query.Renumbering
import SqlSelect.Proofs.Query.Repetition
import SqlSelect.Proofs.Query.Resolution
import SqlSelect.Proofs.Query.Run
import SqlSelect.Proofs.Query.SelectList
import SqlSelect.Proofs.Query.Step
import SqlSelect.Proofs.Query.Tables
import SqlSelect.Proofs.Query.Wildcard
import SqlSelect.Proofs.Registry.Alias
import SqlSelect.Proofs.Registry.Answer
import SqlSelect.Proofs.Registry.Bare
import SqlSelect.Proofs.Registry.ColumnReference
import SqlSelect.Proofs.Registry.Disambiguation
import SqlSelect.Proofs.Registry.Failure
import SqlSelect.Proofs.Registry.Grammar
import SqlSelect.Proofs.Registry.Holder
import SqlSelect.Proofs.Registry.Log
import SqlSelect.Proofs.Registry.Multiplicity
import SqlSelect.Proofs.Registry.Numbering
import SqlSelect.Proofs.Registry.Provenance
import SqlSelect.Proofs.Registry.Reference
import SqlSelect.Proofs.Registry.Renumbering
import SqlSelect.Proofs.Registry.Request
import SqlSelect.Proofs.Registry.RootTable
import SqlSelect.Proofs.Registry.Run
import SqlSelect.Proofs.Registry.Stability
import SqlSelect.Proofs.Session.Delivery
import SqlSelect.Proofs.Statement.Accumulation
import SqlSelect.Proofs.Statement.Appending
import SqlSelect.Proofs.Statement.Checked
import SqlSelect.Proofs.Statement.Decoding
import SqlSelect.Proofs.Statement.Extension
import SqlSelect.Proofs.Statement.Outline
import SqlSelect.Proofs.Statement.Pruning
import SqlSelect.Proofs.Statement.Reference
import SqlSelect.Proofs.Statement.Renumbering
import SqlSelect.Proofs.Statement.Tokens
import SqlSelect.Proofs.Statement.Written
import SqlSelect.Proofs.Text.Case
import SqlSelect.Proofs.Text.Decodable
import SqlSelect.Proofs.Text.Keyword
import SqlSelect.Proofs.Text.Partition
import SqlSelect.Proofs.Text.Strip
import SqlSelect.Proofs.Text.Word
import SqlSelect.Query
import SqlSelect.Registry
import SqlSelect.ResultSet
import SqlSelect.SelectList
import SqlSelect.Session
import SqlSelect.Statement
import SqlSelect.Statement.Render
import SqlSelect.Table
import SqlSelect.Text.Ascii
import SqlSelect.Text.Blank
import SqlSelect.Text.Digits
import SqlSelect.Text.Quoted
import SqlSelect.Text.Unseen
import SqlSelect.Text.Visible
import SqlSelect.Toml.Basic
import SqlSelect.Toml.Line
import SqlSelect.Toml.Moment
import SqlSelect.Toml.Number
import SqlSelect.Toml.Reader
import SqlSelect.Toml.Text
