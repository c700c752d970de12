import DataMart.Batch
import DataMart.Calendar.Date
import DataMart.Calendar.Timestamp
import DataMart.CommandLine.Arguments
import DataMart.CommandLine.Run
import DataMart.CommandLine.Table
import DataMart.Config
import DataMart.Decimal.Layout
import DataMart.Decimal.Reading
import DataMart.Decimal.Shortest
import DataMart.Enrich
import DataMart.Extract.Connector
import DataMart.Extract.Memory
import DataMart.Extract.Playback
import DataMart.Extract.Source
import DataMart.Fault
import DataMart.Flatten
import DataMart.Json.Basic
import DataMart.Json.Printer
import DataMart.Json.Reader
import DataMart.Json.Token
import DataMart.Main
import DataMart.Pipeline
import DataMart.Postgres.Cells
import DataMart.Postgres.Cursor
import DataMart.Postgres.Types
import DataMart.Query.Answer
import DataMart.Query.Evaluate
import DataMart.Query.Expression
import DataMart.Query.Plan
import DataMart.Query.Prepared
import DataMart.Query.Report
import DataMart.Query.Request
import DataMart.Query.Scope
import DataMart.Query.Select
import DataMart.Query.Statement
import DataMart.Query.Total
import DataMart.Record
import DataMart.Store.Cell
import DataMart.Store.Connection
import DataMart.Store.Files
import DataMart.Store.Mart
import DataMart.Store.Writer
import DataMart.Text.Blank
import DataMart.Text.Joined
import DataMart.Text.Quoted
import DataMart.Toml.Document
import DataMart.Toml.Scalar
import DataMart.Value
import DataMart.Word
import DataMart.Proofs.Extract.Drain
import DataMart.Proofs.Extract.Sequence
import DataMart.Proofs.Extract.Answers
import DataMart.Proofs.Extract.Memory
import DataMart.Proofs.Query.Pieces
import DataMart.Proofs.Store.Frame
import DataMart.Proofs.Store.AllOrNothing
import DataMart.Proofs.Store.Locality
import DataMart.Proofs.Store.Statements
import DataMart.Proofs.Load.Course
import DataMart.Proofs.Load.Progress
import DataMart.Proofs.Load.Calls
import DataMart.Proofs.Load.Attempt
import DataMart.Proofs.Load.Views
import DataMart.Proofs.Load.Run
import DataMart.Proofs.Load.Memory
import DataMart.Proofs.Query.Binding
import DataMart.Proofs.Query.Shape
import DataMart.Proofs.Query.Unambiguous
import DataMart.Proofs.Json.Reading
import DataMart.Proofs.Json.Entries
import DataMart.Proofs.Json.Parts
import DataMart.Proofs.Json.RoundTrip
import DataMart.Proofs.Query.RequestText
import DataMart.Proofs.Json.Ensures
import DataMart.Proofs.Load.Effect
import DataMart.Proofs.Load.Independence
import DataMart.Proofs.Load.Rerun
import DataMart.Proofs.Load.Interference
import DataMart.Proofs.Extract.Chunks
import DataMart.Proofs.Load.Release
import DataMart.Proofs.Load.Conversation
import DataMart.Proofs.Query.Columns
import DataMart.Proofs.Store.Cells
import DataMart.Proofs.Store.ReadBack
import DataMart.Proofs.Checks
import DataMart.Proofs.Query.Acceptance
import DataMart.Proofs.Query.Aliases
import DataMart.Proofs.Calendar.Chronology
import DataMart.Proofs.Calendar.TextOrder
import DataMart.Proofs.Enrichment
import DataMart.Proofs.Text.Letters
import DataMart.Proofs.Text.Bytes
import DataMart.Proofs.Text.Trimming
import DataMart.Proofs.Query.Names
import DataMart.Proofs.Query.Derived
import DataMart.Proofs.Floating.Nearest
import DataMart.Proofs.Query.BoundValues
import DataMart.Proofs.Enrichment.Pages
import DataMart.Proofs.Postgres.Decoding
import DataMart.Proofs.Store.Declarations
import DataMart.Proofs.Configuration
import DataMart.Proofs.CommandLine.Stages
import DataMart.Proofs.CommandLine.Usable
import DataMart.Proofs.Load.Presence
import DataMart.Proofs.Store.Files
import DataMart.Proofs.CommandLine.Fresh
import DataMart.Proofs.RecordText
import DataMart.Proofs.Postgres.Terminators
import DataMart.Proofs.Text.Joined
import DataMart.Proofs.CommandLine.Alignment
