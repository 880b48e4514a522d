import FormScript.Calendar
import FormScript.Command.Basic
import FormScript.Command.Classify
import FormScript.Decimal.Arithmetic
import FormScript.Decimal.Binary64
import FormScript.Decimal.Format
import FormScript.Decimal.Reader
import FormScript.Decimal.Shortest
import FormScript.Dictionary
import FormScript.Export.Artifact
import FormScript.Export.ComputedField
import FormScript.Export.Exporter
import FormScript.Export.Helper
import FormScript.Form.Action
import FormScript.Form.Basic
import FormScript.Json.Basic
import FormScript.Json.Number
import FormScript.Json.Printer
import FormScript.Json.Tree
import FormScript.Main
import FormScript.Page.Address
import FormScript.Page.Bridge
import FormScript.Page.Form
import FormScript.Page.Message
import FormScript.Page.Script
import FormScript.Path
import FormScript.Program.CommandLine
import FormScript.Program.Environment
import FormScript.Program.Execute
import FormScript.Program.Host
import FormScript.Program.World
import FormScript.Proofs.Calendar
import FormScript.Proofs.Command.Dates
import FormScript.Proofs.Command.Rules
import FormScript.Proofs.Command.Session
import FormScript.Proofs.Decimal.Numerals
import FormScript.Proofs.Decimal.Rounding
import FormScript.Proofs.Dictionary
import FormScript.Proofs.Export.ArtifactName
import FormScript.Proofs.Export.Cents
import FormScript.Proofs.Export.CleanValues
import FormScript.Proofs.Export.InfoLines
import FormScript.Proofs.Json.Grammar
import FormScript.Proofs.Json.Layout
import FormScript.Proofs.Json.Numbers
import FormScript.Proofs.Json.Written
import FormScript.Proofs.Page.Faults
import FormScript.Proofs.Page.Line
import FormScript.Proofs.Page.Messages
import FormScript.Proofs.Page.Moves
import FormScript.Proofs.Page.Orphans
import FormScript.Proofs.Page.Reading
import FormScript.Proofs.Page.Refinement
import FormScript.Proofs.Page.Replies
import FormScript.Proofs.Page.Table
import FormScript.Proofs.Page.Template
import FormScript.Proofs.Program.Frame
import FormScript.Proofs.Program.Jobs
import FormScript.Proofs.Program.Persistence
import FormScript.Proofs.Program.Setup
import FormScript.Proofs.Program.World
import FormScript.Proofs.Report.Prediction
import FormScript.Proofs.Report.Rehearsal
import FormScript.Proofs.Run.Accounting
import FormScript.Proofs.Run.Agreement
import FormScript.Proofs.Run.Choices
import FormScript.Proofs.Run.Collisions
import FormScript.Proofs.Run.Coverage
import FormScript.Proofs.Run.Edits
import FormScript.Proofs.Run.Exports
import FormScript.Proofs.Run.History
import FormScript.Proofs.Run.Itinerary
import FormScript.Proofs.Run.Keys
import FormScript.Proofs.Run.Labels
import FormScript.Proofs.Run.Pass
import FormScript.Proofs.Run.Passages
import FormScript.Proofs.Run.Rerun
import FormScript.Proofs.Run.Rows
import FormScript.Proofs.Run.ScriptFaults
import FormScript.Proofs.Run.Subjects
import FormScript.Proofs.Run.Targets
import FormScript.Proofs.Run.Visit
import FormScript.Proofs.Sheet.Address
import FormScript.Proofs.Sheet.Markers
import FormScript.Proofs.Sheet.Order
import FormScript.Proofs.Sheet.Pairing
import FormScript.Proofs.Sheet.Shape
import FormScript.Proofs.Sheet.Steering
import FormScript.Proofs.Store.Fallback
import FormScript.Proofs.Store.FileSystem
import FormScript.Proofs.Store.Reload
import FormScript.Proofs.Store.Saving
import FormScript.Proofs.Store.Workbook
import FormScript.Proofs.Table.Entries
import FormScript.Proofs.Table.Options
import FormScript.Proofs.Table.Titles
import FormScript.Proofs.Text.Numbered
import FormScript.Proofs.Text.Quoted
import FormScript.Proofs.Text.Search
import FormScript.Proofs.Text.Trim
import FormScript.Report.Basic
import FormScript.Report.Inspection
import FormScript.Report.Summary
import FormScript.Run.Dispatch
import FormScript.Run.State
import FormScript.Run.Traversal
import FormScript.Session
import FormScript.Settings.Basic
import FormScript.Settings.Read
import FormScript.Sheet.Address
import FormScript.Sheet.Basic
import FormScript.Sheet.Cell
import FormScript.Sheet.Header
import FormScript.Sheet.Layout
import FormScript.Sheet.Marker
import FormScript.Store.Fallback
import FormScript.Store.FileSystem
import FormScript.Store.Files
import FormScript.Store.Workbook
import FormScript.Table.Options
import FormScript.Table.Titles
import FormScript.Text.Alphanumeric
import FormScript.Text.Blank
import FormScript.Text.Quoted
import FormScript.Text.Search
import FormScript.Text.Styled
import FormScript.Text.Utf8
import FormScript.Text.Word
import FormScript.Text.WordTable
import FormScript.Yaml.BlockScalar
import FormScript.Yaml.Cursor
import FormScript.Yaml.Document
import FormScript.Yaml.Folding
import FormScript.Yaml.Node
import FormScript.Yaml.PlainScalar
import FormScript.Yaml.Property
import FormScript.Yaml.QuotedScalar
import FormScript.Yaml.Stream
import FormScript.Yaml.Token
