import TimeReports.Address.Basic
import TimeReports.Address.Context
import TimeReports.Address.Direction
import TimeReports.Address.DirectionTable
import TimeReports.Address.Host
import TimeReports.Address.JoiningTable
import TimeReports.Address.Label
import TimeReports.Address.LabelTable
import TimeReports.Address.Name
import TimeReports.Address.Punycode
import TimeReports.Calendar.Date
import TimeReports.Calendar.Iso
import TimeReports.Calendar.Range
import TimeReports.Command.Arguments
import TimeReports.Command.Basic
import TimeReports.Console
import TimeReports.Display.Fields
import TimeReports.Display.Markup
import TimeReports.Display.Plain
import TimeReports.Display.Render
import TimeReports.Display.Tree
import TimeReports.Document.Blocks
import TimeReports.Document.Frozen
import TimeReports.Document.Lines
import TimeReports.Execution.Basic
import TimeReports.Execution.Desk
import TimeReports.Execution.Freeze
import TimeReports.Fault
import TimeReports.Harvest.Client
import TimeReports.Harvest.Listing
import TimeReports.Harvest.Program
import TimeReports.Harvest.Wire
import TimeReports.Json.Bytes
import TimeReports.Json.Reader
import TimeReports.Json.Shown
import TimeReports.Json.Value
import TimeReports.Json.Writer
import TimeReports.Main
import TimeReports.Number.Binary
import TimeReports.Number.Double
import TimeReports.Number.Extended
import TimeReports.Number.Power
import TimeReports.Number.Read
import TimeReports.Number.Round
import TimeReports.Number.Written
import TimeReports.Proofs.Alignment
import TimeReports.Proofs.Answers
import TimeReports.Proofs.Authorisation
import TimeReports.Proofs.Blame
import TimeReports.Proofs.Budgets
import TimeReports.Proofs.Columns
import TimeReports.Proofs.Confinement
import TimeReports.Proofs.Console
import TimeReports.Proofs.DayCounts
import TimeReports.Proofs.DaySets
import TimeReports.Proofs.Disturbance
import TimeReports.Proofs.Documents
import TimeReports.Proofs.Doubles
import TimeReports.Proofs.Duplicates
import TimeReports.Proofs.EmptyReports
import TimeReports.Proofs.Entities
import TimeReports.Proofs.Escapes
import TimeReports.Proofs.Executions
import TimeReports.Proofs.ExplicitForm
import TimeReports.Proofs.Exports
import TimeReports.Proofs.FailedWrites
import TimeReports.Proofs.Fences
import TimeReports.Proofs.Fetching
import TimeReports.Proofs.Finding
import TimeReports.Proofs.Following
import TimeReports.Proofs.Forms
import TimeReports.Proofs.Freezing
import TimeReports.Proofs.FrozenText
import TimeReports.Proofs.Gathering
import TimeReports.Proofs.Grammar
import TimeReports.Proofs.Interleaving
import TimeReports.Proofs.Labels
import TimeReports.Proofs.Ledger
import TimeReports.Proofs.Lines
import TimeReports.Proofs.Listings
import TimeReports.Proofs.Literals
import TimeReports.Proofs.LiveRuns
import TimeReports.Proofs.Magnitudes
import TimeReports.Proofs.Markup
import TimeReports.Proofs.Meanwhile
import TimeReports.Proofs.Moments
import TimeReports.Proofs.NameCells
import TimeReports.Proofs.Names
import TimeReports.Proofs.Nesting
import TimeReports.Proofs.NeutralNames
import TimeReports.Proofs.Numerals
import TimeReports.Proofs.Occurrences
import TimeReports.Proofs.OneLine
import TimeReports.Proofs.Operations
import TimeReports.Proofs.Outcomes
import TimeReports.Proofs.OverlappingStarts
import TimeReports.Proofs.Ownership
import TimeReports.Proofs.Pages
import TimeReports.Proofs.Paging
import TimeReports.Proofs.Paths
import TimeReports.Proofs.Percentages
import TimeReports.Proofs.Picker
import TimeReports.Proofs.PollingIntervals
import TimeReports.Proofs.QueryLines
import TimeReports.Proofs.Rankings
import TimeReports.Proofs.Reassembly
import TimeReports.Proofs.Records
import TimeReports.Proofs.Recovery
import TimeReports.Proofs.RenderLog
import TimeReports.Proofs.Requests
import TimeReports.Proofs.Rereading
import TimeReports.Proofs.Rounding
import TimeReports.Proofs.RouteFailures
import TimeReports.Proofs.Runs
import TimeReports.Proofs.Scanning
import TimeReports.Proofs.Servers
import TimeReports.Proofs.Shares
import TimeReports.Proofs.Sorting
import TimeReports.Proofs.Spellings
import TimeReports.Proofs.Splices
import TimeReports.Proofs.Splitting
import TimeReports.Proofs.StalePolls
import TimeReports.Proofs.StaticFlag
import TimeReports.Proofs.Substitution
import TimeReports.Proofs.Surroundings
import TimeReports.Proofs.TimerAnswers
import TimeReports.Proofs.Timers
import TimeReports.Proofs.Totals
import TimeReports.Proofs.Transactions
import TimeReports.Proofs.Utf8
import TimeReports.Proofs.Worksheets
import TimeReports.Proofs.WrongKeys
import TimeReports.Query.Basic
import TimeReports.Query.Fault
import TimeReports.Query.Range
import TimeReports.Record.Basic
import TimeReports.Record.DateField
import TimeReports.Record.Fault
import TimeReports.Record.Scalar
import TimeReports.Report.Totals
import TimeReports.Report.View
import TimeReports.RequestLog.Basic
import TimeReports.RequestLog.Column
import TimeReports.RequestLog.Datum
import TimeReports.Service.Answer
import TimeReports.Service.Handle
import TimeReports.Service.Handlers
import TimeReports.Service.Incoming
import TimeReports.Service.Render
import TimeReports.Session.Basic
import TimeReports.Session.Poller
import TimeReports.Settings
import TimeReports.Text.Base64
import TimeReports.Text.Basic
import TimeReports.Text.Blank
import TimeReports.Text.CaseTable
import TimeReports.Text.CodePoint
import TimeReports.Text.Composed
import TimeReports.Text.CompositionTable
import TimeReports.Text.Digit
import TimeReports.Text.Encoding
import TimeReports.Text.Escape
import TimeReports.Text.Form
import TimeReports.Text.LowerCase
import TimeReports.Text.MarkTable
import TimeReports.Text.Quoted
import TimeReports.Text.Unencodable
import TimeReports.Text.Unprintable
import TimeReports.Text.UpperCase
import TimeReports.Vault.Basic
import TimeReports.Vault.Path
import TimeReports.Vault.Storage
import TimeReports.Workbook.Cell
import TimeReports.Workbook.Report
