import BoardRules.Action
import BoardRules.Ambient
import BoardRules.Board.Change
import BoardRules.Board.Edit
import BoardRules.Board.Event
import BoardRules.Card
import BoardRules.CardOutline
import BoardRules.CascadePool
import BoardRules.CascadeRequest
import BoardRules.Condition
import BoardRules.Decimal.Binary64
import BoardRules.Decimal.Numeral
import BoardRules.Decimal.Rounded
import BoardRules.Decimal.Shortest
import BoardRules.Depth
import BoardRules.Engine.Cascade
import BoardRules.Engine.Events
import BoardRules.Engine.Fault
import BoardRules.Engine.Incident
import BoardRules.Engine.Mailing
import BoardRules.Engine.Perform
import BoardRules.Engine.Run
import BoardRules.Engine.Scheduling
import BoardRules.Engine.Storage
import BoardRules.Engine.World
import BoardRules.Envelope
import BoardRules.EventBus
import BoardRules.FieldKey
import BoardRules.FieldValue
import BoardRules.Http.Command
import BoardRules.Http.Path
import BoardRules.Http.Request
import BoardRules.Http.Route
import BoardRules.Http.Server
import BoardRules.Json.Basic
import BoardRules.Json.Encoding
import BoardRules.Json.Literal
import BoardRules.Json.Portable
import BoardRules.Json.Print
import BoardRules.Json.Read
import BoardRules.Json.Shape
import BoardRules.LogRecord
import BoardRules.Mail
import BoardRules.Moment
import BoardRules.PathLabel
import BoardRules.Proofs.Action.Atomic
import BoardRules.Proofs.Action.Course
import BoardRules.Proofs.Action.Follow
import BoardRules.Proofs.Action.Mail
import BoardRules.Proofs.Action.Plan
import BoardRules.Proofs.Action.Record
import BoardRules.Proofs.Action.Write
import BoardRules.Proofs.Board.Automation
import BoardRules.Proofs.Board.Course
import BoardRules.Proofs.Board.Move
import BoardRules.Proofs.Board.ReadBack
import BoardRules.Proofs.Board.Trace
import BoardRules.Proofs.Cascade.Bound
import BoardRules.Proofs.Cascade.Depth
import BoardRules.Proofs.Cascade.Termination
import BoardRules.Proofs.Cascade.Trace
import BoardRules.Proofs.Cascade.Unfold
import BoardRules.Proofs.CascadePool.Attention
import BoardRules.Proofs.CascadePool.Order
import BoardRules.Proofs.CascadePool.Quiescence
import BoardRules.Proofs.CascadePool.Step
import BoardRules.Proofs.Condition.Operator
import BoardRules.Proofs.Condition.Overflow
import BoardRules.Proofs.Condition.Shared
import BoardRules.Proofs.Condition.Structured
import BoardRules.Proofs.Condition.Verdict
import BoardRules.Proofs.Decimal.Layout
import BoardRules.Proofs.Decimal.Rounding
import BoardRules.Proofs.Decimal.Shortest
import BoardRules.Proofs.Engine.Count
import BoardRules.Proofs.Engine.Exec
import BoardRules.Proofs.Engine.Family
import BoardRules.Proofs.Engine.Ledger
import BoardRules.Proofs.Engine.Mailing
import BoardRules.Proofs.Engine.Reading
import BoardRules.Proofs.Engine.Scheduling
import BoardRules.Proofs.Engine.Sending
import BoardRules.Proofs.Engine.Trace
import BoardRules.Proofs.EventBus
import BoardRules.Proofs.FieldKey
import BoardRules.Proofs.Http.Announcement
import BoardRules.Proofs.Http.Change
import BoardRules.Proofs.Http.Course
import BoardRules.Proofs.Http.Independence
import BoardRules.Proofs.Http.Journal
import BoardRules.Proofs.Json.Number
import BoardRules.Proofs.Json.ReadBack
import BoardRules.Proofs.LogRecord
import BoardRules.Proofs.PathLabel
import BoardRules.Proofs.Reference
import BoardRules.Proofs.Response
import BoardRules.Proofs.Run.Actions
import BoardRules.Proofs.Run.Agreement
import BoardRules.Proofs.Run.Audit
import BoardRules.Proofs.Run.Balance
import BoardRules.Proofs.Run.Break
import BoardRules.Proofs.Run.Commute
import BoardRules.Proofs.Run.Course
import BoardRules.Proofs.Run.Evolution
import BoardRules.Proofs.Run.Execution
import BoardRules.Proofs.Run.Family
import BoardRules.Proofs.Run.Gate
import BoardRules.Proofs.Run.Interruption
import BoardRules.Proofs.Run.Journal
import BoardRules.Proofs.Run.Law
import BoardRules.Proofs.Run.Local
import BoardRules.Proofs.Run.Mails
import BoardRules.Proofs.Run.Moves
import BoardRules.Proofs.Run.OwnCard
import BoardRules.Proofs.Run.Report
import BoardRules.Proofs.Run.Requests
import BoardRules.Proofs.Run.Selection
import BoardRules.Proofs.Run.Trace
import BoardRules.Proofs.Session.Context
import BoardRules.Proofs.Session.Correlation
import BoardRules.Proofs.Session.Counters
import BoardRules.Proofs.Session.Events
import BoardRules.Proofs.Session.Evolution
import BoardRules.Proofs.Session.Fields
import BoardRules.Proofs.Session.History
import BoardRules.Proofs.Store.Board
import BoardRules.Proofs.Store.Change
import BoardRules.Proofs.Store.Evolution
import BoardRules.Proofs.Store.Fields
import BoardRules.Proofs.Store.History
import BoardRules.Proofs.Store.Order
import BoardRules.Proofs.Store.Part
import BoardRules.Proofs.Store.ReadBack
import BoardRules.Proofs.Store.Sound
import BoardRules.Proofs.Store.Touch
import BoardRules.Proofs.Template
import BoardRules.Proofs.Trigger
import BoardRules.Proofs.Uuid
import BoardRules.Proofs.Uuid.Forms
import BoardRules.Schema.Affinity
import BoardRules.Schema.Board
import BoardRules.Schema.Database
import BoardRules.Schema.Migration
import BoardRules.Schema.Revision
import BoardRules.Schema.Statement
import BoardRules.Schema.Table
import BoardRules.Session.Run
import BoardRules.Session.Step
import BoardRules.Settings
import BoardRules.Store.Change
import BoardRules.Store.Query
import BoardRules.Store.Rows
import BoardRules.Store.Tables
import BoardRules.Template
import BoardRules.Text.Blank
import BoardRules.Text.DecimalDigit
import BoardRules.Text.Lowercase
import BoardRules.Text.Percent
import BoardRules.Text.Printable
import BoardRules.Text.Ranges
import BoardRules.Text.Search
import BoardRules.Text.Utf8
import BoardRules.Text.Word
import BoardRules.Tracing
import BoardRules.Trigger
import BoardRules.Url.Basic
import BoardRules.Url.Escape
import BoardRules.Url.Host
import BoardRules.Url.HostCharacter
import BoardRules.Url.Punycode
import BoardRules.Uuid
import BoardRules.Validation
