import SessionWatch.Classifier.Basic
import SessionWatch.Classifier.Prompt
import SessionWatch.Classifier.Verdict
import SessionWatch.Client.Basic
import SessionWatch.Client.Contact
import SessionWatch.Config.Basic
import SessionWatch.Config.Load
import SessionWatch.Connection.Basic
import SessionWatch.Connection.Intake
import SessionWatch.Connection.Server
import SessionWatch.Connection.Slots
import SessionWatch.Daemon.Basic
import SessionWatch.Decimal.Scaling
import SessionWatch.Decimal.Shortest
import SessionWatch.Feed.Basic
import SessionWatch.Files.Places
import SessionWatch.Files.Replace
import SessionWatch.Files.Tree
import SessionWatch.Hooks.Generate
import SessionWatch.Hooks.Report
import SessionWatch.Hooks.Save
import SessionWatch.Hooks.Settings
import SessionWatch.Json.Fault
import SessionWatch.Json.Printer
import SessionWatch.Json.Reader
import SessionWatch.Json.Scan
import SessionWatch.Json.Skip
import SessionWatch.Json.Value
import SessionWatch.Main
import SessionWatch.Operator.Basic
import SessionWatch.Operator.Listing
import SessionWatch.Process.Basic
import SessionWatch.Process.Host
import SessionWatch.Program.Arguments
import SessionWatch.Program.Run
import SessionWatch.Proofs.Feed.Mailbox
import SessionWatch.Proofs.Roster.Announcement
import SessionWatch.Proofs.Roster.Effect
import SessionWatch.Proofs.Roster.Revision
import SessionWatch.Proofs.Text.Trim
import SessionWatch.Proofs.Turn.MessageText
import SessionWatch.Proofs.Watch.Delivery
import SessionWatch.Proofs.Watch.Replica
import SessionWatch.Proofs.Watch.StaleStop
import SessionWatch.Proofs.Watch.Undo
import SessionWatch.Proofs.Watch.Step
import SessionWatch.Roster.Basic
import SessionWatch.Roster.Change
import SessionWatch.Roster.Request
import SessionWatch.Schema.FromText
import SessionWatch.Schema.FromValue
import SessionWatch.Schema.Shape
import SessionWatch.Schema.Tagged
import SessionWatch.Schema.Write
import SessionWatch.Session.Abilities
import SessionWatch.Session.Basic
import SessionWatch.Session.Todo
import SessionWatch.Shell.Arithmetic
import SessionWatch.Shell.Builtin
import SessionWatch.Shell.Echo
import SessionWatch.Shell.Field
import SessionWatch.Shell.Nesting
import SessionWatch.Shell.Open
import SessionWatch.Shell.Parameter
import SessionWatch.Shell.Pattern
import SessionWatch.Shell.Quote
import SessionWatch.Shell.Run
import SessionWatch.Shell.Script
import SessionWatch.Shell.Start
import SessionWatch.Shell.State
import SessionWatch.Shell.Token
import SessionWatch.Text.Blank
import SessionWatch.Text.CharClass
import SessionWatch.Text.Escape
import SessionWatch.Text.Octet
import SessionWatch.Text.Pieces
import SessionWatch.Text.Printable
import SessionWatch.Text.Quoted
import SessionWatch.Text.Regex
import SessionWatch.Text.Tail
import SessionWatch.Text.Utf8
import SessionWatch.Time.Date
import SessionWatch.Time.Instant
import SessionWatch.Time.Rfc3339
import SessionWatch.Toml.Reader
import SessionWatch.Toml.Scalar
import SessionWatch.Toml.Table
import SessionWatch.Toml.Text
import SessionWatch.Transcript.Entry
import SessionWatch.Transcript.File
import SessionWatch.Transcript.LastReply
import SessionWatch.Turn.End
import SessionWatch.Turn.Question
import SessionWatch.Utility.Awk.Program
import SessionWatch.Utility.Awk.Run
import SessionWatch.Utility.Basic
import SessionWatch.Utility.Catalog
import SessionWatch.Utility.Edit
import SessionWatch.Utility.Encoding
import SessionWatch.Utility.Errand
import SessionWatch.Utility.Excerpt
import SessionWatch.Utility.Number
import SessionWatch.Utility.Place
import SessionWatch.Utility.Printf
import SessionWatch.Utility.Search
import SessionWatch.Utility.Table
import SessionWatch.Utility.Test
import SessionWatch.Watch.Action
import SessionWatch.Watch.Basic
import SessionWatch.Wire.Command
import SessionWatch.Wire.Event
import SessionWatch.Wire.Problem
import SessionWatch.Wire.Reply
import SessionWatch.Proofs.Json.Bytes
import SessionWatch.Proofs.Json.ReadBack
import SessionWatch.Proofs.Schema.ReadBack
import SessionWatch.Proofs.Connection.Framing
import SessionWatch.Proofs.Wire.CommandLine
import SessionWatch.Proofs.Roster.Deed
import SessionWatch.Proofs.Watch.History
import SessionWatch.Proofs.Connection.Course
import SessionWatch.Proofs.Roster.Interference
import SessionWatch.Proofs.Connection.Transcript
import SessionWatch.Proofs.Roster.Mute
import SessionWatch.Proofs.Watch.MuteRecord
import SessionWatch.Proofs.Watch.MuteView
import SessionWatch.Proofs.Connection.Refusal
import SessionWatch.Proofs.Watch.Isolation
import SessionWatch.Proofs.Turn.Resolution
import SessionWatch.Proofs.Json.PassOver
import SessionWatch.Proofs.Schema.TextReading
import SessionWatch.Proofs.Time.Rfc3339
import SessionWatch.Proofs.Wire.OutgoingLine
import SessionWatch.Proofs.Wire.Stated
import SessionWatch.Proofs.Wire.Acceptance
import SessionWatch.Proofs.Connection.Traffic
import SessionWatch.Proofs.Watch.Bounds
import SessionWatch.Proofs.Connection.Ordering
import SessionWatch.Proofs.Shell.Quotation
import SessionWatch.Proofs.Shell.Line
import SessionWatch.Proofs.Shell.Filling
import SessionWatch.Proofs.Hooks.HookLine
import SessionWatch.Proofs.Hooks.HookArguments
import SessionWatch.Proofs.Json.Shortest
import SessionWatch.Proofs.Hooks.UnregisterEcho
import SessionWatch.Proofs.Client.ReplyLine
import SessionWatch.Proofs.Hooks.Harmless
import SessionWatch.Proofs.Turn.PendingTodos
import SessionWatch.Proofs.Text.Lines
import SessionWatch.Proofs.Classifier.VerdictLine
import SessionWatch.Proofs.Json.Passage
import SessionWatch.Proofs.Classifier.WrappedVerdict
import SessionWatch.Proofs.Text.Pieces
import SessionWatch.Proofs.Transcript.Statement
import SessionWatch.Proofs.Transcript.CurrentTurn
import SessionWatch.Proofs.Transcript.UserEvent
import SessionWatch.Proofs.Connection.Chunks
import SessionWatch.Proofs.Transcript.Unreadable
import SessionWatch.Proofs.Shell.Calling
import SessionWatch.Proofs.Hooks.SocketPath
import SessionWatch.Proofs.Json.Pretty
import SessionWatch.Proofs.Schema.PrettyReading
import SessionWatch.Proofs.Connection.Budget
import SessionWatch.Proofs.Hooks.SettingsText
import SessionWatch.Proofs.Files.Put
import SessionWatch.Proofs.Files.Draft
import SessionWatch.Proofs.Hooks.SettingsFile
import SessionWatch.Proofs.Time.Order
import SessionWatch.Proofs.Roster.Listing
import SessionWatch.Proofs.Watch.Listing
import SessionWatch.Proofs.Roster.Tenure
import SessionWatch.Proofs.Roster.Clock
import SessionWatch.Proofs.Watch.Integrity
import SessionWatch.Proofs.Watch.Calendar
