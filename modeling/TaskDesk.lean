import TaskDesk.Api.Call
import TaskDesk.Api.Error
import TaskDesk.Api.Event
import TaskDesk.Api.Flight
import TaskDesk.Api.Request
import TaskDesk.Api.Response
import TaskDesk.Api.Retry
import TaskDesk.Api.Transport
import TaskDesk.Api.Vault
import TaskDesk.Api.World
import TaskDesk.Clock.Agenda
import TaskDesk.Clock.Calendar
import TaskDesk.Clock.Poller
import TaskDesk.Clock.Timeline
import TaskDesk.CommandLine.Arguments
import TaskDesk.CommandLine.Command
import TaskDesk.Desk.Basic
import TaskDesk.Desk.Failure
import TaskDesk.Desk.Follow
import TaskDesk.Desk.Program
import TaskDesk.Desk.Run
import TaskDesk.Files.Disk
import TaskDesk.Files.Path
import TaskDesk.Files.Replace
import TaskDesk.Files.Secrets
import TaskDesk.Generation
import TaskDesk.Json.Document
import TaskDesk.Json.Number
import TaskDesk.Json.Printer
import TaskDesk.Json.Record
import TaskDesk.Json.Token
import TaskDesk.Json.Value
import TaskDesk.Main
import TaskDesk.Media
import TaskDesk.Number.Binary64
import TaskDesk.Number.Shortest
import TaskDesk.Proofs.Api.Addressing
import TaskDesk.Proofs.Api.Explaining
import TaskDesk.Proofs.Api.Listing
import TaskDesk.Proofs.Api.Rejection
import TaskDesk.Proofs.Api.Retrying
import TaskDesk.Proofs.Api.Submitting
import TaskDesk.Proofs.Clock.Agenda
import TaskDesk.Proofs.Clock.Discipline
import TaskDesk.Proofs.Clock.Poller
import TaskDesk.Proofs.Clock.Turn
import TaskDesk.Proofs.Desk.Verifying
import TaskDesk.Proofs.Files.Atomicity
import TaskDesk.Proofs.Files.Disk
import TaskDesk.Proofs.Files.Forgetting
import TaskDesk.Proofs.Files.Growth
import TaskDesk.Proofs.Files.Keeping
import TaskDesk.Proofs.Files.Replace
import TaskDesk.Proofs.Files.Secrets
import TaskDesk.Proofs.Json.Record
import TaskDesk.Proofs.Media.Inline
import TaskDesk.Proofs.Media.Matches
import TaskDesk.Proofs.Media.VideoLink
import TaskDesk.Proofs.Media.Visible
import TaskDesk.Proofs.Number.Decimal
import TaskDesk.Proofs.Number.Rounding
import TaskDesk.Proofs.Number.Shortest
import TaskDesk.Proofs.Number.Whole
import TaskDesk.Proofs.Ron.Quote
import TaskDesk.Proofs.Ron.Record
import TaskDesk.Proofs.Screen.Lines
import TaskDesk.Proofs.Session.Account
import TaskDesk.Proofs.Session.Clearing
import TaskDesk.Proofs.Session.Closing
import TaskDesk.Proofs.Session.Course
import TaskDesk.Proofs.Session.Exchange
import TaskDesk.Proofs.Session.Processing
import TaskDesk.Proofs.Session.Silence
import TaskDesk.Proofs.Session.Step
import TaskDesk.Proofs.Session.Tale
import TaskDesk.Proofs.Session.Telling
import TaskDesk.Proofs.Session.Timer
import TaskDesk.Proofs.Session.Turn
import TaskDesk.Proofs.Stream.Delivery
import TaskDesk.Proofs.Stream.Framing
import TaskDesk.Proofs.Stream.Pieces
import TaskDesk.Proofs.Task.Flat
import TaskDesk.Proofs.Task.Wire
import TaskDesk.Proofs.Text.Base64
import TaskDesk.Proofs.Text.Blank
import TaskDesk.Proofs.Text.ByteSize
import TaskDesk.Proofs.Text.Numeral
import TaskDesk.Proofs.Text.Piece
import TaskDesk.Proofs.Text.Utf8
import TaskDesk.Proofs.View.Announcing
import TaskDesk.Proofs.View.Demand
import TaskDesk.Proofs.View.Drawing
import TaskDesk.Proofs.View.GroupControl
import TaskDesk.Proofs.View.Leafing
import TaskDesk.Proofs.View.Loading
import TaskDesk.Proofs.View.Marking
import TaskDesk.Proofs.View.Overtaking
import TaskDesk.Proofs.View.Paging
import TaskDesk.Proofs.View.Polling
import TaskDesk.Proofs.View.Position
import TaskDesk.Proofs.View.Reaction
import TaskDesk.Proofs.View.Reply
import TaskDesk.Proofs.View.Reported
import TaskDesk.Proofs.View.Run
import TaskDesk.Proofs.View.Selection
import TaskDesk.Proofs.View.Slice
import TaskDesk.Proofs.View.Stepping
import TaskDesk.Proofs.Watch.Course
import TaskDesk.Proofs.Watch.Turn
import TaskDesk.Ron.Blank
import TaskDesk.Ron.Lexeme
import TaskDesk.Ron.Number
import TaskDesk.Ron.Record
import TaskDesk.Screen.List
import TaskDesk.Screen.Printer
import TaskDesk.Screen.Task
import TaskDesk.Session.Basic
import TaskDesk.Session.Run
import TaskDesk.Session.Source
import TaskDesk.Settings
import TaskDesk.Stream.Sse
import TaskDesk.Stream.Update
import TaskDesk.Task.Basic
import TaskDesk.Task.Kind
import TaskDesk.Task.Status
import TaskDesk.Task.Summary
import TaskDesk.Task.Wire
import TaskDesk.Text.Base64
import TaskDesk.Text.Blank
import TaskDesk.Text.ByteSize
import TaskDesk.Text.Canonical
import TaskDesk.Text.Combining
import TaskDesk.Text.Composite
import TaskDesk.Text.Hex
import TaskDesk.Text.Identifier
import TaskDesk.Text.Ranges
import TaskDesk.Text.Scan
import TaskDesk.Text.Unprintable
import TaskDesk.Text.Utf8
import TaskDesk.Url.Basic
import TaskDesk.Url.Direction
import TaskDesk.Url.Folding
import TaskDesk.Url.Host
import TaskDesk.Url.Ip
import TaskDesk.Url.Joining
import TaskDesk.Url.Label
import TaskDesk.Url.Mark
import TaskDesk.Url.Punycode
import TaskDesk.Url.Refused
import TaskDesk.View.Cursor
import TaskDesk.View.Page
import TaskDesk.View.Selection
import TaskDesk.View.State
import TaskDesk.View.Update
import TaskDesk.Watch
