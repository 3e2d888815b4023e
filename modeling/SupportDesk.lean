import SupportDesk.Agent.Allocation
import SupportDesk.Agent.Basic
import SupportDesk.Agent.Queue
import SupportDesk.Calendar.Clock
import SupportDesk.Calendar.Date
import SupportDesk.Calendar.Duration
import SupportDesk.Calendar.Moment
import SupportDesk.Calendar.TimeOfDay
import SupportDesk.Client.Command
import SupportDesk.Client.Report
import SupportDesk.Client.Session
import SupportDesk.CommandLine.Grammar
import SupportDesk.Host.Address
import SupportDesk.Host.Direction
import SupportDesk.Host.Joiner
import SupportDesk.Host.Mapping
import SupportDesk.Host.Name
import SupportDesk.Host.Punycode
import SupportDesk.Http.Api
import SupportDesk.Http.Exchange
import SupportDesk.Http.MediaType
import SupportDesk.Http.Path
import SupportDesk.Http.Status
import SupportDesk.Http.Url
import SupportDesk.Json.Message
import SupportDesk.Json.Reader
import SupportDesk.Json.Value
import SupportDesk.Json.Writer
import SupportDesk.Main
import SupportDesk.MessagePack.Reader
import SupportDesk.MessagePack.Socket
import SupportDesk.MessagePack.Value
import SupportDesk.MessagePack.Writer
import SupportDesk.Number.Binary64
import SupportDesk.Number.Shortest
import SupportDesk.Pool.Basic
import SupportDesk.Pool.Desk
import SupportDesk.Pool.Router
import SupportDesk.Proofs.Agent.Allocation
import SupportDesk.Proofs.Agent.Batch
import SupportDesk.Proofs.Agent.Capacity
import SupportDesk.Proofs.Agent.Discharge
import SupportDesk.Proofs.Agent.Dispatch
import SupportDesk.Proofs.Agent.Evolution
import SupportDesk.Proofs.Agent.Membership
import SupportDesk.Proofs.Agent.Opening
import SupportDesk.Proofs.Agent.Reserve
import SupportDesk.Proofs.Agent.Slots
import SupportDesk.Proofs.Agent.Turn
import SupportDesk.Proofs.Calendar.Line
import SupportDesk.Proofs.Calendar.Order
import SupportDesk.Proofs.Calendar.Spelling
import SupportDesk.Proofs.Calendar.Window
import SupportDesk.Proofs.Calendar.Written
import SupportDesk.Proofs.Client.Agreement
import SupportDesk.Proofs.Client.Connection
import SupportDesk.Proofs.Client.Report
import SupportDesk.Proofs.Http.Answers
import SupportDesk.Proofs.Http.Spellings
import SupportDesk.Proofs.Json.Canonical
import SupportDesk.Proofs.Json.Messages
import SupportDesk.Proofs.Json.Reads
import SupportDesk.Proofs.Json.Values
import SupportDesk.Proofs.Json.Yields
import SupportDesk.Proofs.MessagePack.Frames
import SupportDesk.Proofs.MessagePack.Reads
import SupportDesk.Proofs.MessagePack.Requests
import SupportDesk.Proofs.Pool.Admission
import SupportDesk.Proofs.Pool.Arrival
import SupportDesk.Proofs.Pool.Boundaries
import SupportDesk.Proofs.Pool.Consistent
import SupportDesk.Proofs.Pool.Course
import SupportDesk.Proofs.Pool.Departure
import SupportDesk.Proofs.Pool.Drain
import SupportDesk.Proofs.Pool.Drained
import SupportDesk.Proofs.Pool.Endings
import SupportDesk.Proofs.Pool.Figures
import SupportDesk.Proofs.Pool.History
import SupportDesk.Proofs.Pool.Ledger
import SupportDesk.Proofs.Pool.Lifetime
import SupportDesk.Proofs.Pool.Limit
import SupportDesk.Proofs.Pool.Listing
import SupportDesk.Proofs.Pool.Moves
import SupportDesk.Proofs.Pool.Occupancy
import SupportDesk.Proofs.Pool.OnePlace
import SupportDesk.Proofs.Pool.Openings
import SupportDesk.Proofs.Pool.Overflow
import SupportDesk.Proofs.Pool.Overstay
import SupportDesk.Proofs.Pool.Reaction
import SupportDesk.Proofs.Pool.Renewal
import SupportDesk.Proofs.Pool.Run
import SupportDesk.Proofs.Pool.Stage
import SupportDesk.Proofs.Pool.Terms
import SupportDesk.Proofs.Session.Backlog
import SupportDesk.Proofs.Session.Expiry
import SupportDesk.Proofs.Session.Id
import SupportDesk.Proofs.Session.Table
import SupportDesk.Proofs.Session.WaitingLine
import SupportDesk.Proofs.Settings.Rules
import SupportDesk.Proofs.Settings.Served
import SupportDesk.Proofs.Settings.Shifts
import SupportDesk.Proofs.Settings.Timeout
import SupportDesk.Proofs.Shift.Anchor
import SupportDesk.Proofs.Shift.Counting
import SupportDesk.Proofs.Shift.Exact
import SupportDesk.Proofs.Shift.Punctual
import SupportDesk.Proofs.Shift.Timer
import SupportDesk.Proofs.Text.Blanks
import SupportDesk.Proofs.Text.Bytes
import SupportDesk.Proofs.Text.Digits
import SupportDesk.Proofs.Wire.Interchange
import SupportDesk.Proofs.Wire.Isolation
import SupportDesk.Proofs.Wire.Reads
import SupportDesk.Proofs.Wire.RoundTrip
import SupportDesk.Service.Error
import SupportDesk.Service.LogDirective
import SupportDesk.Service.LogLevel
import SupportDesk.Service.Startup
import SupportDesk.Session.Backlog
import SupportDesk.Session.Basic
import SupportDesk.Session.Id
import SupportDesk.Session.Store
import SupportDesk.Session.Table
import SupportDesk.Settings.DeskConfig
import SupportDesk.Settings.EnvironmentFile
import SupportDesk.Settings.Error
import SupportDesk.Settings.FilePath
import SupportDesk.Settings.KeyPath
import SupportDesk.Settings.Reading
import SupportDesk.Settings.Source
import SupportDesk.Settings.Value
import SupportDesk.Shift.Schedule
import SupportDesk.Shift.Task
import SupportDesk.Text.Alphanumeric
import SupportDesk.Text.Blank
import SupportDesk.Text.ByteOrderMark
import SupportDesk.Text.CaseProperty
import SupportDesk.Text.CharMap
import SupportDesk.Text.CharSet
import SupportDesk.Text.Composed
import SupportDesk.Text.Digits
import SupportDesk.Text.LowerCase
import SupportDesk.Text.Mark
import SupportDesk.Text.Printable
import SupportDesk.Text.Quoted
import SupportDesk.Toml.DatetimeTable
import SupportDesk.Toml.Reader
import SupportDesk.Toml.Scalar
import SupportDesk.Toml.Table
import SupportDesk.Toml.Value
import SupportDesk.Wire.DecodeError
import SupportDesk.Wire.Message
import SupportDesk.Wire.Tagged
