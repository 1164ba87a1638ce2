import GardenAdmin.Api.Client
import GardenAdmin.Api.Exchange
import GardenAdmin.Api.Message
import GardenAdmin.Api.Target
import GardenAdmin.Command.Arguments
import GardenAdmin.Command.Basic
import GardenAdmin.Command.Edits
import GardenAdmin.Command.Grammar
import GardenAdmin.Command.Offline
import GardenAdmin.Command.Remote
import GardenAdmin.Command.Run
import GardenAdmin.Command.Watch
import GardenAdmin.Events.Callback
import GardenAdmin.Events.Event
import GardenAdmin.Events.Frame
import GardenAdmin.Events.Framing
import GardenAdmin.Events.Host
import GardenAdmin.Events.Link
import GardenAdmin.Events.Registry
import GardenAdmin.Events.Work
import GardenAdmin.Feedback.Alert
import GardenAdmin.Feedback.ConfigErrors
import GardenAdmin.Feedback.ServerError
import GardenAdmin.Garden.ConnectionType
import GardenAdmin.Garden.Form
import GardenAdmin.Garden.Http
import GardenAdmin.Garden.Record
import GardenAdmin.Garden.Repair
import GardenAdmin.Garden.Stomp
import GardenAdmin.Garden.Validation
import GardenAdmin.Json.Doc
import GardenAdmin.Json.Double
import GardenAdmin.Json.Number
import GardenAdmin.Json.Printer
import GardenAdmin.Json.Reader
import GardenAdmin.Json.Shortest
import GardenAdmin.Json.Value
import GardenAdmin.Main
import GardenAdmin.Panel
import GardenAdmin.Program
import GardenAdmin.Proofs.Api.Client
import GardenAdmin.Proofs.Command.Configure
import GardenAdmin.Proofs.Events.Calls
import GardenAdmin.Proofs.Events.Delivery
import GardenAdmin.Proofs.Events.Dispatch
import GardenAdmin.Proofs.Events.Links
import GardenAdmin.Proofs.Events.Orderly
import GardenAdmin.Proofs.Events.Registrations
import GardenAdmin.Proofs.Events.ReportedState
import GardenAdmin.Proofs.Events.Run
import GardenAdmin.Proofs.Events.SingleLink
import GardenAdmin.Proofs.Feedback.ConfigErrors
import GardenAdmin.Proofs.Garden.Validation
import GardenAdmin.Proofs.Panel
import GardenAdmin.Proofs.Text.Bytes
import GardenAdmin.Proofs.Text.Trim
import GardenAdmin.Report
import GardenAdmin.Settings.Basic
import GardenAdmin.Settings.Layers
import GardenAdmin.Settings.LogFilter
import GardenAdmin.SortedMap
import GardenAdmin.Text.Alphanumeric
import GardenAdmin.Text.Blank
import GardenAdmin.Text.Columns
import GardenAdmin.Text.Cut
import GardenAdmin.Text.Integer
import GardenAdmin.Text.Percent
import GardenAdmin.Text.Quoted
import GardenAdmin.Text.Upper
import GardenAdmin.Wire.Decoder
import GardenAdmin.Wire.Layout
import GardenAdmin.Proofs.Garden.RoundTrip
import GardenAdmin.Proofs.Feedback.Merge
import GardenAdmin.Proofs.Feedback.Complaints
import GardenAdmin.Proofs.Feedback.Leaves
import GardenAdmin.Proofs.Feedback.Grouping
import GardenAdmin.Proofs.Feedback.Response
import GardenAdmin.Proofs.Feedback.Wire
import GardenAdmin.Proofs.Garden.Rejection
import GardenAdmin.Proofs.Panel.Preparation
import GardenAdmin.Proofs.Panel.History
import GardenAdmin.Proofs.Panel.Locality
import GardenAdmin.Proofs.Garden.Repair
import GardenAdmin.Proofs.Panel.Repaired
import GardenAdmin.Proofs.Panel.Resubmission
import GardenAdmin.Proofs.Garden.Settled
import GardenAdmin.Proofs.Api.Target
import GardenAdmin.Proofs.Command.Addresses
import GardenAdmin.Proofs.Json.Literal
import GardenAdmin.Proofs.Json.Printed
import GardenAdmin.Proofs.Json.Canonical
import GardenAdmin.Proofs.Wire.Layout
import GardenAdmin.Proofs.Garden.Wire
import GardenAdmin.Proofs.Wire.RoundTrip
import GardenAdmin.Proofs.Garden.Identity
import GardenAdmin.Proofs.Panel.Following
import GardenAdmin.Proofs.Panel.Frozen
import GardenAdmin.Proofs.Panel.Submitted
import GardenAdmin.Proofs.Command.Check
import GardenAdmin.Proofs.Events.Subscriptions
import GardenAdmin.Proofs.Garden.Submission
import GardenAdmin.Proofs.Garden.Notes
import GardenAdmin.Proofs.Json.Merged
import GardenAdmin.Proofs.Wire.Room
import GardenAdmin.Proofs.Wire.Field
import GardenAdmin.Proofs.Events.Payload
import GardenAdmin.Proofs.Garden.Room
import GardenAdmin.Proofs.Panel.Updates
import GardenAdmin.Proofs.Json.Spelled
import GardenAdmin.Proofs.Json.Part
import GardenAdmin.Proofs.Garden.Flaws
import GardenAdmin.Proofs.Garden.Pruning
import GardenAdmin.Proofs.Garden.Port
import GardenAdmin.Proofs.Garden.HeaderRows
import GardenAdmin.Proofs.Wire.Alike
import GardenAdmin.Proofs.Wire.Slot
import GardenAdmin.Proofs.Json.Integer
import GardenAdmin.Proofs.Text.Decimal
import GardenAdmin.Proofs.Command.Edits
import GardenAdmin.Proofs.Command.Watch
import GardenAdmin.Proofs.Text.Query
import GardenAdmin.Proofs.Settings.EventsUrl
import GardenAdmin.Proofs.Settings.Layers
import GardenAdmin.Proofs.Api.Names
import GardenAdmin.Proofs.Command.Show
import GardenAdmin.Proofs.Report.Table
import GardenAdmin.Proofs.Events.Waiting
import GardenAdmin.Proofs.Events.Forwarding
import GardenAdmin.Proofs.Events.Completion
import GardenAdmin.Proofs.Events.HostRun
import GardenAdmin.Proofs.Events.Feed
