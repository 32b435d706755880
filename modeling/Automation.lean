import Automation.Action
import Automation.ActionError
import Automation.Broadcast
import Automation.Calendar.Clock
import Automation.Calendar.Date
import Automation.Calendar.Reading
import Automation.Calendar.Span
import Automation.Calendar.Timestamp
import Automation.Condition
import Automation.Cron.Expression
import Automation.Cron.Next
import Automation.Display
import Automation.Document.Checked
import Automation.Document.Fault
import Automation.Document.Field
import Automation.Document.Reading
import Automation.Document.Writing
import Automation.Effect
import Automation.Engine.Basic
import Automation.Engine.Dispatcher
import Automation.Engine.Requests
import Automation.Engine.Scheduler
import Automation.EntityKind
import Automation.Failure
import Automation.Http.Answer
import Automation.Http.Route
import Automation.Json.Basic
import Automation.Json.Described
import Automation.Json.Printer
import Automation.Json.Reader
import Automation.Mail
import Automation.Number.Double
import Automation.Number.Reading
import Automation.Number.Shortest
import Automation.Number.Word
import Automation.Path
import Automation.Process.Basic
import Automation.Process.Fiber
import Automation.Proofs.Run.Requests
import Automation.Proofs.Run.Visits
import Automation.Race
import Automation.Records
import Automation.Run.Context
import Automation.Run.Execution
import Automation.Run.Sequence
import Automation.Run.Task
import Automation.Run.Trace
import Automation.Schedule
import Automation.Service
import Automation.Settings.Basic
import Automation.Settings.Reading
import Automation.Span
import Automation.Table.Basic
import Automation.Table.Row
import Automation.Template
import Automation.Text.Blank
import Automation.Text.Case
import Automation.Text.Digit
import Automation.Text.Printable
import Automation.Text.Quoted
import Automation.Text.Search
import Automation.Text.Utf8
import Automation.Trigger
import Automation.Webhook
import Automation.Workflow
import Automation.World
import Automation.Zone.Africa
import Automation.Zone.Alias
import Automation.Zone.America
import Automation.Zone.Asia
import Automation.Zone.Basic
import Automation.Zone.Entry
import Automation.Zone.Europe
import Automation.Zone.Named
import Automation.Zone.Ocean
import Automation.Proofs.Run.Cancellation
import Automation.Proofs.Engine.Steps
import Automation.Proofs.Run.Recording
import Automation.Proofs.Engine.Counts
import Automation.Proofs.Engine.Settling
import Automation.Proofs.Engine.Operations
import Automation.Proofs.Calendar.Date
import Automation.Proofs.Calendar.Legible
import Automation.Proofs.Calendar.Wire
import Automation.Proofs.Document.Actions
import Automation.Proofs.Document.Workflow
import Automation.Proofs.Table.Transactions
import Automation.Proofs.Document.Written
import Automation.Proofs.Table.Saving
import Automation.Proofs.Calendar.Ahead
import Automation.Proofs.Run.Scheduled
import Automation.Proofs.Engine.Beats
import Automation.Proofs.Engine.Turns
import Automation.Proofs.Engine.Scheduling
import Automation.Proofs.Engine.Rescheduling
import Automation.Proofs.Run.Forward
import Automation.Proofs.Engine.Driving
import Automation.Proofs.Engine.Queue
import Automation.Proofs.Engine.Resting
import Automation.Proofs.Engine.Flights
import Automation.Proofs.Engine.Landing
import Automation.Proofs.Engine.Dispatching
import Automation.Proofs.Table.Deletion
import Automation.Proofs.Records.Updates
import Automation.Proofs.Records.Confinement
import Automation.Proofs.Process.Alike
import Automation.Proofs.Table.Shown
import Automation.Proofs.Engine.Isolation
import Automation.Proofs.Engine.Histories
import Automation.Proofs.Http.Isolation
import Automation.Proofs.Database.Decoding
import Automation.Proofs.Calendar.Readings
import Automation.Proofs.Zone.Windows
import Automation.Proofs.Zone.Readback
import Automation.Proofs.Calendar.Showing
import Automation.Proofs.Calendar.Fixed
import Automation.Proofs.Calendar.Accepted
import Automation.Proofs.Table.Waiting
import Automation.Proofs.Zone.Rounds
import Automation.Proofs.Calendar.Daily
import Automation.Proofs.Cron.Fields
import Automation.Proofs.Cron.Search
import Automation.Proofs.Cron.Runs
import Automation.Proofs.Run.Quiet
import Automation.Proofs.Template.Cut
import Automation.Proofs.Template.Agreement
import Automation.Proofs.Number.Rounding
import Automation.Proofs.Number.Decimals
import Automation.Proofs.Json.Numbers
import Automation.Proofs.Json.Strings
import Automation.Proofs.Json.Readback
import Automation.Proofs.Template.Escaped
import Automation.Proofs.Template.Bodies
import Automation.Proofs.Run.Refusals
import Automation.Proofs.Run.Parts
import Automation.Proofs.Template.Blank
import Automation.Proofs.Run.Targets
import Automation.Proofs.Number.Nearest
import Automation.Proofs.Condition.Integers
import Automation.Proofs.Json.Equality
import Automation.Proofs.Condition.Agreement
import Automation.Proofs.Condition.Absent
import Automation.Proofs.Http.Acceptance
import Automation.Proofs.Broadcast.Messages
import Automation.Proofs.Path.Places
