import HostedStreams.Deliveries
import HostedStreams.Dispatch.Calls
import HostedStreams.Dispatch.Error
import HostedStreams.Dispatch.Mailbox
import HostedStreams.Dispatch.Registry
import HostedStreams.Dispatch.Worker
import HostedStreams.Event
import HostedStreams.Event.Codec
import HostedStreams.Firing
import HostedStreams.Fixture
import HostedStreams.HandlerTable
import HostedStreams.Host
import HostedStreams.Host.Recording
import HostedStreams.Identifier
import HostedStreams.Json
import HostedStreams.Json.Printer
import HostedStreams.Json.Reader
import HostedStreams.Json.Record
import HostedStreams.Logging.Filter
import HostedStreams.Logging.Format
import HostedStreams.Logging.Install
import HostedStreams.Logging.Span
import HostedStreams.Metrics
import HostedStreams.Pattern
import HostedStreams.Pattern.Reader
import HostedStreams.Pattern.Set
import HostedStreams.Range
import HostedStreams.Scenario.Perform
import HostedStreams.Scenario.Scene
import HostedStreams.Scenario.Stage
import HostedStreams.Scenario.Step
import HostedStreams.Settings
import HostedStreams.Settings.Codec
import HostedStreams.Settings.Environment
import HostedStreams.Source
import HostedStreams.Stream.Config
import HostedStreams.Stream.Description
import HostedStreams.Stream.Error
import HostedStreams.Stream.Lifecycle
import HostedStreams.Stream.PendingReads
import HostedStreams.Stream.State
import HostedStreams.Stream.Status
import HostedStreams.Stream.Transfer
import HostedStreams.System
import HostedStreams.Text.Alphabetic
import HostedStreams.Text.Alphanumeric
import HostedStreams.Text.Blank
import HostedStreams.Text.Bytes
import HostedStreams.Text.CodeRanges
import HostedStreams.Text.Concealed
import HostedStreams.Text.Decimal
import HostedStreams.Text.Quoted
import HostedStreams.Text.Rounding
import HostedStreams.Text.Shortest
import HostedStreams.Variable
import HostedStreams.Proofs.Conduct
import HostedStreams.Proofs.Frame
import HostedStreams.Proofs.Steps
import HostedStreams.Proofs.Upheld
import HostedStreams.Proofs.Histories
import HostedStreams.Proofs.Lives
import HostedStreams.Proofs.Passes
import HostedStreams.Proofs.Coverage
import HostedStreams.Proofs.Remainders
import HostedStreams.Proofs.Reads
import HostedStreams.Proofs.Deliveries
import HostedStreams.Proofs.Calm
import HostedStreams.Proofs.Teardown
import HostedStreams.Proofs.Ledger
import HostedStreams.Proofs.Roster
import HostedStreams.Proofs.Books
import HostedStreams.Proofs.Endurance
import HostedStreams.Proofs.Tended
import HostedStreams.Proofs.Shutdown
import HostedStreams.Proofs.Outcome
import HostedStreams.Proofs.Lenient
import HostedStreams.Proofs.Desk
import HostedStreams.Proofs.Queue
import HostedStreams.Proofs.Conservation
import HostedStreams.Proofs.Settlement
import HostedStreams.Proofs.Forthright
import HostedStreams.Proofs.Tidiness
import HostedStreams.Proofs.Recording
import HostedStreams.Proofs.Alike
import HostedStreams.Proofs.Shaken
import HostedStreams.Proofs.Sheltered
import HostedStreams.Proofs.Isolation
import HostedStreams.Proofs.Legs
import HostedStreams.Proofs.Chores
import HostedStreams.Proofs.Ebb
import HostedStreams.Proofs.Closing
import HostedStreams.Proofs.Bides
import HostedStreams.Proofs.Launched
import HostedStreams.Proofs.Discipline
import HostedStreams.Proofs.Refusal
import HostedStreams.Proofs.Enrolment
import HostedStreams.Proofs.Undisturbed
import HostedStreams.Proofs.Indoors
import HostedStreams.Proofs.Shelving
import HostedStreams.Proofs.Deferral
import HostedStreams.Proofs.Overrides
import HostedStreams.Proofs.Startup
import HostedStreams.Proofs.Facets
import HostedStreams.Proofs.Multicast
import HostedStreams.Proofs.Attendance
import HostedStreams.Proofs.Dialogue
import HostedStreams.Proofs.Service
import HostedStreams.Proofs.Errands
import HostedStreams.Proofs.Tickets
import HostedStreams.Proofs.Shifts
import HostedStreams.Proofs.Invocations
import HostedStreams.Proofs.Barrier
import HostedStreams.Proofs.Rollback
import HostedStreams.Proofs.Twins
import HostedStreams.Proofs.Minding
import HostedStreams.Proofs.Turns
import HostedStreams.Proofs.Independence
import HostedStreams.Proofs.Closes
import HostedStreams.Proofs.Concessions
import HostedStreams.Proofs.Transfers
import HostedStreams.Proofs.Foretold
import HostedStreams.Proofs.Documents
import HostedStreams.Proofs.Records
import HostedStreams.Proofs.EventDocuments
import HostedStreams.Proofs.SettingsDocuments
import HostedStreams.Proofs.Numbering
import HostedStreams.Proofs.Detachment
import HostedStreams.Proofs.Uploads
import HostedStreams.Proofs.Dropping
import HostedStreams.Proofs.Numerals
import HostedStreams.Proofs.Formats
import HostedStreams.Proofs.Routing
import HostedStreams.Proofs.Requests
