import Telemetry.Config.Basic
import Telemetry.Config.Environment
import Telemetry.Config.HeaderList
import Telemetry.Config.Loading
import Telemetry.Deadline
import Telemetry.Decimal.Layout
import Telemetry.Decimal.Shortest
import Telemetry.Duration
import Telemetry.Endpoint
import Telemetry.Fault
import Telemetry.Hook
import Telemetry.Host
import Telemetry.Log.Context
import Telemetry.Log.Emitter
import Telemetry.Log.Entry
import Telemetry.Log.Event
import Telemetry.Log.Level
import Telemetry.Log.Provider
import Telemetry.Log.Record
import Telemetry.Log.Sharing
import Telemetry.Log.Target
import Telemetry.Main
import Telemetry.Manager.Basic
import Telemetry.Manager.Factory
import Telemetry.Manager.Fleet
import Telemetry.Manager.Lock
import Telemetry.Manager.Pipeline
import Telemetry.Manager.Run
import Telemetry.Metrics.Bridge
import Telemetry.Metrics.Instrument
import Telemetry.Pattern.Basic
import Telemetry.Pattern.Bracket
import Telemetry.Pattern.Escape
import Telemetry.Pattern.Opening
import Telemetry.Pattern.Reader
import Telemetry.Proofs.Config.Loading
import Telemetry.Proofs.Emitter.Containment
import Telemetry.Proofs.Emitter.Contexts
import Telemetry.Proofs.Emitter.Labels
import Telemetry.Proofs.Emitter.Records
import Telemetry.Proofs.Emitter.Sessions
import Telemetry.Proofs.Endpoint.BaseUrl
import Telemetry.Proofs.Endpoint.Normalisation
import Telemetry.Proofs.Endpoint.SignalUrl
import Telemetry.Proofs.Entry.Events
import Telemetry.Proofs.Entry.Parts
import Telemetry.Proofs.Fleet.Sinks
import Telemetry.Proofs.HeaderList.Pieces
import Telemetry.Proofs.HeaderList.Writing
import Telemetry.Proofs.Host.Calls
import Telemetry.Proofs.Host.Closable
import Telemetry.Proofs.Host.Closing
import Telemetry.Proofs.Host.Components
import Telemetry.Proofs.Host.Frame
import Telemetry.Proofs.Host.Guard
import Telemetry.Proofs.Host.Routing
import Telemetry.Proofs.Manager.Building
import Telemetry.Proofs.Manager.Custody
import Telemetry.Proofs.Manager.Lifecycle
import Telemetry.Proofs.Manager.Past
import Telemetry.Proofs.Manager.Replacement
import Telemetry.Proofs.Manager.Series
import Telemetry.Proofs.Pipeline.Steps
import Telemetry.Proofs.Resource.Precedence
import Telemetry.Proofs.Run.Attachment
import Telemetry.Proofs.Run.Bridges
import Telemetry.Proofs.Run.Bystanders
import Telemetry.Proofs.Run.Closing
import Telemetry.Proofs.Run.EventRouting
import Telemetry.Proofs.Run.History
import Telemetry.Proofs.Run.Installation
import Telemetry.Proofs.Run.LifecycleLog
import Telemetry.Proofs.Run.Moments
import Telemetry.Proofs.Run.Ownership
import Telemetry.Proofs.Run.Panics
import Telemetry.Proofs.Run.Readings
import Telemetry.Proofs.Run.Replacement
import Telemetry.Proofs.Run.Soundness
import Telemetry.Proofs.Run.Starts
import Telemetry.Proofs.Run.Teardown
import Telemetry.Proofs.Runner.Accounting
import Telemetry.Proofs.Runner.Startup
import Telemetry.Proofs.Runner.Stopping
import Telemetry.Proofs.Runner.Ticks
import Telemetry.Proofs.Target.Opening
import Telemetry.Proofs.Transport.Admission
import Telemetry.Proofs.Transport.Metadata
import Telemetry.Provider
import Telemetry.Resource
import Telemetry.Runner.Filter
import Telemetry.Runner.Heartbeat
import Telemetry.Runner.Line
import Telemetry.Runner.Program
import Telemetry.Runner.Settings
import Telemetry.SetupError
import Telemetry.Shutdown
import Telemetry.Text.Alphanumeric
import Telemetry.Text.Blank
import Telemetry.Text.Digits
import Telemetry.Text.LowerCase
import Telemetry.Text.Numeral
import Telemetry.Text.Printable
import Telemetry.Text.Quoted
import Telemetry.Text.Ranges
import Telemetry.Text.Slice
import Telemetry.TextMap
import Telemetry.Transport.Exporter
import Telemetry.Transport.Header
import Telemetry.Transport.Uri
import Telemetry.Value
