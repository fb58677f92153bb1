import Switchboard.Backend.Call
import Switchboard.Backend.Reply
import Switchboard.Backend.Script
import Switchboard.Bus
import Switchboard.Catalog.Action
import Switchboard.Catalog.Config
import Switchboard.Catalog.Display
import Switchboard.Catalog.Row
import Switchboard.Client.Basic
import Switchboard.Client.Step
import Switchboard.Configuration.Basic
import Switchboard.Configuration.EnvFile
import Switchboard.Configuration.LogFilter
import Switchboard.Configuration.LogFilter.Pattern
import Switchboard.Configuration.LogFilter.Value
import Switchboard.Connection.State
import Switchboard.Connection.Store
import Switchboard.Event
import Switchboard.Failure
import Switchboard.Hub
import Switchboard.Instant
import Switchboard.Json.Basic
import Switchboard.Json.Path
import Switchboard.Json.Text
import Switchboard.Json.Token
import Switchboard.Json.Tree
import Switchboard.KeyMap
import Switchboard.Number.Double
import Switchboard.Number.Shortest
import Switchboard.Record.Decoder
import Switchboard.Record.Fault
import Switchboard.Record.Shape
import Switchboard.Registry.State
import Switchboard.Registry.Store
import Switchboard.Rehearsal.Basic
import Switchboard.Rehearsal.Run
import Switchboard.Server.Auth
import Switchboard.Server.Definition
import Switchboard.Server.Installation
import Switchboard.Server.Status
import Switchboard.Server.Transport
import Switchboard.Settings.Access
import Switchboard.Settings.File
import Switchboard.Settings.Memory
import Switchboard.Settings.Rehearsal
import Switchboard.Settings.State
import Switchboard.Settings.Store
import Switchboard.Text.Case
import Switchboard.Text.CaseTable
import Switchboard.Text.ClassTable
import Switchboard.Text.Literal
import Switchboard.Turn
import Switchboard.Uuid
import Switchboard.Proofs.Connection.Records
import Switchboard.Proofs.Connection.Convergence
import Switchboard.Proofs.Connection.Countdown
import Switchboard.Proofs.Connection.Binding
import Switchboard.Proofs.Connection.Loading
import Switchboard.Proofs.Latest
import Switchboard.Proofs.Registry.Loads
import Switchboard.Proofs.Registry.Installed
import Switchboard.Proofs.Registry.InTime
import Switchboard.Proofs.Json
import Switchboard.Proofs.Settings.Backed
import Switchboard.Proofs.Settings.Failing
import Switchboard.Proofs.Settings.Overlap
import Switchboard.Proofs.Settings.Session
import Switchboard.Proofs.Catalog.Merge
import Switchboard.Proofs.Catalog.Order
import Switchboard.Proofs.Catalog.Display
import Switchboard.Proofs.Json.Compact
import Switchboard.Proofs.Json.Pretty
import Switchboard.Proofs.Json.Path
import Switchboard.Proofs.Record.Reads
import Switchboard.Proofs.Server.Definition
import Switchboard.Proofs.Catalog.Snapshot
import Switchboard.Proofs.Mark
import Switchboard.Proofs.Connection.Pending
import Switchboard.Proofs.Registry.Pending
import Switchboard.Proofs.Registry.Name
import Switchboard.Proofs.Registry.Alike
import Switchboard.Proofs.Registry.Mutation
import Switchboard.Proofs.Catalog.Page
import Switchboard.Proofs.Registry.Page
import Switchboard.Proofs.Hub
import Switchboard.Proofs.Client.Moments
import Switchboard.Proofs.Client.Delivery
import Switchboard.Proofs.Catalog.Secrecy
import Switchboard.Proofs.Instant
import Switchboard.Proofs.Json.Settled
import Switchboard.Proofs.Record.Yields
import Switchboard.Proofs.Event
import Switchboard.Proofs.Catalog.Config
import Switchboard.Proofs.Server.Installation
import Switchboard.Proofs.Wire
import Switchboard.Proofs.Bus.Attempts
import Switchboard.Proofs.Bus.Losses
import Switchboard.Proofs.Client.Dispatches
import Switchboard.Proofs.Client.Beside
import Switchboard.Proofs.Client.Pump
import Switchboard.Proofs.Losses
import Switchboard.Proofs.Rehearsal
import Switchboard.Proofs.Client.Ownership
import Switchboard.Proofs.Client.Listeners
import Switchboard.Proofs.Text.Case
import Switchboard.Proofs.Text.Decimal
import Switchboard.Proofs.Catalog.Search
import Switchboard.Proofs.Settings.Rollback
import Switchboard.Proofs.Settings.File
import Switchboard.Proofs.Configuration
