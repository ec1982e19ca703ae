import DetectorSim.Builtin.Collection
import DetectorSim.Builtin.Deposition
import DetectorSim.Builtin.Digitizer
import DetectorSim.Builtin.Payload
import DetectorSim.Builtin.Propagation
import DetectorSim.Builtin.Sampling
import DetectorSim.Builtin.Workspace
import DetectorSim.Builtin.Writer
import DetectorSim.CommandLine.Arguments
import DetectorSim.CommandLine.LogFilter
import DetectorSim.CommandLine.Program
import DetectorSim.Config.Line
import DetectorSim.Config.Reader
import DetectorSim.Config.Section
import DetectorSim.Config.Value
import DetectorSim.Error
import DetectorSim.FileStore
import DetectorSim.Gate
import DetectorSim.Geometry
import DetectorSim.Hook
import DetectorSim.Host
import DetectorSim.Identity
import DetectorSim.Json
import DetectorSim.Log
import DetectorSim.Main
import DetectorSim.Messaging.Delegate
import DetectorSim.Messaging.Message
import DetectorSim.Messaging.Messenger
import DetectorSim.Messaging.Store
import DetectorSim.Module.Basic
import DetectorSim.Module.Event
import DetectorSim.Module.Instance
import DetectorSim.Module.Manager
import DetectorSim.Module.Registry
import DetectorSim.Module.Target
import DetectorSim.Number.Binary64
import DetectorSim.Number.Decimal
import DetectorSim.Number.Integer
import DetectorSim.Number.Shortest
import DetectorSim.Outcome
import DetectorSim.Path
import DetectorSim.Random
import DetectorSim.Rehearsal.Bench
import DetectorSim.Rehearsal.Channel
import DetectorSim.Rehearsal.Role
import DetectorSim.Routine
import DetectorSim.Run.Pool
import DetectorSim.Run.Report
import DetectorSim.Run.Serial
import DetectorSim.Settings
import DetectorSim.Simulation
import DetectorSim.Table
import DetectorSim.Text.Blank
import DetectorSim.Text.Coded
import DetectorSim.Text.Instant
import DetectorSim.Text.Lines
import DetectorSim.Text.Literal
import DetectorSim.Text.Quoted
import DetectorSim.Proofs.Pool.History
import DetectorSim.Proofs.Pool.Course
import DetectorSim.Proofs.Pool.Order
import DetectorSim.Proofs.Pool.Turns
import DetectorSim.Proofs.Pool.Progress
import DetectorSim.Proofs.Pool.Failure
import DetectorSim.Proofs.Pool.Ending
import DetectorSim.Proofs.Pool.Independence
import DetectorSim.Proofs.Pool.Ledger
import DetectorSim.Proofs.Pool.Loyalty
import DetectorSim.Proofs.Pool.Refinement
import DetectorSim.Proofs.Builtin.Confinement
import DetectorSim.Proofs.Messaging.Places
import DetectorSim.Proofs.Messaging.Wiring
import DetectorSim.Proofs.Messaging.Delivery
import DetectorSim.Proofs.Module.Loading
import DetectorSim.Proofs.Module.Precedence
import DetectorSim.Proofs.Module.Binding
import DetectorSim.Proofs.Module.Tidiness
import DetectorSim.Proofs.Pool.Census
import DetectorSim.Proofs.Module.Running
import DetectorSim.Proofs.Module.Ambiguity
import DetectorSim.Proofs.Messaging.Receipts
import DetectorSim.Proofs.Module.Gating
import DetectorSim.Proofs.Text.Comment
import DetectorSim.Proofs.Config.Grammar
import DetectorSim.Proofs.Text.Lines
import DetectorSim.Proofs.Config.Parsing
import DetectorSim.Proofs.Config.Assignment
import DetectorSim.Proofs.Config.Rendering
import DetectorSim.Proofs.Config.Header
import DetectorSim.Proofs.Config.Layout
import DetectorSim.Proofs.Config.Placement
import DetectorSim.Proofs.Config.Listing
import DetectorSim.Proofs.Text.Trimming
import DetectorSim.Proofs.Pool.Itinerary
import DetectorSim.Proofs.Module.Lifecycle
import DetectorSim.Proofs.Module.Repetition
import DetectorSim.Proofs.Builtin.Lines
import DetectorSim.Proofs.Messaging.Topics
import DetectorSim.Proofs.Module.Conduct
import DetectorSim.Proofs.Builtin.Crew
import DetectorSim.Proofs.Builtin.Exchange
import DetectorSim.Proofs.Builtin.Chain
import DetectorSim.Proofs.Builtin.Decision
import DetectorSim.Proofs.Text.Bytes
import DetectorSim.Proofs.Table
import DetectorSim.Proofs.Messaging.Handout
import DetectorSim.Proofs.Module.Remnant
import DetectorSim.Proofs.Module.Sparing
import DetectorSim.Proofs.Builtin.Counting
import DetectorSim.Proofs.Builtin.Balance
import DetectorSim.Proofs.Builtin.Privacy
import DetectorSim.Proofs.Builtin.Totals
import DetectorSim.Proofs.Module.Raising
import DetectorSim.Proofs.Module.Accounting
import DetectorSim.Proofs.Module.Attribution
import DetectorSim.Proofs.Gate.Gathering
import DetectorSim.Proofs.Gate.Hall
import DetectorSim.Proofs.Gate.Regulation
import DetectorSim.Proofs.Messaging.Removal
import DetectorSim.Proofs.Messaging.Kinds
import DetectorSim.Proofs.Messaging.Forecast
import DetectorSim.Proofs.Module.Unread
import DetectorSim.Proofs.Module.Thrift
import DetectorSim.Proofs.Pool.Lockstep
import DetectorSim.Proofs.Module.Caution
import DetectorSim.Proofs.Geometry
import DetectorSim.Proofs.Module.Enabling
import DetectorSim.Proofs.Builtin.Grouping
import DetectorSim.Proofs.Config.Paths
import DetectorSim.Proofs.Random
import DetectorSim.Proofs.Module.Selection
import DetectorSim.Proofs.Module.Registration
import DetectorSim.Proofs.Module.Naming
import DetectorSim.Proofs.Config.Editing
import DetectorSim.Proofs.Log
import DetectorSim.Proofs.Module.Signing
