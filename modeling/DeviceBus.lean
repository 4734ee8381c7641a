import DeviceBus.Attach
import DeviceBus.Bytes
import DeviceBus.Cli
import DeviceBus.Cli.Arguments
import DeviceBus.Cli.Inspect
import DeviceBus.Cli.Outcome
import DeviceBus.Cli.Run
import DeviceBus.Cli.Scan
import DeviceBus.Config
import DeviceBus.Controller
import DeviceBus.Device
import DeviceBus.Device.Drive
import DeviceBus.Device.Object
import DeviceBus.Device.Probe
import DeviceBus.Device.Ram
import DeviceBus.Element
import DeviceBus.Emulator
import DeviceBus.Emulator.Demo
import DeviceBus.Emulator.Scripted
import DeviceBus.Energy
import DeviceBus.Hardware
import DeviceBus.Ident
import DeviceBus.Json.Basic
import DeviceBus.Json.Decode
import DeviceBus.Json.Parser
import DeviceBus.Json.Printer
import DeviceBus.Json.Token
import DeviceBus.Machine
import DeviceBus.Main
import DeviceBus.Message
import DeviceBus.Message.Frame
import DeviceBus.Message.Payload
import DeviceBus.Proofs.Attachment
import DeviceBus.Proofs.Binding
import DeviceBus.Proofs.Controller
import DeviceBus.Proofs.Freshness
import DeviceBus.Proofs.Journal
import DeviceBus.Proofs.Listing
import DeviceBus.Proofs.Machine.Devices
import DeviceBus.Proofs.Machine.Loads
import DeviceBus.Proofs.Machine.Outlook
import DeviceBus.Proofs.Machine.Steps
import DeviceBus.Proofs.Machine.Touches
import DeviceBus.Proofs.Mirror
import DeviceBus.Proofs.Network
import DeviceBus.Proofs.Ownership
import DeviceBus.Proofs.Readiness
import DeviceBus.Proofs.Rescan
import DeviceBus.Proofs.Tenure
import DeviceBus.Proofs.Topology.Claims
import DeviceBus.Proofs.Topology.Locality
import DeviceBus.Proofs.Topology.Sight
import DeviceBus.Proofs.Topology.Walk
import DeviceBus.Proofs.Worker
import DeviceBus.Proofs.World
import DeviceBus.Record
import DeviceBus.Scan
import DeviceBus.Scene
import DeviceBus.Scene.Reader
import DeviceBus.Table
import DeviceBus.Terminal
import DeviceBus.Text.Number
import DeviceBus.Text.Quoted
import DeviceBus.Text.Shown
import DeviceBus.Text.WellFormed
import DeviceBus.Topology
import DeviceBus.View
import DeviceBus.Worker
import DeviceBus.World
import DeviceBus.Proofs.Machine.Charts
import DeviceBus.Proofs.Charts
import DeviceBus.Proofs.Handover
import DeviceBus.Proofs.Accounting
import DeviceBus.Proofs.Message.Stream
import DeviceBus.Proofs.Persistence
import DeviceBus.Proofs.RunStates
import DeviceBus.Proofs.Emulation
import DeviceBus.Proofs.Topology.Alerts
import DeviceBus.Proofs.Enrolment
import DeviceBus.Proofs.Alerts
import DeviceBus.Proofs.Settling
import DeviceBus.Proofs.Faults
import DeviceBus.Proofs.Topology.Edges
import DeviceBus.Proofs.Edges
import DeviceBus.Proofs.Machine.Slices
import DeviceBus.Proofs.Machine.Rest
import DeviceBus.Proofs.Touches
import DeviceBus.Proofs.Machine.Media
import DeviceBus.Proofs.Media
import DeviceBus.Proofs.Barriers
import DeviceBus.Proofs.Observers
import DeviceBus.Proofs.Disposal
import DeviceBus.Proofs.Machine.Upkeep
import DeviceBus.Proofs.Restoration
import DeviceBus.Proofs.Machine.Replay
import DeviceBus.Proofs.Relisting
import DeviceBus.Proofs.Machine.Suspension
import DeviceBus.Proofs.Suspension
import DeviceBus.Proofs.Addressing
import DeviceBus.Proofs.Topology.Reach
import DeviceBus.Proofs.Traversal
import DeviceBus.Proofs.Membership
import DeviceBus.Proofs.Atomicity
import DeviceBus.Proofs.Coherence
import DeviceBus.Proofs.Notices
import DeviceBus.Proofs.Limits
import DeviceBus.Proofs.Changes
import DeviceBus.Proofs.Machine.Terms
import DeviceBus.Proofs.Wiring
import DeviceBus.Proofs.Fitting
import DeviceBus.Proofs.Terminal
import DeviceBus.Proofs.Grants
import DeviceBus.Proofs.Sections
import DeviceBus.Proofs.Message.Spelling
import DeviceBus.Proofs.Message.Pieces
import DeviceBus.Proofs.Message.Relay
import DeviceBus.Proofs.Stores
import DeviceBus.Proofs.Storage
import DeviceBus.Proofs.Topology.Neighbours
import DeviceBus.Proofs.Scene
import DeviceBus.Proofs.Echo
import DeviceBus.Proofs.Registry
