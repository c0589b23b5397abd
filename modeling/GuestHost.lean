import GuestHost.Address
import GuestHost.Artifact
import GuestHost.Bridge
import GuestHost.Capability
import GuestHost.Catalog
import GuestHost.Classifier
import GuestHost.CommandLine
import GuestHost.CommandLine.Command
import GuestHost.CommandLine.Completion
import GuestHost.CommandLine.Help
import GuestHost.Datum
import GuestHost.Decimal.Binary
import GuestHost.Decimal.Shortest
import GuestHost.Dotenv
import GuestHost.Duration
import GuestHost.Engine
import GuestHost.Environment
import GuestHost.EventQueue
import GuestHost.Exchange
import GuestHost.Execution
import GuestHost.Fault
import GuestHost.FileTree
import GuestHost.FrameLoop
import GuestHost.Guest
import GuestHost.Inbox
import GuestHost.Journal
import GuestHost.Json
import GuestHost.Machine
import GuestHost.Main
import GuestHost.Manifest
import GuestHost.Memory
import GuestHost.MemoryView
import GuestHost.Mixer
import GuestHost.Module
import GuestHost.Module.WellFormed
import GuestHost.Outlet
import GuestHost.Path
import GuestHost.Pool
import GuestHost.Prompt
import GuestHost.Recording
import GuestHost.Registry
import GuestHost.Selection
import GuestHost.Session
import GuestHost.Settings
import GuestHost.Settings.Decode
import GuestHost.Settings.Flags
import GuestHost.Settings.Layers
import GuestHost.Settings.Load
import GuestHost.Shelf
import GuestHost.Shelf.Service
import GuestHost.Shelf.Target
import GuestHost.Source
import GuestHost.SystemInterface
import GuestHost.Text.Blank
import GuestHost.Text.Case
import GuestHost.Text.Distance
import GuestHost.Text.Encoding
import GuestHost.Text.Fields
import GuestHost.Text.Figure
import GuestHost.Text.Numeral
import GuestHost.Text.Printable
import GuestHost.Text.Quoted
import GuestHost.Text.Table
import GuestHost.Text.Utf8
import GuestHost.Timestamp
import GuestHost.Toml
import GuestHost.Yaml.Node
import GuestHost.Yaml.Scalar
import GuestHost.Yaml.Spot
import GuestHost.Yaml.Token
import GuestHost.Yaml.Visit
import GuestHost.Proofs.Path.Lexical
import GuestHost.Proofs.Files.Frame
import GuestHost.Proofs.Exchange.Handshake
import GuestHost.Proofs.Exchange.Accounting
import GuestHost.Proofs.Exchange.Delivery
import GuestHost.Proofs.Exchange.Visibility
import GuestHost.Proofs.Memory.Coherence
import GuestHost.Proofs.Memory.Spans
import GuestHost.Proofs.Text.Decoding
import GuestHost.Proofs.Bridge.Polling
import GuestHost.Proofs.Bridge.Refusal
import GuestHost.Proofs.Engine.History
import GuestHost.Proofs.Engine.Ownership
import GuestHost.Proofs.Engine.Tracking
import GuestHost.Proofs.Guest.Confinement
import GuestHost.Proofs.Outlet.Folder
import GuestHost.Proofs.Text.Order
import GuestHost.Proofs.Shelf.Routing
import GuestHost.Proofs.Shelf.Stock
import GuestHost.Proofs.Shelf.Listing
import GuestHost.Proofs.Shelf.Download
import GuestHost.Proofs.Shelf.Agreement
import GuestHost.Proofs.Guest.Execution
import GuestHost.Proofs.Mixer.Voices
import GuestHost.Proofs.Bridge.Voices
import GuestHost.Proofs.Engine.Tenancy
import GuestHost.Proofs.Session.Isolation
import GuestHost.Proofs.Session.Cleanup
import GuestHost.Proofs.Mixer.Sharing
import GuestHost.Proofs.Files.Spelling
import GuestHost.Proofs.Guest.Loading
import GuestHost.Proofs.Inbox.Watch
import GuestHost.Proofs.Inbox.History
import GuestHost.Proofs.Inbox.Discipline
import GuestHost.Proofs.Inbox.Settling
import GuestHost.Proofs.Prompt.Service
import GuestHost.Proofs.Recording.Writing
import GuestHost.Proofs.Recording.Layout
import GuestHost.Proofs.Recording.Payload
import GuestHost.Proofs.Recording.Container
import GuestHost.Proofs.Files.Soundness
import GuestHost.Proofs.Guest.Discovery
import GuestHost.Proofs.Guest.Installed
import GuestHost.Proofs.EventQueue.Levels
import GuestHost.Proofs.Settings.Check
import GuestHost.Proofs.Decimal.Whole
import GuestHost.Proofs.FrameLoop.Beats
import GuestHost.Proofs.Session.Pace
import GuestHost.Proofs.Session.Frames
import GuestHost.Proofs.Session.Tally
import GuestHost.Proofs.Classifier.Extensions
import GuestHost.Proofs.Classifier.FirstField
import GuestHost.Proofs.Outlet.Calls
import GuestHost.Proofs.Outlet.FanOut
import GuestHost.Proofs.Guest.LoneModule
import GuestHost.Proofs.Guest.ModulePath
import GuestHost.Proofs.Pool.Instrument
import GuestHost.Proofs.Pool.Accounting
import GuestHost.Proofs.Decimal.Value
import GuestHost.Proofs.Mixer.Phase
