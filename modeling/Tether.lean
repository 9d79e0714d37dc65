import Tether.Agent.Config
import Tether.Agent.Error
import Tether.Agent.Factory
import Tether.Agent.Handle
import Tether.Agent.Health
import Tether.Agent.Liveness
import Tether.Agent.Probe
import Tether.Agent.Supervisor
import Tether.Config.Args
import Tether.Config.Draws
import Tether.Config.Error
import Tether.Config.File
import Tether.Config.Settings
import Tether.Control.Client
import Tether.Control.Error
import Tether.Control.Exchange
import Tether.Control.Key
import Tether.Control.Response
import Tether.Control.Source
import Tether.Direct.Config
import Tether.Direct.Forward
import Tether.Direct.Network
import Tether.Direct.Startup
import Tether.Disk.Tree
import Tether.Http.Bytes
import Tether.Http.Chunk
import Tether.Http.Fault
import Tether.Http.Head
import Tether.Http.Request
import Tether.Http.Responder
import Tether.Http.Target
import Tether.Json.Value
import Tether.Log
import Tether.Main
import Tether.Net.Channel
import Tether.Net.Duplex
import Tether.Net.Endpoint
import Tether.Net.Fault
import Tether.Net.Host
import Tether.Net.Ip
import Tether.Overlay.Error
import Tether.Overlay.Options
import Tether.Overlay.Routing
import Tether.Overlay.Status
import Tether.Program.Filter
import Tether.Program.Launch
import Tether.Program.Report
import Tether.Proofs.Config.Clock
import Tether.Proofs.Config.Merging
import Tether.Proofs.Config.Precedence
import Tether.Proofs.Config.Starting
import Tether.Proofs.Control.Endpoint
import Tether.Proofs.Control.Response
import Tether.Proofs.Direct.Loop
import Tether.Proofs.Direct.Notation
import Tether.Proofs.Direct.Sockets
import Tether.Proofs.Direct.Startup
import Tether.Proofs.Direct.Use
import Tether.Proofs.Finality
import Tether.Proofs.Json.Grammar
import Tether.Proofs.Json.Reader
import Tether.Proofs.Keys.Bench
import Tether.Proofs.Keys.Ledger
import Tether.Proofs.Keys.SingleUse
import Tether.Proofs.Keys.Timetable
import Tether.Proofs.Lists
import Tether.Proofs.Liveness.Bench
import Tether.Proofs.Liveness.Endpoint
import Tether.Proofs.Liveness.Loop
import Tether.Proofs.Net.Dialing
import Tether.Proofs.Openness
import Tether.Proofs.Relay.Book
import Tether.Proofs.Relay.Confluence
import Tether.Proofs.Relay.Count
import Tether.Proofs.Relay.Crossing
import Tether.Proofs.Relay.Deed
import Tether.Proofs.Relay.Desk
import Tether.Proofs.Relay.Integrity
import Tether.Proofs.Relay.Lane
import Tether.Proofs.Relay.Order
import Tether.Proofs.Relay.Passage
import Tether.Proofs.Relay.Scripted
import Tether.Proofs.Relay.Solo
import Tether.Proofs.Relay.Station
import Tether.Proofs.Relay.Teardown
import Tether.Proofs.Relay.Traffic
import Tether.Proofs.Secrecy.Bench
import Tether.Proofs.Secrecy.Credentials
import Tether.Proofs.Secrecy.Naming
import Tether.Proofs.Secrecy.Network
import Tether.Proofs.Secrecy.Origin
import Tether.Proofs.Secrecy.Pursuit
import Tether.Proofs.Secrecy.Supervisor
import Tether.Proofs.Sim.Building
import Tether.Proofs.Sim.Calm
import Tether.Proofs.Sim.Delivery
import Tether.Proofs.Sim.Events
import Tether.Proofs.Sim.Queues
import Tether.Proofs.Steps
import Tether.Proofs.Supervisor.Consistency
import Tether.Proofs.Supervisor.Demand
import Tether.Proofs.Supervisor.Healing
import Tether.Proofs.Supervisor.Holding
import Tether.Proofs.Supervisor.Moment
import Tether.Proofs.Supervisor.Publication
import Tether.Proofs.Supervisor.Reach
import Tether.Proofs.Supervisor.Requests
import Tether.Proofs.Supervisor.Run
import Tether.Proofs.Supervisor.Schedule
import Tether.Proofs.Supervisor.Settled
import Tether.Proofs.Supervisor.Shape
import Tether.Proofs.Supervisor.SingleSession
import Tether.Proofs.Supervisor.Standing
import Tether.Proofs.Supervisor.Stopping
import Tether.Proofs.Supervisor.Timer
import Tether.Proofs.Text.Bytes
import Tether.Proofs.Text.Numeral
import Tether.Proofs.Text.Trimming
import Tether.Proofs.Url.Host
import Tether.Proofs.Url.Ink
import Tether.Proofs.Url.Origin
import Tether.Proofs.Url.Path
import Tether.Relay.Board
import Tether.Relay.Copy
import Tether.Relay.Handler
import Tether.Relay.Pipe
import Tether.Relay.Script
import Tether.Relay.Stats
import Tether.Relay.Tracker
import Tether.Sim.Bench
import Tether.Sim.Network
import Tether.Sim.Service
import Tether.Text.Blank
import Tether.Text.Decimal
import Tether.Text.Numeral
import Tether.Text.Quoted
import Tether.Text.Record
import Tether.Text.Unseen
import Tether.Time.Span
import Tether.Url.Basic
import Tether.Url.Domain
import Tether.Url.Fault
import Tether.Url.Host
import Tether.Url.Percent
import Tether.Url.Punycode
import Tether.Yaml.Document
import Tether.Yaml.Fault
import Tether.Yaml.Layout
import Tether.Yaml.Scalar
import Tether.Yaml.Spot
import Tether.Yaml.Token
import Tether.Yaml.Value
