import GameFleet.Admission
import GameFleet.Console.Exchange
import GameFleet.Console.Packet
import GameFleet.Console.Status
import GameFleet.Control.Dispatch
import GameFleet.Control.Run
import GameFleet.Control.Serve
import GameFleet.Control.State
import GameFleet.Control.Step
import GameFleet.Control.Thread
import GameFleet.Drain
import GameFleet.Failure
import GameFleet.Http.MediaType
import GameFleet.Http.Route
import GameFleet.Http.Target
import GameFleet.Instance
import GameFleet.Instance.Json
import GameFleet.Json.Bytes
import GameFleet.Json.Decode
import GameFleet.Json.Numeral
import GameFleet.Json.Printer
import GameFleet.Json.Tree
import GameFleet.Json.Untyped
import GameFleet.Json.Value
import GameFleet.Main
import GameFleet.Net.Domain
import GameFleet.Net.Domain.Direction
import GameFleet.Net.Domain.Joining
import GameFleet.Net.Domain.Mapping
import GameFleet.Net.Host
import GameFleet.Net.IpAddress
import GameFleet.Net.Punycode
import GameFleet.Net.SocketAddress
import GameFleet.Net.Url
import GameFleet.Number.Double
import GameFleet.Number.Shortest
import GameFleet.Program
import GameFleet.Proofs.Admission.Course
import GameFleet.Proofs.Admission.Outcome
import GameFleet.Proofs.Console.Addresses
import GameFleet.Proofs.Console.Codec
import GameFleet.Proofs.Console.Conversation
import GameFleet.Proofs.Console.Rewriting
import GameFleet.Proofs.Console.Sections
import GameFleet.Proofs.Console.Stream
import GameFleet.Proofs.Console.Transcript
import GameFleet.Proofs.Control.Clock
import GameFleet.Proofs.Control.Frame
import GameFleet.Proofs.Control.Move
import GameFleet.Proofs.Control.Part
import GameFleet.Proofs.Control.Question
import GameFleet.Proofs.Control.Turn
import GameFleet.Proofs.Control.Within
import GameFleet.Proofs.Control.World
import GameFleet.Proofs.Discretion.Alike
import GameFleet.Proofs.Discretion.Reply
import GameFleet.Proofs.Drain.Safe
import GameFleet.Proofs.Drain.Tracking
import GameFleet.Proofs.Fleet.Admission
import GameFleet.Proofs.Fleet.Knowledge
import GameFleet.Proofs.Fleet.LifeCycle
import GameFleet.Proofs.Fleet.OnePlace
import GameFleet.Proofs.Fleet.Order
import GameFleet.Proofs.Fleet.Orphans
import GameFleet.Proofs.Fleet.Reclamation
import GameFleet.Proofs.Fleet.Snapshot
import GameFleet.Proofs.Fleet.Termination
import GameFleet.Proofs.Fleet.Threads
import GameFleet.Proofs.Fleet.Turns
import GameFleet.Proofs.Idle.Countdown
import GameFleet.Proofs.Idle.Cycle
import GameFleet.Proofs.Idle.Duplicates
import GameFleet.Proofs.Idle.Removals
import GameFleet.Proofs.Idle.Scene
import GameFleet.Proofs.Instance.RoundTrip
import GameFleet.Proofs.Json.Records
import GameFleet.Proofs.Json.Written
import GameFleet.Proofs.Number.Whole
import GameFleet.Proofs.Queue.Backoff
import GameFleet.Proofs.Queue.Course
import GameFleet.Proofs.Queue.Deeds
import GameFleet.Proofs.Queue.Faithful
import GameFleet.Proofs.Queue.FirstCome
import GameFleet.Proofs.Queue.Line
import GameFleet.Proofs.Queue.Orders
import GameFleet.Proofs.Queue.Overtaking
import GameFleet.Proofs.Queue.Places
import GameFleet.Proofs.Queue.Precedence
import GameFleet.Proofs.Queue.Running
import GameFleet.Proofs.Queue.Schedule
import GameFleet.Proofs.Queue.Tally
import GameFleet.Proofs.Reclaim.Eviction
import GameFleet.Proofs.Reclaim.Hazards
import GameFleet.Proofs.Reclaim.Isolation
import GameFleet.Proofs.Reclaim.Survey
import GameFleet.Proofs.Registry.Basic
import GameFleet.Proofs.Registry.Behaviour
import GameFleet.Proofs.Registry.Conduct
import GameFleet.Proofs.Registry.Effect
import GameFleet.Proofs.Registry.Ledger
import GameFleet.Proofs.Removal.Attempts
import GameFleet.Proofs.Removal.Owned
import GameFleet.Proofs.Settings.Sound
import GameFleet.Proofs.Settings.Thresholds
import GameFleet.Proofs.Shutdown.Complete
import GameFleet.Proofs.Shutdown.Stages
import GameFleet.Proofs.Shutdown.Undertaking
import GameFleet.Proofs.Store.Rows
import GameFleet.Proofs.Text.Utf8
import GameFleet.Proofs.Time.Calendar
import GameFleet.Proofs.Time.Written
import GameFleet.Proofs.Work.Interleaving
import GameFleet.Proofs.Work.Trace
import GameFleet.Reclaim
import GameFleet.Reclaim.Credit
import GameFleet.Reclaim.Cycle
import GameFleet.Reclaim.Idle
import GameFleet.Reclaim.Lifetime
import GameFleet.Reclaim.Stuck
import GameFleet.Reclaim.Verdict
import GameFleet.Request
import GameFleet.Retry
import GameFleet.Service
import GameFleet.Settings
import GameFleet.Simulation.Journal
import GameFleet.Simulation.Outage
import GameFleet.Simulation.Rows
import GameFleet.Simulation.Scenario
import GameFleet.Simulation.World
import GameFleet.Sorting
import GameFleet.Store.Access
import GameFleet.Store.Command
import GameFleet.Store.Connection
import GameFleet.Store.Failure
import GameFleet.Store.Migration
import GameFleet.Store.Row
import GameFleet.Store.Schema
import GameFleet.Store.Script
import GameFleet.Store.Statement
import GameFleet.Store.Vacant
import GameFleet.Table
import GameFleet.Task
import GameFleet.TaskQueue
import GameFleet.Termination
import GameFleet.Text.Blank
import GameFleet.Text.Category
import GameFleet.Text.Lines
import GameFleet.Text.Numeral
import GameFleet.Text.Percent
import GameFleet.Text.Printable
import GameFleet.Text.Quoted
import GameFleet.Text.Ranges
import GameFleet.Text.Utf8
import GameFleet.Time.Calendar
import GameFleet.Time.Rfc3339
import GameFleet.Time.Timestamp
import GameFleet.Uuid
import GameFleet.Webhook
import GameFleet.Work
