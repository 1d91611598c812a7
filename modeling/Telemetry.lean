import Telemetry.Action
import Telemetry.Agent.Address
import Telemetry.Agent.Delivery
import Telemetry.Agent.Schedule
import Telemetry.Agent.Source
import Telemetry.Agent.Wire
import Telemetry.Backend
import Telemetry.Backend.Connection
import Telemetry.Backend.SnapshotFile
import Telemetry.Clock
import Telemetry.Command.Agent
import Telemetry.Command.Collector
import Telemetry.Command.Flag
import Telemetry.Command.Line
import Telemetry.Command.Program
import Telemetry.Command.Usage
import Telemetry.Digest.Hmac
import Telemetry.Digest.Sha256
import Telemetry.Disk
import Telemetry.Disk.Path
import Telemetry.Failure
import Telemetry.Filter
import Telemetry.Flush.Scheduler
import Telemetry.Gzip.Codes
import Telemetry.Gzip.Crc
import Telemetry.Gzip.Deflate
import Telemetry.Gzip.Inflate
import Telemetry.Gzip.Member
import Telemetry.Host
import Telemetry.Interval
import Telemetry.Journal
import Telemetry.Json.Decode
import Telemetry.Json.Fault
import Telemetry.Json.Number
import Telemetry.Json.Token
import Telemetry.Json.Tree
import Telemetry.Json.Value
import Telemetry.Lifecycle
import Telemetry.Main
import Telemetry.Metric.Kind
import Telemetry.Metric.NameMap
import Telemetry.Metric.Record
import Telemetry.Metric.Sample
import Telemetry.Metric.Snapshot
import Telemetry.Metric.Store
import Telemetry.Number.Binary64
import Telemetry.Number.Reading
import Telemetry.Number.Shortest
import Telemetry.Number.Text
import Telemetry.Proofs.Accounting
import Telemetry.Proofs.Address
import Telemetry.Proofs.Batch
import Telemetry.Proofs.Blame
import Telemetry.Proofs.Calls
import Telemetry.Proofs.Calls.Content
import Telemetry.Proofs.Calls.Database
import Telemetry.Proofs.Calls.File
import Telemetry.Proofs.Calls.Rows
import Telemetry.Proofs.Command.Given
import Telemetry.Proofs.Contents
import Telemetry.Proofs.Crash.Sibling
import Telemetry.Proofs.Crash.Steps
import Telemetry.Proofs.Crash.Survival
import Telemetry.Proofs.Disk
import Telemetry.Proofs.Endpoints
import Telemetry.Proofs.Exchange
import Telemetry.Proofs.Flush.Deadlines
import Telemetry.Proofs.Flush.File
import Telemetry.Proofs.Flush.FileRun
import Telemetry.Proofs.Flush.Finite
import Telemetry.Proofs.Flush.Handlers
import Telemetry.Proofs.Flush.Life
import Telemetry.Proofs.Flush.Serving
import Telemetry.Proofs.Flush.Unparsable
import Telemetry.Proofs.Flush.View
import Telemetry.Proofs.Holdings
import Telemetry.Proofs.Json.Acceptance
import Telemetry.Proofs.Json.Building
import Telemetry.Proofs.Json.Documents
import Telemetry.Proofs.Json.Doubles
import Telemetry.Proofs.Json.Finite
import Telemetry.Proofs.Json.Grammar
import Telemetry.Proofs.Json.Lexing
import Telemetry.Proofs.Json.Members
import Telemetry.Proofs.Json.Numerals
import Telemetry.Proofs.Json.Range
import Telemetry.Proofs.Json.Records
import Telemetry.Proofs.Json.Rereading
import Telemetry.Proofs.Json.RoundTrip
import Telemetry.Proofs.Json.Snapshots
import Telemetry.Proofs.Ledger
import Telemetry.Proofs.Ledger.Order
import Telemetry.Proofs.Ledger.Reopening
import Telemetry.Proofs.Merge
import Telemetry.Proofs.Merge.Laws
import Telemetry.Proofs.Migration
import Telemetry.Proofs.NameMap
import Telemetry.Proofs.Number.Digits
import Telemetry.Proofs.Number.Plain
import Telemetry.Proofs.Number.Rounding
import Telemetry.Proofs.Number.Shortest
import Telemetry.Proofs.Outcome
import Telemetry.Proofs.Page
import Telemetry.Proofs.Paths
import Telemetry.Proofs.Refusals
import Telemetry.Proofs.Report
import Telemetry.Proofs.Requests
import Telemetry.Proofs.Samples
import Telemetry.Proofs.Sections
import Telemetry.Proofs.Session
import Telemetry.Proofs.Settings
import Telemetry.Proofs.Signature
import Telemetry.Proofs.SnapshotFile
import Telemetry.Proofs.Standing
import Telemetry.Proofs.Statuses
import Telemetry.Proofs.Text.Blank
import Telemetry.Proofs.Text.Hex
import Telemetry.Proofs.Text.Utf8
import Telemetry.Proofs.WriteBack
import Telemetry.Service.Binding
import Telemetry.Service.Endpoint
import Telemetry.Service.Handler
import Telemetry.Service.Life
import Telemetry.Service.Message
import Telemetry.Service.Negotiation
import Telemetry.Service.Page
import Telemetry.Service.Status
import Telemetry.Settings.Agent
import Telemetry.Settings.Collector
import Telemetry.Settings.Load
import Telemetry.Settings.Variable
import Telemetry.Sync.Batch
import Telemetry.Sync.Key
import Telemetry.Table.Cell
import Telemetry.Table.Database
import Telemetry.Table.Schema
import Telemetry.Text.Blank
import Telemetry.Text.Hex
import Telemetry.Text.Markup
import Telemetry.Text.Percent
import Telemetry.Text.Quoted
import Telemetry.Text.Unprinted
import Telemetry.Text.Utf8
