import ChainDashboard.Text.Trim
import ChainDashboard.Text.Flag
import ChainDashboard.Text.Number
import ChainDashboard.Text.Alphanumeric
import ChainDashboard.Text.Unprintable
import ChainDashboard.Text.Quoted
import ChainDashboard.Text.Utf8
import ChainDashboard.NameMap
import ChainDashboard.Json
import ChainDashboard.Digest
import ChainDashboard.FileState
import ChainDashboard.Disk
import ChainDashboard.Document.Basic
import ChainDashboard.Document.Ini
import ChainDashboard.Document.Reading
import ChainDashboard.Node
import ChainDashboard.Monitoring
import ChainDashboard.KeySchema
import ChainDashboard.MetricStore
import ChainDashboard.Metrics
import ChainDashboard.Topology.Settings
import ChainDashboard.Topology.Basic
import ChainDashboard.Topology.Reload
import ChainDashboard.Snapshot.Template
import ChainDashboard.Snapshot.Build
import ChainDashboard.Watch.Observation
import ChainDashboard.Watch.Task
import ChainDashboard.Environment.Basic
import ChainDashboard.Environment.EnvFile
import ChainDashboard.Environment.Config
import ChainDashboard.Telemetry.Pattern.Basic
import ChainDashboard.Telemetry.Pattern.Class
import ChainDashboard.Telemetry.Pattern.Check
import ChainDashboard.Telemetry.LogFilter
import ChainDashboard.Telemetry.SocketAddress
import ChainDashboard.Telemetry.Setup
import ChainDashboard.Redis.Reply
import ChainDashboard.Redis.Conversation
import ChainDashboard.Redis.Server
import ChainDashboard.Http.Target
import ChainDashboard.Http.Response
import ChainDashboard.Http.Server
import ChainDashboard.Startup
import ChainDashboard.Main
import ChainDashboard.Proofs.Monitoring
import ChainDashboard.Proofs.Snapshot.RoundTrip
import ChainDashboard.Proofs.Snapshot.Request
import ChainDashboard.Proofs.Snapshot.Contents
import ChainDashboard.Proofs.Document.Says
import ChainDashboard.Proofs.Topology.Settings
import ChainDashboard.Proofs.Topology.Sections
import ChainDashboard.Proofs.Topology.History
import ChainDashboard.Proofs.Text.Trim
import ChainDashboard.Proofs.Topology.Credentials
import ChainDashboard.Proofs.Watch.Convergence
import ChainDashboard.Proofs.Topology.Slices
import ChainDashboard.Proofs.Watch.Deduplication
import ChainDashboard.Proofs.Topology.Overlap
import ChainDashboard.Proofs.Topology.Overtaking
import ChainDashboard.Proofs.Topology.Swaps
import ChainDashboard.Proofs.Text.Utf8
import ChainDashboard.Proofs.Http.Encoding
import ChainDashboard.Proofs.Http.Listings
import ChainDashboard.Proofs.Snapshot.Failures
import ChainDashboard.Proofs.Snapshot.Isolation
import ChainDashboard.Proofs.KeySchema
import ChainDashboard.Proofs.Snapshot.Separation
import ChainDashboard.Proofs.Snapshot.Size
import ChainDashboard.Proofs.Snapshot.Replies
import ChainDashboard.Proofs.Watch.Notification
import ChainDashboard.Proofs.Text.Number
import ChainDashboard.Proofs.Redis.Reading
import ChainDashboard.Proofs.Http.Responses
import ChainDashboard.Proofs.Http.Secrecy
import ChainDashboard.Proofs.Document.Lines
import ChainDashboard.Proofs.NameMap
import ChainDashboard.Proofs.Document.Written
import ChainDashboard.Proofs.EnvFile
import ChainDashboard.Proofs.Disk
import ChainDashboard.Proofs.Startup
import ChainDashboard.Proofs.Topology.Nodes
import ChainDashboard.Proofs.BuiltNodes
import ChainDashboard.Proofs.Topology.Reports
import ChainDashboard.Proofs.Topology.Accounting
import ChainDashboard.Proofs.Hydration
import ChainDashboard.Proofs.Telemetry
import ChainDashboard.Proofs.Topology.VersionGauge
import ChainDashboard.Proofs.Redis.Causes
