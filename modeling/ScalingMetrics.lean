import ScalingMetrics.Autoscaler.Basic
import ScalingMetrics.Autoscaler.Declared
import ScalingMetrics.Autoscaler.Document
import ScalingMetrics.Cause
import ScalingMetrics.Cluster.Event
import ScalingMetrics.Cluster.Listing
import ScalingMetrics.Cluster.Request
import ScalingMetrics.Collections.SortedMap
import ScalingMetrics.Collector.Error
import ScalingMetrics.Collector.Registry
import ScalingMetrics.Collector.Request
import ScalingMetrics.Double.Basic
import ScalingMetrics.Double.Decimal
import ScalingMetrics.Health.Basic
import ScalingMetrics.Health.Document
import ScalingMetrics.Http.Error
import ScalingMetrics.Http.ObjectPath
import ScalingMetrics.Http.Query
import ScalingMetrics.Http.Router
import ScalingMetrics.Http.Server
import ScalingMetrics.Http.View
import ScalingMetrics.Json.Basic
import ScalingMetrics.Json.Reader
import ScalingMetrics.Json.Record
import ScalingMetrics.Json.Writer
import ScalingMetrics.Main
import ScalingMetrics.Metric.Address
import ScalingMetrics.Metric.Declaration
import ScalingMetrics.Metric.Document
import ScalingMetrics.Metric.Identity
import ScalingMetrics.Metric.Object
import ScalingMetrics.Metric.Sample
import ScalingMetrics.Proofs.Autoscaler.Declarations
import ScalingMetrics.Proofs.Collector.Directory
import ScalingMetrics.Proofs.Health.Overall
import ScalingMetrics.Proofs.Http.Addresses
import ScalingMetrics.Proofs.Http.Answers
import ScalingMetrics.Proofs.Http.Discovery
import ScalingMetrics.Proofs.Http.Namespaces
import ScalingMetrics.Proofs.Http.Paths
import ScalingMetrics.Proofs.Http.Wildcards
import ScalingMetrics.Proofs.Provider.Accounts
import ScalingMetrics.Proofs.Provider.Batches
import ScalingMetrics.Proofs.Provider.Building
import ScalingMetrics.Proofs.Provider.Conditions
import ScalingMetrics.Proofs.Provider.Failures
import ScalingMetrics.Proofs.Provider.Gauge
import ScalingMetrics.Proofs.Provider.Interleaving
import ScalingMetrics.Proofs.Provider.Operations
import ScalingMetrics.Proofs.Provider.Order
import ScalingMetrics.Proofs.Provider.Pass
import ScalingMetrics.Proofs.Provider.Removal
import ScalingMetrics.Proofs.Provider.Slots
import ScalingMetrics.Proofs.Provider.Unchanged
import ScalingMetrics.Proofs.Scheduler.Collectors
import ScalingMetrics.Proofs.Scheduler.Deliveries
import ScalingMetrics.Proofs.Scheduler.Order
import ScalingMetrics.Proofs.Scheduler.Pacing
import ScalingMetrics.Proofs.Scheduler.Rows
import ScalingMetrics.Proofs.Scheduler.Sizes
import ScalingMetrics.Proofs.Scheduler.Slots
import ScalingMetrics.Proofs.Scheduler.SlotSet
import ScalingMetrics.Proofs.Scheduler.Steps
import ScalingMetrics.Proofs.Scheduler.Tenants
import ScalingMetrics.Proofs.Selector.Conjunction
import ScalingMetrics.Proofs.Selector.Nesting
import ScalingMetrics.Proofs.Selector.Rereading
import ScalingMetrics.Proofs.Selector.SetTerms
import ScalingMetrics.Proofs.Selector.Written
import ScalingMetrics.Proofs.Store.Contents
import ScalingMetrics.Proofs.Store.Declared
import ScalingMetrics.Proofs.Store.History
import ScalingMetrics.Proofs.Store.Labels
import ScalingMetrics.Proofs.Store.Lifetimes
import ScalingMetrics.Proofs.Store.Lookup
import ScalingMetrics.Proofs.Telemetry.Reach
import ScalingMetrics.Proofs.Text.Blank
import ScalingMetrics.Proofs.Text.Utf8
import ScalingMetrics.Provider.Basic
import ScalingMetrics.Provider.Config
import ScalingMetrics.Provider.Loop
import ScalingMetrics.Provider.Pass
import ScalingMetrics.Provider.VirtualClock
import ScalingMetrics.Provider.Warning
import ScalingMetrics.Quantity
import ScalingMetrics.Scheduler.Basic
import ScalingMetrics.Scheduler.Step
import ScalingMetrics.Scheduler.VirtualClock
import ScalingMetrics.Selector.Basic
import ScalingMetrics.Selector.Declared
import ScalingMetrics.Selector.Display
import ScalingMetrics.Selector.Document
import ScalingMetrics.Selector.Grammar
import ScalingMetrics.Settings
import ScalingMetrics.Startup
import ScalingMetrics.Store.Basic
import ScalingMetrics.Store.Expiry
import ScalingMetrics.Store.Keeping
import ScalingMetrics.Telemetry.Basic
import ScalingMetrics.Telemetry.Document
import ScalingMetrics.Telemetry.Exposition
import ScalingMetrics.Telemetry.Filter
import ScalingMetrics.Telemetry.Meters
import ScalingMetrics.Telemetry.Run
import ScalingMetrics.Text.Alphanumeric
import ScalingMetrics.Text.Blank
import ScalingMetrics.Text.Hex
import ScalingMetrics.Text.Pattern
import ScalingMetrics.Text.Pieces
import ScalingMetrics.Text.Quoted
import ScalingMetrics.Text.Runs
import ScalingMetrics.Text.Unprintable
import ScalingMetrics.Text.Utf8
import ScalingMetrics.Time.Document
import ScalingMetrics.Time.Rfc3339
import ScalingMetrics.Time.Span
import ScalingMetrics.Time.Timestamp
import ScalingMetrics.Proofs.Selector.Refusals
