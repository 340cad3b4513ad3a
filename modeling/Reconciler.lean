import Reconciler.Agenda
import Reconciler.Backoff
import Reconciler.Bench
import Reconciler.Bench.Backend
import Reconciler.Bench.Json
import Reconciler.Bench.Rehearsal
import Reconciler.Bench.Server
import Reconciler.Bench.Shelf
import Reconciler.Bench.Station
import Reconciler.Bench.Watch
import Reconciler.Cluster
import Reconciler.Cluster.Address
import Reconciler.Cluster.Exchange
import Reconciler.CommandLine
import Reconciler.Configuration
import Reconciler.Configuration.Reader
import Reconciler.Context
import Reconciler.Context.Tree
import Reconciler.Controller
import Reconciler.Decimal
import Reconciler.Definition
import Reconciler.Definition.Schema
import Reconciler.Dialogue
import Reconciler.Error
import Reconciler.Error.Diagnostic
import Reconciler.Error.Json
import Reconciler.Files
import Reconciler.Handler
import Reconciler.Handler.Table
import Reconciler.Json
import Reconciler.Json.Loose
import Reconciler.Json.Patch
import Reconciler.Json.Text
import Reconciler.Kind
import Reconciler.Lifecycle
import Reconciler.Manifest
import Reconciler.Manifest.Reader
import Reconciler.Mapping
import Reconciler.Metadata
import Reconciler.Metrics
import Reconciler.Object
import Reconciler.Object.Json
import Reconciler.Operator
import Reconciler.Provider.Dummy
import Reconciler.Provider.Json
import Reconciler.Resource
import Reconciler.Resource.Json
import Reconciler.Rule
import Reconciler.Selector
import Reconciler.Selector.Glob
import Reconciler.SortedMap
import Reconciler.Store
import Reconciler.Store.Json
import Reconciler.Store.Key
import Reconciler.Store.Memory
import Reconciler.Store.Repository
import Reconciler.Sweep
import Reconciler.Text.Blank
import Reconciler.Text.Case
import Reconciler.Text.Elapsed
import Reconciler.Text.Printable
import Reconciler.Text.Quoted
import Reconciler.Time.Date
import Reconciler.Time.Instant
import Reconciler.Time.Rfc3339
import Reconciler.Yaml.Cursor
import Reconciler.Yaml.Json
import Reconciler.Yaml.Node
import Reconciler.Yaml.Printer
import Reconciler.Yaml.Scalar
import Reconciler.Yaml.Token
import Reconciler.Yaml.Token.Lexer
import Reconciler.Yaml.Value
import Reconciler.Main
import Reconciler.Proofs.Decimal
import Reconciler.Proofs.Store.Request
import Reconciler.Proofs.Store.Served
import Reconciler.Proofs.Store.Versions
import Reconciler.Proofs.SortedMap
import Reconciler.Proofs.Store.Updates
import Reconciler.Proofs.Controller.Stage
import Reconciler.Proofs.Controller.Visit
import Reconciler.Proofs.Controller.Atomic
import Reconciler.Proofs.Bench.Station
import Reconciler.Proofs.Time.Rfc3339
import Reconciler.Proofs.Controller.Tended
import Reconciler.Proofs.Controller.Scene
import Reconciler.Proofs.Controller.History
import Reconciler.Proofs.Provider.Dummy
import Reconciler.Proofs.Provider.Agreement
import Reconciler.Proofs.Controller.Undisturbed
import Reconciler.Proofs.Controller.Confined
import Reconciler.Proofs.Store.Listing
import Reconciler.Proofs.Store.Paging
import Reconciler.Proofs.Dialogue
import Reconciler.Proofs.Controller.Sweep
import Reconciler.Proofs.Handler.Turn
import Reconciler.Proofs.Controller.Deletion
import Reconciler.Proofs.Controller.Changes
import Reconciler.Proofs.Volume.Gauge
import Reconciler.Proofs.Volume.Standing
import Reconciler.Proofs.Volume.Forward
import Reconciler.Proofs.Volume.Convergence
import Reconciler.Proofs.Volume.Admission
import Reconciler.Proofs.Handler.Glance
import Reconciler.Proofs.Handler.Retry
import Reconciler.Proofs.Controller.Rejection
import Reconciler.Proofs.Controller.Interlude
import Reconciler.Proofs.Repository.Isolation
import Reconciler.Proofs.Repository.Versioned
import Reconciler.Proofs.Repository.Writes
import Reconciler.Proofs.Json
import Reconciler.Proofs.Json.Patch
import Reconciler.Proofs.Time.Relaxed
import Reconciler.Proofs.Object.Json
import Reconciler.Proofs.Cluster.Server
import Reconciler.Proofs.Cluster.Exchange
import Reconciler.Proofs.Cluster.Calls
import Reconciler.Proofs.Cluster.Upkeep
import Reconciler.Proofs.Cluster.Guarded
import Reconciler.Proofs.Cluster.Cleanup
import Reconciler.Proofs.Cluster.Traffic
import Reconciler.Proofs.Cluster.Overlay
import Reconciler.Proofs.Cluster.Replacement
import Reconciler.Proofs.Controller.Entering
import Reconciler.Proofs.Bench.Faultless
import Reconciler.Proofs.Bench.Seeding
import Reconciler.Proofs.Backoff
import Reconciler.Proofs.Sweep.Looks
import Reconciler.Proofs.Sweep.Runs
import Reconciler.Proofs.Sweep.Delays
import Reconciler.Proofs.Sweep.Settled
import Reconciler.Proofs.Text.Blank
import Reconciler.Proofs.Selector.Grammar
import Reconciler.Proofs.Selector.Meaning
import Reconciler.Proofs.Handler.Lockstep
import Reconciler.Proofs.Provider.Countdown
import Reconciler.Proofs.Selector.Prefilter
import Reconciler.Proofs.Object.Legible
import Reconciler.Proofs.Store.Record
import Reconciler.Proofs.Metrics
import Reconciler.Proofs.Store.Token
import Reconciler.Proofs.Operator.Deadlines
