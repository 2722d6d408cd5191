import Proctor.Api.Address
import Proctor.Api.Channel
import Proctor.Api.Client
import Proctor.Api.Controller
import Proctor.Api.Form
import Proctor.Api.HostName
import Proctor.Api.Patch
import Proctor.Api.Recorder
import Proctor.Api.Request
import Proctor.Cluster.Codec
import Proctor.Cluster.Meta
import Proctor.Cluster.MetaCodec
import Proctor.Cluster.Objects
import Proctor.Cluster.Shape
import Proctor.Cluster.Shape.Container
import Proctor.Cluster.Shape.Definition
import Proctor.Cluster.Shape.Pod
import Proctor.Cluster.Shape.Reference
import Proctor.Cluster.Shape.Volume
import Proctor.Cluster.Store
import Proctor.Config
import Proctor.Crd.Definition
import Proctor.Crd.Schema
import Proctor.Digest.Base64
import Proctor.Digest.Certificate
import Proctor.Digest.Fingerprint
import Proctor.Digest.Sha256
import Proctor.Fault
import Proctor.Json.Basic
import Proctor.Json.Equality
import Proctor.Json.Reader
import Proctor.Json.Record
import Proctor.Json.Token
import Proctor.Json.Writer
import Proctor.Lifecycle.Action
import Proctor.Lifecycle.Event
import Proctor.Lifecycle.Metrics
import Proctor.Lifecycle.Program
import Proctor.Lifecycle.Reconcile
import Proctor.Lifecycle.Steps
import Proctor.Main
import Proctor.Operator.Backoff
import Proctor.Operator.CommandLine
import Proctor.Operator.Connection
import Proctor.Operator.Kubeconfig
import Proctor.Operator.Startup
import Proctor.Operator.Telemetry
import Proctor.Proofs.Lists
import Proctor.Proofs.Cluster.Versions
import Proctor.Proofs.Concurrency.System
import Proctor.Proofs.Lifecycle.Rounds
import Proctor.Rehearsal.Edit
import Proctor.Rehearsal.Scene
import Proctor.Rehearsal.World
import Proctor.StringMap
import Proctor.Test.Basic
import Proctor.Test.Codec
import Proctor.Test.Phase
import Proctor.Test.Report
import Proctor.Test.Spec
import Proctor.Test.Validation
import Proctor.Text.Blank
import Proctor.Text.Debug
import Proctor.Text.Decimal
import Proctor.Text.Letters
import Proctor.Text.Order
import Proctor.Text.Printable
import Proctor.Text.Split
import Proctor.Text.Utf8
import Proctor.Time.Calendar
import Proctor.Time.Instant
import Proctor.Time.Span
import Proctor.Workload.Basic
import Proctor.Workload.EnvEntry
import Proctor.Workload.Labels
import Proctor.Workload.Outcome
import Proctor.Workload.Viewer
import Proctor.Yaml.Block
import Proctor.Yaml.Cell
import Proctor.Yaml.Document
import Proctor.Yaml.Gap
import Proctor.Yaml.Node
import Proctor.Yaml.Plain
import Proctor.Yaml.Quoted
import Proctor.Yaml.Scalar
import Proctor.Yaml.Tag
import Proctor.Yaml.Token
import Proctor.Yaml.Value
import Proctor.Yaml.Writer
import Proctor.Proofs.Concurrency.Accounting
import Proctor.Proofs.Concurrency.Edges
import Proctor.Proofs.Concurrency.Clients
import Proctor.Proofs.Lifecycle.Faults
import Proctor.Proofs.Concurrency.Derivation
import Proctor.Proofs.Digest.Injective
import Proctor.Proofs.Lifecycle.Restart
import Proctor.Proofs.Test.Validation
import Proctor.Proofs.Workload.Acceptance
import Proctor.Proofs.Workload.Files
import Proctor.Proofs.Concurrency.Applied
import Proctor.Proofs.Concurrency.Solo
import Proctor.Proofs.Concurrency.Verdict
import Proctor.Proofs.Concurrency.Statuses
import Proctor.Proofs.Concurrency.Settling
import Proctor.Proofs.Concurrency.Workloads
import Proctor.Proofs.Time.Instant
import Proctor.Proofs.Json.Merge
import Proctor.Proofs.Api.Patch
import Proctor.Proofs.Api.Objects
import Proctor.Proofs.Api.Server
import Proctor.Proofs.Concurrency.Deployment
import Proctor.Proofs.Concurrency.Reports
import Proctor.Proofs.Concurrency.Isolation
import Proctor.Proofs.Concurrency.Repetition
import Proctor.Proofs.Cluster.Merge
import Proctor.Proofs.Lifecycle.Locality
import Proctor.Proofs.Concurrency.Independence
import Proctor.Proofs.Lifecycle.Admission
import Proctor.Proofs.Lifecycle.Attempts
import Proctor.Proofs.Api.Replacement
import Proctor.Proofs.Workload.Environment
import Proctor.Proofs.Workload.Mounts
import Proctor.Proofs.Lifecycle.Judgement
import Proctor.Proofs.Test.Silence
import Proctor.Proofs.Lifecycle.Diagnostic
import Proctor.Proofs.Operator.Patience
import Proctor.Proofs.Json.Grammar
import Proctor.Proofs.Json.Scanning
import Proctor.Proofs.Json.Reading
import Proctor.Proofs.Json.Writing
import Proctor.Proofs.Json.Given
import Proctor.Proofs.Json.Likeness
import Proctor.Proofs.Json.Keeping
import Proctor.Proofs.Test.SpecCodec
import Proctor.Proofs.Test.Forms
import Proctor.Proofs.Lifecycle.Recovery
import Proctor.Proofs.Test.Texts
import Proctor.Proofs.Crd.Schema
import Proctor.Proofs.Crd.Agreement
import Proctor.Proofs.Time.Span
import Proctor.Proofs.Operator.Delays
import Proctor.Proofs.Text.Parts
import Proctor.Proofs.Text.Trimming
import Proctor.Proofs.Workload.Entries
import Proctor.Proofs.Workload.Selectors
