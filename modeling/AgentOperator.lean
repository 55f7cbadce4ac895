import AgentOperator.Activity
import AgentOperator.Agent.Resource
import AgentOperator.Agent.Spec
import AgentOperator.Agent.Status
import AgentOperator.Api.Client
import AgentOperator.Api.Kind
import AgentOperator.Api.Reply
import AgentOperator.Api.Report
import AgentOperator.Api.Request
import AgentOperator.Cluster.Server
import AgentOperator.Cluster.Store
import AgentOperator.Codec.Basic
import AgentOperator.Codec.Choice
import AgentOperator.Codec.Error
import AgentOperator.Codec.Fields
import AgentOperator.Definition.Embedded.Claim
import AgentOperator.Definition.Embedded.Container
import AgentOperator.Definition.Embedded.Environment
import AgentOperator.Definition.Embedded.Metadata
import AgentOperator.Definition.Embedded.Placement
import AgentOperator.Definition.Embedded.Projection
import AgentOperator.Definition.Embedded.Storage
import AgentOperator.Definition.Embedded.Volume
import AgentOperator.Definition.Resource
import AgentOperator.Definition.Schema
import AgentOperator.Dict
import AgentOperator.Entries
import AgentOperator.Json.Basic
import AgentOperator.Json.Draft
import AgentOperator.Json.MergePatch
import AgentOperator.Json.Pointer
import AgentOperator.Json.ReadError
import AgentOperator.Json.Reader
import AgentOperator.Json.Token
import AgentOperator.Json.Writer
import AgentOperator.Kubernetes.Claim
import AgentOperator.Kubernetes.ConfigMap
import AgentOperator.Kubernetes.Container
import AgentOperator.Kubernetes.Env
import AgentOperator.Kubernetes.Event
import AgentOperator.Kubernetes.Meta
import AgentOperator.Kubernetes.Pod
import AgentOperator.Kubernetes.Projection
import AgentOperator.Kubernetes.Service
import AgentOperator.Kubernetes.ServiceAccount
import AgentOperator.Kubernetes.Storage
import AgentOperator.Kubernetes.Volume
import AgentOperator.Kubernetes.Workload
import AgentOperator.Log
import AgentOperator.Log.Filter
import AgentOperator.Log.Line
import AgentOperator.Manifest.Args
import AgentOperator.Manifest.Container
import AgentOperator.Manifest.Environment
import AgentOperator.Manifest.ImageReference
import AgentOperator.Manifest.Labels
import AgentOperator.Manifest.Naming
import AgentOperator.Manifest.Objects
import AgentOperator.Manifest.Path
import AgentOperator.Manifest.Ports
import AgentOperator.Manifest.Status
import AgentOperator.Manifest.Volumes
import AgentOperator.Manifest.Workload
import AgentOperator.Metrics
import AgentOperator.Numeric.Binary64
import AgentOperator.Numeric.Significand
import AgentOperator.Probe
import AgentOperator.Proofs.Activity.Fits
import AgentOperator.Proofs.Activity.Independence
import AgentOperator.Proofs.Activity.Interleaving
import AgentOperator.Proofs.Activity.Moments
import AgentOperator.Proofs.Activity.Outcome
import AgentOperator.Proofs.Activity.Steps
import AgentOperator.Proofs.Agent.Report
import AgentOperator.Proofs.Agent.RoundTrip
import AgentOperator.Proofs.Api.Address
import AgentOperator.Proofs.Cluster.Namespaces
import AgentOperator.Proofs.Cluster.Serves
import AgentOperator.Proofs.Cluster.Unreliable
import AgentOperator.Proofs.Codec.Lenient
import AgentOperator.Proofs.Codec.RoundTrip
import AgentOperator.Proofs.Entries.Last
import AgentOperator.Proofs.Entries.Unordered
import AgentOperator.Proofs.Json.Carries
import AgentOperator.Proofs.Json.Merge
import AgentOperator.Proofs.Kubernetes.RoundTrip
import AgentOperator.Proofs.Manifest.Agreement
import AgentOperator.Proofs.Manifest.Arguments
import AgentOperator.Proofs.Manifest.Environment
import AgentOperator.Proofs.Manifest.ImageReference
import AgentOperator.Proofs.Manifest.LabelValues
import AgentOperator.Proofs.Manifest.Presence
import AgentOperator.Proofs.Manifest.References
import AgentOperator.Proofs.Manifest.Selection
import AgentOperator.Proofs.Manifest.Transitions
import AgentOperator.Proofs.Manifest.Unordered
import AgentOperator.Proofs.Naming.Auxiliary
import AgentOperator.Proofs.Naming.Cut
import AgentOperator.Proofs.Naming.Label
import AgentOperator.Proofs.Naming.Length
import AgentOperator.Proofs.Naming.Owned
import AgentOperator.Proofs.Naming.Pattern
import AgentOperator.Proofs.Naming.Recut
import AgentOperator.Proofs.Naming.Shape
import AgentOperator.Proofs.Naming.Subdomain
import AgentOperator.Proofs.Pass.Convergence
import AgentOperator.Proofs.Pass.Course
import AgentOperator.Proofs.Pass.Effects
import AgentOperator.Proofs.Pass.Footprint
import AgentOperator.Proofs.Pass.History
import AgentOperator.Proofs.Pass.Identity
import AgentOperator.Proofs.Pass.Independence
import AgentOperator.Proofs.Pass.Ownership
import AgentOperator.Proofs.Pass.Progress
import AgentOperator.Proofs.Pass.Protocol
import AgentOperator.Proofs.Pass.Quiescence
import AgentOperator.Proofs.Pass.Removal
import AgentOperator.Proofs.Pass.Separation
import AgentOperator.Proofs.Pass.Service
import AgentOperator.Proofs.Pass.StatusPatch
import AgentOperator.Proofs.Pass.Succession
import AgentOperator.Proofs.Pass.Transcript
import AgentOperator.Proofs.Path.Clean
import AgentOperator.Proofs.Path.NormalForm
import AgentOperator.Proofs.Pipeline.Account
import AgentOperator.Proofs.Pipeline.Invariant
import AgentOperator.Proofs.Pipeline.Orderly
import AgentOperator.Proofs.Pipeline.Policy
import AgentOperator.Proofs.Pipeline.Sharing
import AgentOperator.Proofs.Pipeline.Turns
import AgentOperator.Proofs.Pipeline.Visits
import AgentOperator.Proofs.Ports.Declared
import AgentOperator.Proofs.Ports.Grammar
import AgentOperator.Proofs.Ports.Resolution
import AgentOperator.Proofs.Ports.Service
import AgentOperator.Proofs.Ports.Verdict
import AgentOperator.Proofs.Settings.Variables
import AgentOperator.Proofs.Text.Case
import AgentOperator.Proofs.Text.Numeral
import AgentOperator.Proofs.Volumes.ConfigFile
import AgentOperator.Proofs.Volumes.Containment
import AgentOperator.Proofs.Volumes.Distinct
import AgentOperator.Reconcile.Failure
import AgentOperator.Reconcile.Pass
import AgentOperator.Reconcile.Pipeline
import AgentOperator.Reconcile.Reconciler
import AgentOperator.Reconcile.Shared
import AgentOperator.Reconcile.Task
import AgentOperator.Settings
import AgentOperator.Startup
import AgentOperator.Text.Alphanumeric
import AgentOperator.Text.Blank
import AgentOperator.Text.Case
import AgentOperator.Text.CaseTables
import AgentOperator.Text.DisplayTables
import AgentOperator.Text.Numeral
import AgentOperator.Text.Pattern.Atom
import AgentOperator.Text.Pattern.CharSet
import AgentOperator.Text.Pattern.Reader
import AgentOperator.Text.Pieces
import AgentOperator.Text.Quoted
import AgentOperator.Text.Search
import AgentOperator.Time.Instant
import AgentOperator.Time.Reader
