import GridOperator.ApiServer.Kind
import GridOperator.ApiServer.Request
import GridOperator.ApiServer.Server
import GridOperator.ApiServer.Stored
import GridOperator.Backup.Pass
import GridOperator.Backup.Scheduler
import GridOperator.Checksum
import GridOperator.Cluster.Basic
import GridOperator.Cluster.Spec
import GridOperator.Cluster.Status
import GridOperator.Cron.Crontab
import GridOperator.Cron.Expression
import GridOperator.Cron.Schedule
import GridOperator.DataMap
import GridOperator.Definition.Resources
import GridOperator.Definition.Schema
import GridOperator.Desired.Basic
import GridOperator.Desired.ConfigMap
import GridOperator.Desired.Rbac
import GridOperator.Desired.Service
import GridOperator.Desired.StatefulSet
import GridOperator.Error
import GridOperator.Finalizer
import GridOperator.HotBackup
import GridOperator.Json.Basic
import GridOperator.Json.Canonical
import GridOperator.Json.Patch
import GridOperator.Json.Reader
import GridOperator.Json.Record
import GridOperator.Json.Writer
import GridOperator.Kubernetes.ConfigMap
import GridOperator.Kubernetes.Container
import GridOperator.Kubernetes.Meta
import GridOperator.Kubernetes.Pod
import GridOperator.Kubernetes.Rbac
import GridOperator.Kubernetes.Service
import GridOperator.Kubernetes.Shape
import GridOperator.Kubernetes.Shape.Meta
import GridOperator.Kubernetes.Shape.Pod
import GridOperator.Kubernetes.Shape.Resource
import GridOperator.Kubernetes.Shape.Scheduling
import GridOperator.Kubernetes.Shape.Volume
import GridOperator.Kubernetes.StatefulSet
import GridOperator.Kubernetes.TextMap
import GridOperator.Kubernetes.Volume
import GridOperator.Management.Commands
import GridOperator.Management.Endpoint
import GridOperator.Management.Registry
import GridOperator.Management.State
import GridOperator.MemberConfig
import GridOperator.Names
import GridOperator.Network.DomainName
import GridOperator.Network.Host
import GridOperator.Network.Http
import GridOperator.Network.Punycode
import GridOperator.Network.Url
import GridOperator.Number.Binary64
import GridOperator.Number.Shortest
import GridOperator.Observed.Addresses
import GridOperator.Observed.Members
import GridOperator.Observed.Status
import GridOperator.Proofs.Backup.Registration
import GridOperator.Proofs.Backup.Steps
import GridOperator.Proofs.Json.Records
import GridOperator.Proofs.Json.RoundTrip
import GridOperator.Proofs.Kubernetes.Annotations
import GridOperator.Proofs.Management.Modes
import GridOperator.Proofs.Reconcile.LeftOver
import GridOperator.Proofs.Reconcile.Placement
import GridOperator.Proofs.Reconcile.Services
import GridOperator.Proofs.Reconcile.Stages
import GridOperator.Proofs.Reconcile.World
import GridOperator.Proofs.Results
import GridOperator.Proofs.Script.Execution
import GridOperator.Proofs.Script.Interleaving
import GridOperator.Proofs.Store.Outcomes
import GridOperator.Proofs.Topology
import GridOperator.Reconcile.Calls
import GridOperator.Reconcile.Cluster
import GridOperator.Reconcile.Steps
import GridOperator.Reconcile.Teardown
import GridOperator.Rehearsal
import GridOperator.RestoreProvider
import GridOperator.Script
import GridOperator.Settings
import GridOperator.Store.Calls
import GridOperator.Store.Memory
import GridOperator.Table
import GridOperator.Text.Blank
import GridOperator.Text.Digits
import GridOperator.Text.Direction
import GridOperator.Text.Folding
import GridOperator.Text.Joining
import GridOperator.Text.Mark
import GridOperator.Text.Number
import GridOperator.Text.Quoted
import GridOperator.Text.Ranges
import GridOperator.Text.Split
import GridOperator.Text.Unprintable
import GridOperator.Time.Civil
import GridOperator.Time.Timestamp
import GridOperator.Topology
import GridOperator.Validity
import GridOperator.Watch
import GridOperator.World
import GridOperator.Yaml.Basic
import GridOperator.Yaml.Scalar
import GridOperator.Yaml.Writer
import GridOperator.Proofs.Text.Joined
import GridOperator.Proofs.Reconcile.Rights
import GridOperator.Proofs.Reconcile.Neighbours
import GridOperator.Proofs.Desired.Maps
import GridOperator.Proofs.Store.Clients
import GridOperator.Proofs.Cluster.Status
import GridOperator.Proofs.Reconcile.PassWorld
import GridOperator.Proofs.Desired.Goals
import GridOperator.Proofs.Reconcile.Progress
import GridOperator.Proofs.Reconcile.Resumption
import GridOperator.Proofs.Reconcile.Reliability
import GridOperator.Proofs.Reconcile.FixedPoint
import GridOperator.Proofs.Reconcile.Finalization
import GridOperator.Proofs.Backup.Triggers
import GridOperator.Proofs.Management.Preconditions
import GridOperator.Proofs.Reconcile.DataDirectory
import GridOperator.Proofs.Backup.Repeats
import GridOperator.Proofs.Time.Civil
import GridOperator.Proofs.Cron.Next
import GridOperator.Proofs.Cron.Expression
import GridOperator.Proofs.Table
import GridOperator.Proofs.Backup.Firings
import GridOperator.Proofs.Json.Recorded
import GridOperator.Proofs.Desired.ConfigFile
import GridOperator.Proofs.Desired.References
import GridOperator.Proofs.Reconcile.Order
import GridOperator.Proofs.Reconcile.Rejection
import GridOperator.Proofs.Reconcile.Annotations
import GridOperator.Proofs.Reconcile.Teardown
import GridOperator.Proofs.Backup.Credentials
import GridOperator.Proofs.Text.Cutting
import GridOperator.Proofs.Cron.Reading
import GridOperator.Proofs.Cron.Weekdays
import GridOperator.Proofs.Management.Reactivation
import GridOperator.Proofs.Backup.Conduct
import GridOperator.Proofs.Desired.Overwriting
import GridOperator.Proofs.Reconcile.Restarts
import GridOperator.Proofs.Store.Applying
import GridOperator.Proofs.Kubernetes.Services
import GridOperator.Proofs.Desired.Services
import GridOperator.Proofs.Reconcile.Serving
import GridOperator.Proofs.Desired.Drift
import GridOperator.Proofs.Desired.MapSection
import GridOperator.Proofs.Observed.Members
import GridOperator.Proofs.Desired.Restores
import GridOperator.Proofs.Json.Merging
import GridOperator.Proofs.Cluster.Renewal
import GridOperator.Proofs.Desired.MountPaths
import GridOperator.Proofs.Observed.Addresses
import GridOperator.Proofs.Text.Octets
import GridOperator.Proofs.Network.Authority
import GridOperator.Proofs.Management.Forms
import GridOperator.Proofs.Management.Registry
import GridOperator.Proofs.Settings
import GridOperator.Proofs.Watch
import GridOperator.Proofs.Backup.Frame
import GridOperator.Proofs.Text.Hexadecimal
import GridOperator.Proofs.Yaml.Layout
import GridOperator.Proofs.Yaml.Scalars
import GridOperator.Proofs.Yaml.Documents
