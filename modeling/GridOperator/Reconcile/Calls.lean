import GridOperator.DataMap
import GridOperator.Kubernetes.ConfigMap
import GridOperator.Kubernetes.Pod
import GridOperator.Kubernetes.Service
import GridOperator.Kubernetes.StatefulSet
import GridOperator.Management.Registry
import GridOperator.Reconcile.Teardown

/-!
# What a pass over a cluster calls

Roles and bindings are those of the whole platform, all other objects those of
the cluster's namespace.
-/

namespace GridOperator

open Kubernetes

inductive ClusterCall where
  | roles (call : StoreCall ClusterRole)
  | bindings (call : StoreCall ClusterRoleBinding)
  | accounts (call : StoreCall ServiceAccount)
  | services (call : StoreCall Service)
  | configMaps (call : StoreCall ConfigMap)
  | statefulSets (call : StoreCall StatefulSet)
  | clusters (call : StoreCall Cluster)
  /-- Merges a patch into the status of a cluster. -/
  | patchStatus (name : String) (patch : Json)
  | listMaps
  /-- The pods that carry all the given labels. -/
  | listPods (labels : TextMap)
  /-- Whether the name of a host is known. -/
  | resolves (host : String)
  /-- The mode that a member says the cluster is in. -/
  | memberState (member : Endpoint)
  /-- The client of a cluster. -/
  | client (cluster : Cluster)
  | manage (client : Client) (call : ManageCall)
  /-- Forgets the client of a cluster. Tells whether there was one. -/
  | release (key : ObjectKey)

namespace ClusterCall

abbrev Answer : ClusterCall → Type
  | roles call => call.Answer
  | bindings call => call.Answer
  | accounts call => call.Answer
  | services call => call.Answer
  | configMaps call => call.Answer
  | statefulSets call => call.Answer
  | clusters call => call.Answer
  | patchStatus _ _ => Except Error Unit
  | listMaps => Except Error (List DataMap)
  | listPods _ => Except Error (List Pod)
  | resolves _ => Bool
  | memberState _ => Except Error ClusterState
  | client _ => Client
  | manage _ call => call.Answer
  | release _ => Bool

end ClusterCall

def clusterCalls : Interface := ⟨ClusterCall, ClusterCall.Answer⟩

/-- A pass over a cluster, or a part of one. -/
abbrev ClusterPass := Pass clusterCalls

namespace ClusterPass

/-- The calls of a store as calls of a pass over a cluster. -/
class Reachable (K : Type) where
  route : Script.Embedding (store K) clusterCalls

instance : Reachable ClusterRole := ⟨.roles, fun _ a => a⟩
instance : Reachable ClusterRoleBinding := ⟨.bindings, fun _ a => a⟩
instance : Reachable ServiceAccount := ⟨.accounts, fun _ a => a⟩
instance : Reachable Service := ⟨.services, fun _ a => a⟩
instance : Reachable ConfigMap := ⟨.configMaps, fun _ a => a⟩
instance : Reachable StatefulSet := ⟨.statefulSets, fun _ a => a⟩
instance : Reachable Cluster := ⟨.clusters, fun _ a => a⟩

/-- Work on the store of a kind. -/
def within [Reachable K] (p : Pass (store K) α) : ClusterPass α := p.embed Reachable.route

/-- A command to a live cluster. -/
def command (client : Client) (p : Pass management α) : ClusterPass α :=
  p.embed ⟨.manage client, fun _ a => a⟩

def teardownRoute : Script.Embedding teardownCalls clusterCalls where
  call
    | .roles call => .roles call
    | .bindings call => .bindings call
    | .release key => .release key
  answer
    | .roles _, a => a
    | .bindings _, a => a
    | .release _, a => a

def patchStatus (name : String) (patch : Json) : ClusterPass Unit :=
  .ofScript (Script.call (I := clusterCalls) (.patchStatus name patch))

def listMaps : ClusterPass (List DataMap) := .ofScript (Script.call (I := clusterCalls) .listMaps)

def listPods (labels : TextMap) : ClusterPass (List Pod) :=
  .ofScript (Script.call (I := clusterCalls) (.listPods labels))

def resolves (host : String) : ClusterPass Bool :=
  ExceptT.lift (Script.call (I := clusterCalls) (.resolves host))

def memberState (member : Endpoint) : ClusterPass (Except Error ClusterState) :=
  ExceptT.lift (Script.call (I := clusterCalls) (.memberState member))

def client (cluster : Cluster) : ClusterPass Client :=
  ExceptT.lift (Script.call (I := clusterCalls) (.client cluster))

end ClusterPass

end GridOperator
