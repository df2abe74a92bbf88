import GridOperator.Desired.ConfigMap
import GridOperator.Desired.Rbac
import GridOperator.Desired.StatefulSet
import GridOperator.Observed.Addresses
import GridOperator.Observed.Status
import GridOperator.Reconcile.Calls

/-!
# The steps of a pass over a cluster

Each step brings one group of objects in line with the cluster, or looks at what
there is.
-/

namespace GridOperator.Cluster

open Kubernetes ClusterPass

/-- Brings the account of the members and its rights in line. -/
def applyRbac (c : Cluster) (platform : Platform) : ClusterPass Unit := do
  let role := c.clusterRole platform
  let _ ← within <| Store.apply role fun found => .ok { found with
    rules := role.rules
    metadata := { found.metadata with labels := role.metadata.labels } }
  let _ ← within <| Store.apply c.serviceAccount fun found => .ok { found with
    metadata := { found.metadata with labels := some c.labels } }
  let binding := c.clusterRoleBinding
  let _ ← within <| Store.apply binding fun found => .ok { found with
    subjects := binding.subjects
    metadata := { found.metadata with labels := binding.metadata.labels } }

/-- Brings the service of each member in line. -/
def applyPerPodServices : List Service → ClusterPass Unit
  | [] => return
  | desired :: rest => do
    let _ ← within <| Store.apply desired fun found => .ok (found.syncPerPod desired)
    applyPerPodServices rest

/-- Removes the services of members that are too many. -/
def removePerPodServices (c : Cluster) : List Nat → ClusterPass Unit
  | [] => return
  | i :: rest => do
    let _ ← within <| Store.delete (K := Service) (c.podName i)
    removePerPodServices c rest

/-- The services as they are now, none for one that is not there. -/
def readServices : List Service → ClusterPass (List (Option Service))
  | [] => return []
  | desired :: rest => do
    let found ← within <| Store.get (K := Service) (Resource.anyName desired)
    return found :: (← readServices rest)

/-- Brings the services in line, removes those left over from a larger topology, and reads back
those of the members. -/
def applyServices (c : Cluster) : ClusterPass (List (Option Service)) := do
  let _ ← within <| Store.apply c.discoveryService fun found => .ok (found.syncDiscovery c)
  applyPerPodServices c.perPodServices
  let found ← within <| Store.get (K := StatefulSet) (Resource.anyName c)
  let previous := (found.bind Topology.ofStatefulSet?).getD {}
  c.removePerPodServices (Topology.staleIndices previous (Topology.desired c))
  readServices c.perPodServices

/-- Whether a map is one of the cluster. -/
def owns (c : Cluster) (m : DataMap) : Bool := m.spec.clusterResource = Resource.anyName c

def applyConfigMap (c : Cluster) : ClusterPass Unit := do
  let maps ← listMaps
  let desired := c.configMap (maps.filter c.owns)
  let _ ← within <| Store.apply desired fun found => .ok { found with
    data := desired.data
    metadata := { found.metadata with labels := desired.metadata.labels } }

def applyStatefulSet (c : Cluster) (settings : Settings) : ClusterPass Unit := do
  let desired ← Pass.ofExcept (c.newStatefulSet? settings)
  let _ ← within <| Store.apply desired fun found => .ok (found.sync c settings)

/-- What a ready member says of the mode of the cluster; nothing from a member that cannot be
asked. -/
def askMember (c : Cluster) (m : MemberStatus) : ClusterPass MemberStatus := do
  match m.ip.filter fun _ => m.ready with
  | none => return m
  | some ip =>
    match ← memberState (Endpoint.ofMember c ip) with
    | .ok state => return { m with state := some state.name }
    | .error _ => return m

def askMembers (c : Cluster) : List MemberStatus → ClusterPass (List MemberStatus)
  | [] => return []
  | m :: rest => do
    let m ← c.askMember m
    return m :: (← askMembers c rest)

/-- The status that the cluster's pods, members and services show. -/
def observe (c : Cluster) (perPod : List (Option Service)) : ClusterPass ClusterStatus := do
  let pods ← listPods c.labels
  let members ← c.askMembers (MemberStatus.ofPods pods)
  let discovery ← within <| Store.get (K := Service) (Resource.anyName c)
  let addresses := c.externalAddresses discovery (perPod.filterMap id) pods
  return c.observedStatus members pods addresses none

end GridOperator.Cluster
