import GridOperator.Desired.Basic
import GridOperator.Kubernetes.Service

/-!
# Services

The discovery service stands in front of all members; with smart exposure each
member has a service of its own besides. `Service.syncDiscovery` and
`Service.syncPerPod` bring a service that exists in line with the desired one.
-/

namespace GridOperator

open Kubernetes

namespace Cluster

def memberPort : ServicePort where
  name := some Names.memberPort
  protocol := some "TCP"
  port := Names.memberPortNumber
  targetPort := some (.text Names.member)

def backupAgentPort : ServicePort where
  name := some Names.backupAgentPort
  protocol := some "TCP"
  port := Names.agentPortNumber
  targetPort := some (.text Names.backupAgent)

def discoveryServiceType (c : Cluster) : String :=
  match c.spec.exposeExternally with
  | some e => e.discoveryType
  | none => "ClusterIP"

def discoveryService (c : Cluster) : Service where
  metadata := c.ownedMetadata
  spec := some {
    selector := some c.labels
    ports := some (memberPort :: if c.spec.persistenceExternal then [backupAgentPort] else [])
    type := some c.discoveryServiceType }

/-- The name of the `i`-th member's pod and of its service. -/
def podName (c : Cluster) (i : Nat) : String := c.name ++ "-" ++ toString i

def perPodService (c : Cluster) (e : Exposure) (i : Nat) : Service where
  metadata := {
    name := some (c.podName i)
    space := c.metadata.space
    labels := some (c.labels.set Names.perPodLabel Names.yes)
    ownerReferences := some [c.ownerReference] }
  spec := some {
    selector := some (c.labels.set Names.podNameLabel (c.podName i))
    ports := some [memberPort]
    publishNotReadyAddresses := some true
    type := some e.access.serviceType }

/-- One service per member, with smart exposure only. -/
def perPodServices (c : Cluster) : List Service :=
  match c.spec.exposeExternally.filter (·.isSmart) with
  | some e => (List.range c.spec.memberCount).map (c.perPodService e)
  | none => []

end Cluster

namespace Kubernetes.Service

/-- A desired port with the node port that the first port of its name has been given. -/
def keepNodePort (current : List ServicePort) (port : ServicePort) : ServicePort :=
  { port with nodePort := (current.find? (·.name = port.name)).bind (·.nodePort) }

/-- The desired ports. Inside the platform there are no node ports. -/
def mergePorts (current desired : List ServicePort) (inside : Bool) : List ServicePort :=
  if inside then desired else desired.map (keepNodePort current)

/-- `s` with the specification of the discovery service of `c`. What the platform assigns stays. -/
def syncDiscovery (c : Cluster) (s : Service) : Service :=
  let desired := (c.discoveryService.spec).getD {}
  let spec := s.spec.getD {}
  { s with
    metadata := { s.metadata with labels := c.discoveryService.metadata.labels }
    spec := some { spec with
      type := desired.type
      selector := desired.selector
      ports := some <| mergePorts (spec.ports.getD []) (desired.ports.getD [])
        (desired.type = some "ClusterIP") } }

/-- `s` with the specification of a desired service of one member. What the platform assigns and
the metadata stay. -/
def syncPerPod (s desired : Service) : Service :=
  let want := desired.spec.getD {}
  let spec := s.spec.getD {}
  { s with
    spec := some { spec with
      type := want.type
      selector := want.selector
      publishNotReadyAddresses := want.publishNotReadyAddresses
      ports := some <| mergePorts (spec.ports.getD []) (want.ports.getD [])
        (want.type = some "ClusterIP") } }

end Kubernetes.Service

end GridOperator
