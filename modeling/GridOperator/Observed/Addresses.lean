import GridOperator.Cluster.Basic
import GridOperator.Kubernetes.Pod
import GridOperator.Kubernetes.Service
import GridOperator.Names

/-!
# Addresses for clients outside the platform
-/

namespace GridOperator

open Kubernetes

namespace Kubernetes.Service

/-- The host of an ingress point, its number before its name. -/
def ingressHosts (s : Service) : List String := s.ingress.filterMap fun i => i.ip <|> i.hostname

def address (host : String) (port : Int) : String := host ++ ":" ++ toString port

/-- Where a service can be reached. A node port needs the address of the node that the pod behind
the service runs on. -/
def addresses (s : Service) (hostIP : Option String) : List String :=
  match s.spec with
  | none => []
  | some spec =>
    let port := (spec.ports.getD []).find? (·.name = some Names.memberPort)
    if spec.type = some "LoadBalancer" then
      s.ingressHosts.map (address · ((port.map (·.port)).getD Names.memberPortNumber))
    else if spec.type = some "NodePort" then
      match hostIP, port.bind (·.nodePort) with
      | some ip, some nodePort => [address ip nodePort]
      | _, _ => []
    else []

/-- The pod that a service of a single member selects. -/
def selectedPod? (s : Service) : Option String :=
  (s.spec.bind (·.selector)).bind (Table.get? Names.podNameLabel)

/-- Whether a service can be reached now: a load balancer has to have an ingress point, and the
names of its ingress points have to resolve. -/
def isReachable [Monad m] (resolves : String → m Bool) (s : Service) : m Bool :=
  if s.type? = some "LoadBalancer" then
    if s.ingress.isEmpty then pure false
    else (s.ingress.filterMap (·.hostname)).allM resolves
  else pure true

end Kubernetes.Service

namespace Cluster

/-- Where clients outside the platform find the cluster: at the services of its members with smart
exposure, else at the discovery service. -/
def externalAddresses (c : Cluster) (discovery : Option Service) (perPod : List Service)
    (pods : List Pod) : List String :=
  match c.spec.exposeExternally with
  | none => []
  | some e =>
    if e.isSmart then
      perPod.flatMap fun s =>
        let pod := pods.find? (·.metadata.name = s.selectedPod?)
        s.addresses (pod.bind fun p => p.status.bind (·.hostIP))
    else discovery.toList.flatMap (·.addresses none)

/-- Whether every service of a single member can be reached now; one that is not there cannot. -/
def perPodReady [Monad m] (c : Cluster) (resolves : String → m Bool)
    (services : List (Option Service)) : m Bool :=
  if c.spec.isSmart then
    services.allM fun
      | some s => s.isReachable resolves
      | none => pure false
  else pure true

end Cluster

end GridOperator
