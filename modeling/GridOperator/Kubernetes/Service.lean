import GridOperator.Kubernetes.Meta
import GridOperator.Kubernetes.Shape.Resource

/-!
# Services
-/

namespace GridOperator.Kubernetes

structure ServicePort where
  name : Option String := none
  protocol : Option String := none
  port : Int
  targetPort : Option IntOrText := none
  /-- The port the platform opens on every node. -/
  nodePort : Option Int := none
  other : Members := []
  deriving DecidableEq

namespace ServicePort

def toJson (p : ServicePort) : Json :=
  .sorted [("name", p.name.map .str), ("protocol", p.protocol.map .str),
    ("port", some (.int p.port)), ("targetPort", p.targetPort.map IntOrText.toJson),
    ("nodePort", p.nodePort.map .int)] p.other

def ofNormal (j : Json) : ServicePort :=
  let ms := j.members
  { name := ms.text? "name"
    protocol := ms.text? "protocol"
    port := ms.int "port"
    targetPort := ms.sub? "targetPort" IntOrText.ofNormal
    nodePort := ms.int? "nodePort"
    other := ms.without ["name", "protocol", "port", "targetPort", "nodePort"] }

end ServicePort

structure ServiceSpec where
  type : Option String := none
  selector : Option TextMap := none
  ports : Option (List ServicePort) := none
  publishNotReadyAddresses : Option Bool := none
  other : Members := []
  deriving DecidableEq

namespace ServiceSpec

def toJson (s : ServiceSpec) : Json :=
  .sorted [("type", s.type.map .str), ("selector", s.selector.map TextMap.toJson),
    ("ports", s.ports.map (.ofList ServicePort.toJson)),
    ("publishNotReadyAddresses", s.publishNotReadyAddresses.map .bool)] s.other

def ofNormal (j : Json) : ServiceSpec :=
  let ms := j.members
  { type := ms.text? "type"
    selector := ms.textMap? "selector"
    ports := ms.list? "ports" ServicePort.ofNormal
    publishNotReadyAddresses := ms.flag? "publishNotReadyAddresses"
    other := ms.without ["type", "selector", "ports", "publishNotReadyAddresses"] }

end ServiceSpec

/-- A point where a load balancer takes traffic. -/
structure Ingress where
  ip : Option String := none
  hostname : Option String := none
  other : Members := []
  deriving DecidableEq

namespace Ingress

def toJson (i : Ingress) : Json :=
  .sorted [("ip", i.ip.map .str), ("hostname", i.hostname.map .str)] i.other

def ofNormal (j : Json) : Ingress :=
  let ms := j.members
  { ip := ms.text? "ip"
    hostname := ms.text? "hostname"
    other := ms.without ["ip", "hostname"] }

end Ingress

structure ServiceStatus where
  /-- The ingress points of the load balancer, both levels of which may be missing. -/
  loadBalancer : Option (Option (List Ingress)) := none
  other : Members := []
  deriving DecidableEq

namespace ServiceStatus

def toJson (s : ServiceStatus) : Json :=
  .sorted [("loadBalancer", s.loadBalancer.map fun ingress =>
    .sorted [("ingress", ingress.map (.ofList Ingress.toJson))] [])] s.other

def ofNormal (j : Json) : ServiceStatus :=
  { loadBalancer := j.members.sub? "loadBalancer" fun lb =>
      lb.members.list? "ingress" Ingress.ofNormal
    other := j.members.without ["loadBalancer"] }

end ServiceStatus

structure Service where
  metadata : ObjectMeta
  spec : Option ServiceSpec := none
  status : Option ServiceStatus := none
  deriving DecidableEq

namespace Service

def toJson (s : Service) : Json :=
  .sorted [("apiVersion", some (.str "v1")), ("kind", some (.str "Service")),
    ("metadata", some s.metadata.toJson), ("spec", s.spec.map ServiceSpec.toJson),
    ("status", s.status.map ServiceStatus.toJson)] []

def ofNormal (j : Json) : Service :=
  let ms := j.members
  { metadata := ObjectMeta.ofNormal ((ms.get? "metadata").getD .null)
    spec := ms.sub? "spec" ServiceSpec.ofNormal
    status := ms.sub? "status" ServiceStatus.ofNormal }

instance : Resource Service where
  kind := "Service"
  metadata := metadata
  withMetadata s m := { s with metadata := m }
  toJson := toJson
  ofJson? j := (Shape.service.normal? j).map ofNormal

def type? (s : Service) : Option String := s.spec.bind (·.type)

/-- The ingress points of the load balancer. -/
def ingress (s : Service) : List Ingress :=
  ((s.status.bind (·.loadBalancer)).bind id).getD []

end Service

end GridOperator.Kubernetes
