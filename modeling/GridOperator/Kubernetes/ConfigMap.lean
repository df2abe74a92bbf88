import GridOperator.Kubernetes.Meta
import GridOperator.Kubernetes.Shape.Resource

/-!
# Configuration maps
-/

namespace GridOperator.Kubernetes

structure ConfigMap where
  metadata : ObjectMeta
  data : Option TextMap := none
  other : Members := []
  deriving DecidableEq

namespace ConfigMap

def toJson (c : ConfigMap) : Json :=
  .sorted [("apiVersion", some (.str "v1")), ("kind", some (.str "ConfigMap")),
    ("metadata", some c.metadata.toJson), ("data", c.data.map TextMap.toJson)] c.other

def ofNormal (j : Json) : ConfigMap :=
  { metadata := ObjectMeta.ofNormal ((j.get? "metadata").getD .null)
    data := j.members.textMap? "data"
    other := j.members.without ["apiVersion", "kind", "metadata", "data"] }

instance : Resource ConfigMap where
  kind := "ConfigMap"
  metadata := metadata
  withMetadata c m := { c with metadata := m }
  toJson := toJson
  ofJson? j := (Shape.configMap.normal? j).map ofNormal

end ConfigMap

end GridOperator.Kubernetes
