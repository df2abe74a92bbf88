import GridOperator.Kubernetes.Meta

/-!
# Volumes and claims
-/

namespace GridOperator.Kubernetes

structure HostPath where
  path : String
  type : Option String := none
  deriving DecidableEq

/-- A volume of a pod. Of the many sources it may have, three have fields of their own. -/
structure Volume where
  name : String
  /-- The configuration map whose entries are the files of the volume. -/
  configMap : Option String := none
  /-- The secret whose entries are the files of the volume. -/
  secret : Option String := none
  hostPath : Option HostPath := none
  other : Members := []
  deriving DecidableEq

namespace Volume

def toJson (v : Volume) : Json :=
  .sorted [("name", some (.str v.name)),
    ("configMap", v.configMap.map fun n => .obj [("name", .str n)]),
    ("secret", v.secret.map fun n => .obj [("secretName", .str n)]),
    ("hostPath", v.hostPath.map fun h =>
      .sorted [("path", some (.str h.path)), ("type", h.type.map .str)] [])] v.other

/-- A source that says more than the name of a map or secret stays among the other members. -/
def ofNormal (j : Json) : Volume :=
  let ms := j.members
  let configMap? := match ms.get? "configMap" with
    | some (.obj [("name", .str n)]) => some n
    | _ => none
  let secret? := match ms.get? "secret" with
    | some (.obj [("secretName", .str n)]) => some n
    | _ => none
  { name := ms.text "name"
    configMap := configMap?
    secret := secret?
    hostPath := ms.sub? "hostPath" fun h => ⟨h.members.text "path", h.members.text? "type"⟩
    other := ms.without (["name", "hostPath"] ++ (if configMap?.isSome then ["configMap"] else [])
      ++ if secret?.isSome then ["secret"] else []) }

end Volume

structure ClaimSpec where
  accessModes : Option (List String) := none
  /-- The requests and limits of storage. -/
  resources : Option Json := none
  storageClassName : Option String := none
  other : Members := []
  deriving DecidableEq

namespace ClaimSpec

def toJson (s : ClaimSpec) : Json :=
  .sorted [("accessModes", s.accessModes.map .strings), ("resources", s.resources),
    ("storageClassName", s.storageClassName.map .str)] s.other

def ofNormal (j : Json) : ClaimSpec :=
  let ms := j.members
  { accessModes := ms.texts? "accessModes"
    resources := ms.get? "resources"
    storageClassName := ms.text? "storageClassName"
    other := ms.without ["accessModes", "resources", "storageClassName"] }

end ClaimSpec

/-- A claim of storage that is made anew for every pod. -/
structure Claim where
  metadata : ObjectMeta
  spec : Option ClaimSpec := none
  other : Members := []
  deriving DecidableEq

namespace Claim

def toJson (c : Claim) : Json :=
  .sorted [("apiVersion", some (.str "v1")), ("kind", some (.str "PersistentVolumeClaim")),
    ("metadata", some c.metadata.toJson), ("spec", c.spec.map ClaimSpec.toJson)] c.other

def ofNormal (j : Json) : Claim :=
  let ms := j.members
  { metadata := ObjectMeta.ofNormal ((ms.get? "metadata").getD .null)
    spec := ms.sub? "spec" ClaimSpec.ofNormal
    other := ms.without ["apiVersion", "kind", "metadata", "spec"] }

end Claim

end GridOperator.Kubernetes
