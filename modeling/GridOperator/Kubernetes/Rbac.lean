import GridOperator.Kubernetes.Meta
import GridOperator.Kubernetes.Shape.Resource

/-!
# Accounts, roles and bindings
-/

namespace GridOperator.Kubernetes

structure ServiceAccount where
  metadata : ObjectMeta
  other : Members := []
  deriving DecidableEq

namespace ServiceAccount

def toJson (a : ServiceAccount) : Json :=
  .sorted [("apiVersion", some (.str "v1")), ("kind", some (.str "ServiceAccount")),
    ("metadata", some a.metadata.toJson)] a.other

def ofNormal (j : Json) : ServiceAccount :=
  { metadata := ObjectMeta.ofNormal ((j.get? "metadata").getD .null)
    other := j.members.without ["apiVersion", "kind", "metadata"] }

instance : Resource ServiceAccount where
  kind := "ServiceAccount"
  metadata := metadata
  withMetadata a m := { a with metadata := m }
  toJson := toJson
  ofJson? j := (Shape.serviceAccount.normal? j).map ofNormal

end ServiceAccount

/-- What may be done with which resources. -/
structure PolicyRule where
  apiGroups : Option (List String) := none
  resources : Option (List String) := none
  verbs : List String
  other : Members := []
  deriving DecidableEq

namespace PolicyRule

def toJson (r : PolicyRule) : Json :=
  .sorted [("apiGroups", r.apiGroups.map .strings), ("resources", r.resources.map .strings),
    ("verbs", some (.strings r.verbs))] r.other

def ofNormal (j : Json) : PolicyRule :=
  let ms := j.members
  { apiGroups := ms.texts? "apiGroups"
    resources := ms.texts? "resources"
    verbs := (ms.texts? "verbs").getD []
    other := ms.without ["apiGroups", "resources", "verbs"] }

end PolicyRule

structure ClusterRole where
  metadata : ObjectMeta
  rules : Option (List PolicyRule) := none
  other : Members := []
  deriving DecidableEq

namespace ClusterRole

def toJson (r : ClusterRole) : Json :=
  .sorted [("apiVersion", some (.str "rbac.authorization.k8s.io/v1")),
    ("kind", some (.str "ClusterRole")), ("metadata", some r.metadata.toJson),
    ("rules", r.rules.map (.ofList PolicyRule.toJson))] r.other

def ofNormal (j : Json) : ClusterRole :=
  { metadata := ObjectMeta.ofNormal ((j.get? "metadata").getD .null)
    rules := j.members.list? "rules" PolicyRule.ofNormal
    other := j.members.without ["apiVersion", "kind", "metadata", "rules"] }

instance : Resource ClusterRole where
  kind := "ClusterRole"
  metadata := metadata
  withMetadata r m := { r with metadata := m }
  toJson := toJson
  ofJson? j := (Shape.clusterRole.normal? j).map ofNormal

end ClusterRole

structure RoleRef where
  apiGroup : String
  kind : String
  name : String
  deriving DecidableEq

namespace RoleRef

def toJson (r : RoleRef) : Json :=
  .sorted [("apiGroup", some (.str r.apiGroup)), ("kind", some (.str r.kind)),
    ("name", some (.str r.name))] []

def ofNormal (j : Json) : RoleRef :=
  ⟨j.members.text "apiGroup", j.members.text "kind", j.members.text "name"⟩

end RoleRef

structure Subject where
  kind : String
  name : String
  space : Option String := none
  apiGroup : Option String := none
  deriving DecidableEq

namespace Subject

def toJson (s : Subject) : Json :=
  .sorted [("kind", some (.str s.kind)), ("name", some (.str s.name)),
    ("namespace", s.space.map .str), ("apiGroup", s.apiGroup.map .str)] []

def ofNormal (j : Json) : Subject :=
  { kind := j.members.text "kind"
    name := j.members.text "name"
    space := j.members.text? "namespace"
    apiGroup := j.members.text? "apiGroup" }

end Subject

structure ClusterRoleBinding where
  metadata : ObjectMeta
  roleRef : RoleRef
  subjects : Option (List Subject) := none
  deriving DecidableEq

namespace ClusterRoleBinding

def toJson (b : ClusterRoleBinding) : Json :=
  .sorted [("apiVersion", some (.str "rbac.authorization.k8s.io/v1")),
    ("kind", some (.str "ClusterRoleBinding")), ("metadata", some b.metadata.toJson),
    ("roleRef", some b.roleRef.toJson), ("subjects", b.subjects.map (.ofList Subject.toJson))] []

def ofNormal (j : Json) : ClusterRoleBinding :=
  { metadata := ObjectMeta.ofNormal ((j.get? "metadata").getD .null)
    roleRef := RoleRef.ofNormal ((j.get? "roleRef").getD .null)
    subjects := j.members.list? "subjects" Subject.ofNormal }

instance : Resource ClusterRoleBinding where
  kind := "ClusterRoleBinding"
  metadata := metadata
  withMetadata b m := { b with metadata := m }
  toJson := toJson
  ofJson? j := (Shape.clusterRoleBinding.normal? j).map ofNormal

end ClusterRoleBinding

end GridOperator.Kubernetes
