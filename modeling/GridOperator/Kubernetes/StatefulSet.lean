import GridOperator.Kubernetes.Container
import GridOperator.Kubernetes.Volume
import GridOperator.Kubernetes.Shape.Resource

/-!
# Stateful sets and the pods they make
-/

namespace GridOperator.Kubernetes

structure PodSecurityContext where
  fsGroup : Option Int := none
  runAsNonRoot : Option Bool := none
  runAsUser : Option Int := none
  other : Members := []
  deriving DecidableEq

namespace PodSecurityContext

def toJson (c : PodSecurityContext) : Json :=
  .sorted [("fsGroup", c.fsGroup.map .int), ("runAsNonRoot", c.runAsNonRoot.map .bool),
    ("runAsUser", c.runAsUser.map .int)] c.other

def ofNormal (j : Json) : PodSecurityContext :=
  let ms := j.members
  { fsGroup := ms.int? "fsGroup"
    runAsNonRoot := ms.flag? "runAsNonRoot"
    runAsUser := ms.int? "runAsUser"
    other := ms.without ["fsGroup", "runAsNonRoot", "runAsUser"] }

end PodSecurityContext

/-- What a pod runs and where. References to pull secrets and the rules of placement are passed
on from the resource that asks for them, in normal form. -/
structure PodSpec where
  containers : List Container
  initContainers : Option (List Container) := none
  volumes : Option (List Volume) := none
  serviceAccountName : Option String := none
  securityContext : Option PodSecurityContext := none
  terminationGracePeriodSeconds : Option Int := none
  imagePullSecrets : Option (List Json) := none
  affinity : Option Json := none
  tolerations : Option (List Json) := none
  nodeSelector : Option TextMap := none
  topologySpreadConstraints : Option (List Json) := none
  other : Members := []
  deriving DecidableEq

namespace PodSpec

def empty : PodSpec := { containers := [] }

def toJson (s : PodSpec) : Json :=
  .sorted [("containers", some (.ofList Container.toJson s.containers)),
    ("initContainers", s.initContainers.map (.ofList Container.toJson)),
    ("volumes", s.volumes.map (.ofList Volume.toJson)),
    ("serviceAccountName", s.serviceAccountName.map .str),
    ("securityContext", s.securityContext.map PodSecurityContext.toJson),
    ("terminationGracePeriodSeconds", s.terminationGracePeriodSeconds.map .int),
    ("imagePullSecrets", s.imagePullSecrets.map .arr), ("affinity", s.affinity),
    ("tolerations", s.tolerations.map .arr), ("nodeSelector", s.nodeSelector.map TextMap.toJson),
    ("topologySpreadConstraints", s.topologySpreadConstraints.map .arr)] s.other

def ofNormal (j : Json) : PodSpec :=
  let ms := j.members
  { containers := ms.list "containers" Container.ofNormal
    initContainers := ms.list? "initContainers" Container.ofNormal
    volumes := ms.list? "volumes" Volume.ofNormal
    serviceAccountName := ms.text? "serviceAccountName"
    securityContext := ms.sub? "securityContext" PodSecurityContext.ofNormal
    terminationGracePeriodSeconds := ms.int? "terminationGracePeriodSeconds"
    imagePullSecrets := ms.list? "imagePullSecrets" id
    affinity := ms.get? "affinity"
    tolerations := ms.list? "tolerations" id
    nodeSelector := ms.textMap? "nodeSelector"
    topologySpreadConstraints := ms.list? "topologySpreadConstraints" id
    other := ms.without ["containers", "initContainers", "volumes", "serviceAccountName",
      "securityContext", "terminationGracePeriodSeconds", "imagePullSecrets", "affinity",
      "tolerations", "nodeSelector", "topologySpreadConstraints"] }

end PodSpec

structure PodTemplate where
  metadata : Option ObjectMeta := none
  spec : Option PodSpec := none
  deriving DecidableEq

namespace PodTemplate

def toJson (t : PodTemplate) : Json :=
  .sorted [("metadata", t.metadata.map ObjectMeta.toJson), ("spec", t.spec.map PodSpec.toJson)] []

def ofNormal (j : Json) : PodTemplate :=
  { metadata := j.members.sub? "metadata" ObjectMeta.ofNormal
    spec := j.members.sub? "spec" PodSpec.ofNormal }

end PodTemplate

structure StatefulSetSpec where
  selector : LabelSelector := {}
  template : PodTemplate := {}
  replicas : Option Int := none
  serviceName : Option String := none
  volumeClaimTemplates : Option (List Claim) := none
  other : Members := []
  deriving DecidableEq

namespace StatefulSetSpec

def toJson (s : StatefulSetSpec) : Json :=
  .sorted [("selector", some s.selector.toJson), ("template", some s.template.toJson),
    ("replicas", s.replicas.map .int), ("serviceName", s.serviceName.map .str),
    ("volumeClaimTemplates", s.volumeClaimTemplates.map (.ofList Claim.toJson))] s.other

def ofNormal (j : Json) : StatefulSetSpec :=
  let ms := j.members
  { selector := LabelSelector.ofNormal ((ms.get? "selector").getD .null)
    template := PodTemplate.ofNormal ((ms.get? "template").getD .null)
    replicas := ms.int? "replicas"
    serviceName := ms.text? "serviceName"
    volumeClaimTemplates := ms.list? "volumeClaimTemplates" Claim.ofNormal
    other := ms.without ["selector", "template", "replicas", "serviceName",
      "volumeClaimTemplates"] }

end StatefulSetSpec

structure StatefulSet where
  metadata : ObjectMeta
  spec : Option StatefulSetSpec := none
  other : Members := []
  deriving DecidableEq

namespace StatefulSet

def toJson (s : StatefulSet) : Json :=
  .sorted [("apiVersion", some (.str "apps/v1")), ("kind", some (.str "StatefulSet")),
    ("metadata", some s.metadata.toJson), ("spec", s.spec.map StatefulSetSpec.toJson)] s.other

def ofNormal (j : Json) : StatefulSet :=
  let ms := j.members
  { metadata := ObjectMeta.ofNormal ((ms.get? "metadata").getD .null)
    spec := ms.sub? "spec" StatefulSetSpec.ofNormal
    other := ms.without ["apiVersion", "kind", "metadata", "spec"] }

instance : Resource StatefulSet where
  kind := "StatefulSet"
  metadata := metadata
  withMetadata s m := { s with metadata := m }
  toJson := toJson
  ofJson? j := (Shape.statefulSet.normal? j).map ofNormal

end StatefulSet

end GridOperator.Kubernetes
