import GridOperator.Kubernetes.Meta

/-!
# Containers
-/

namespace GridOperator.Kubernetes

/-! ## Environment -/

/-- A key of a secret. -/
structure SecretKey where
  name : String
  key : String
  optional : Option Bool := none
  deriving DecidableEq

namespace SecretKey

def toJson (s : SecretKey) : Json :=
  .sorted [("name", some (.str s.name)), ("key", some (.str s.key)),
    ("optional", s.optional.map .bool)] []

def ofNormal (j : Json) : SecretKey :=
  { name := j.members.text "name"
    key := j.members.text "key"
    optional := j.members.flag? "optional" }

end SecretKey

/-- Where the value of a variable comes from. -/
structure EnvSource where
  secretKeyRef : Option SecretKey := none
  /-- The path of a field of the pod. -/
  fieldPath : Option String := none
  other : Members := []
  deriving DecidableEq

namespace EnvSource

def toJson (s : EnvSource) : Json :=
  .sorted [("secretKeyRef", s.secretKeyRef.map SecretKey.toJson),
    ("fieldRef", s.fieldPath.map fun p => .obj [("fieldPath", .str p)])] s.other

/-- A field reference that also states a version stays among the other members. -/
def ofNormal (j : Json) : EnvSource :=
  let ms := j.members
  let path? := match ms.get? "fieldRef" with
    | some (.obj [("fieldPath", .str p)]) => some p
    | _ => none
  { secretKeyRef := ms.sub? "secretKeyRef" SecretKey.ofNormal
    fieldPath := path?
    other := ms.without ("secretKeyRef" :: if path?.isSome then ["fieldRef"] else []) }

end EnvSource

structure EnvVar where
  name : String
  value : Option String := none
  valueFrom : Option EnvSource := none
  deriving DecidableEq

namespace EnvVar

def toJson (v : EnvVar) : Json :=
  .sorted [("name", some (.str v.name)), ("value", v.value.map .str),
    ("valueFrom", v.valueFrom.map EnvSource.toJson)] []

def ofNormal (j : Json) : EnvVar :=
  { name := j.members.text "name"
    value := j.members.text? "value"
    valueFrom := j.members.sub? "valueFrom" EnvSource.ofNormal }

end EnvVar

/-! ## Parts of a container -/

structure ContainerPort where
  containerPort : Int
  name : Option String := none
  protocol : Option String := none
  other : Members := []
  deriving DecidableEq

namespace ContainerPort

def toJson (p : ContainerPort) : Json :=
  .sorted [("containerPort", some (.int p.containerPort)), ("name", p.name.map .str),
    ("protocol", p.protocol.map .str)] p.other

def ofNormal (j : Json) : ContainerPort :=
  let ms := j.members
  { containerPort := ms.int "containerPort"
    name := ms.text? "name"
    protocol := ms.text? "protocol"
    other := ms.without ["containerPort", "name", "protocol"] }

end ContainerPort

structure VolumeMount where
  name : String
  mountPath : String
  other : Members := []
  deriving DecidableEq

namespace VolumeMount

def toJson (m : VolumeMount) : Json :=
  .sorted [("name", some (.str m.name)), ("mountPath", some (.str m.mountPath))] m.other

def ofNormal (j : Json) : VolumeMount :=
  let ms := j.members
  { name := ms.text "name"
    mountPath := ms.text "mountPath"
    other := ms.without ["name", "mountPath"] }

end VolumeMount

/-- A request whose answer tells how a container is doing. -/
structure HttpGet where
  path : Option String := none
  port : IntOrText
  scheme : Option String := none
  other : Members := []
  deriving DecidableEq

namespace HttpGet

def toJson (g : HttpGet) : Json :=
  .sorted [("path", g.path.map .str), ("port", some g.port.toJson),
    ("scheme", g.scheme.map .str)] g.other

def ofNormal (j : Json) : HttpGet :=
  let ms := j.members
  { path := ms.text? "path"
    port := IntOrText.ofNormal ((ms.get? "port").getD .null)
    scheme := ms.text? "scheme"
    other := ms.without ["path", "port", "scheme"] }

end HttpGet

structure Probe where
  httpGet : Option HttpGet := none
  initialDelaySeconds : Option Int := none
  timeoutSeconds : Option Int := none
  periodSeconds : Option Int := none
  successThreshold : Option Int := none
  failureThreshold : Option Int := none
  other : Members := []
  deriving DecidableEq

namespace Probe

def toJson (p : Probe) : Json :=
  .sorted [("httpGet", p.httpGet.map HttpGet.toJson),
    ("initialDelaySeconds", p.initialDelaySeconds.map .int),
    ("timeoutSeconds", p.timeoutSeconds.map .int), ("periodSeconds", p.periodSeconds.map .int),
    ("successThreshold", p.successThreshold.map .int),
    ("failureThreshold", p.failureThreshold.map .int)] p.other

def ofNormal (j : Json) : Probe :=
  let ms := j.members
  { httpGet := ms.sub? "httpGet" HttpGet.ofNormal
    initialDelaySeconds := ms.int? "initialDelaySeconds"
    timeoutSeconds := ms.int? "timeoutSeconds"
    periodSeconds := ms.int? "periodSeconds"
    successThreshold := ms.int? "successThreshold"
    failureThreshold := ms.int? "failureThreshold"
    other := ms.without ["httpGet", "initialDelaySeconds", "timeoutSeconds", "periodSeconds",
      "successThreshold", "failureThreshold"] }

end Probe

structure SecurityContext where
  runAsNonRoot : Option Bool := none
  runAsUser : Option Int := none
  privileged : Option Bool := none
  readOnlyRootFilesystem : Option Bool := none
  allowPrivilegeEscalation : Option Bool := none
  /-- The capabilities taken from the container. -/
  dropped : Option (List String) := none
  other : Members := []
  deriving DecidableEq

namespace SecurityContext

def toJson (c : SecurityContext) : Json :=
  .sorted [("runAsNonRoot", c.runAsNonRoot.map .bool), ("runAsUser", c.runAsUser.map .int),
    ("privileged", c.privileged.map .bool),
    ("readOnlyRootFilesystem", c.readOnlyRootFilesystem.map .bool),
    ("allowPrivilegeEscalation", c.allowPrivilegeEscalation.map .bool),
    ("capabilities", c.dropped.map fun d => .obj [("drop", .strings d)])] c.other

/-- Capabilities that are more than a list of dropped ones stay among the other members. -/
def ofNormal (j : Json) : SecurityContext :=
  let ms := j.members
  let dropped? := match ms.get? "capabilities" with
    | some (.obj [("drop", .arr d)]) => some (d.filterMap Json.str?)
    | _ => none
  { runAsNonRoot := ms.flag? "runAsNonRoot"
    runAsUser := ms.int? "runAsUser"
    privileged := ms.flag? "privileged"
    readOnlyRootFilesystem := ms.flag? "readOnlyRootFilesystem"
    allowPrivilegeEscalation := ms.flag? "allowPrivilegeEscalation"
    dropped := dropped?
    other := ms.without (["runAsNonRoot", "runAsUser", "privileged", "readOnlyRootFilesystem",
      "allowPrivilegeEscalation"] ++ if dropped?.isSome then ["capabilities"] else []) }

end SecurityContext

/-! ## Containers -/

structure Container where
  name : String
  image : Option String := none
  imagePullPolicy : Option String := none
  args : Option (List String) := none
  env : Option (List EnvVar) := none
  ports : Option (List ContainerPort) := none
  /-- Limits and requests, in normal form. -/
  resources : Option Json := none
  livenessProbe : Option Probe := none
  readinessProbe : Option Probe := none
  securityContext : Option SecurityContext := none
  volumeMounts : Option (List VolumeMount) := none
  other : Members := []
  deriving DecidableEq

namespace Container

def toJson (c : Container) : Json :=
  .sorted [("name", some (.str c.name)), ("image", c.image.map .str),
    ("imagePullPolicy", c.imagePullPolicy.map .str), ("args", c.args.map .strings),
    ("env", c.env.map (.ofList EnvVar.toJson)),
    ("ports", c.ports.map (.ofList ContainerPort.toJson)), ("resources", c.resources),
    ("livenessProbe", c.livenessProbe.map Probe.toJson),
    ("readinessProbe", c.readinessProbe.map Probe.toJson),
    ("securityContext", c.securityContext.map SecurityContext.toJson),
    ("volumeMounts", c.volumeMounts.map (.ofList VolumeMount.toJson))] c.other

def ofNormal (j : Json) : Container :=
  let ms := j.members
  { name := ms.text "name"
    image := ms.text? "image"
    imagePullPolicy := ms.text? "imagePullPolicy"
    args := ms.texts? "args"
    env := ms.list? "env" EnvVar.ofNormal
    ports := ms.list? "ports" ContainerPort.ofNormal
    resources := ms.get? "resources"
    livenessProbe := ms.sub? "livenessProbe" Probe.ofNormal
    readinessProbe := ms.sub? "readinessProbe" Probe.ofNormal
    securityContext := ms.sub? "securityContext" SecurityContext.ofNormal
    volumeMounts := ms.list? "volumeMounts" VolumeMount.ofNormal
    other := ms.without ["name", "image", "imagePullPolicy", "args", "env", "ports", "resources",
      "livenessProbe", "readinessProbe", "securityContext", "volumeMounts"] }

end Container

end GridOperator.Kubernetes
