import GridOperator.Kubernetes.Meta
import GridOperator.Kubernetes.Shape.Pod

/-!
# Pods as they are observed

A pod is only read, so of its status the fields named here are all that is kept
apart; the document itself stands beside them.
-/

namespace GridOperator.Kubernetes

/-- Why a container has not started. -/
structure Waiting where
  reason : Option String := none
  message : Option String := none
  deriving DecidableEq

structure ContainerStatus where
  name : String
  ready : Bool := false
  restartCount : Int := 0
  waiting : Option Waiting := none
  /-- The exit code of a container that has ended. -/
  exitCode : Option Int := none
  deriving DecidableEq

namespace ContainerStatus

def ofNormal (j : Json) : ContainerStatus :=
  let ms := j.members
  let state := ((ms.get? "state").getD .null).members
  { name := ms.text "name"
    ready := ms.flag "ready"
    restartCount := ms.int "restartCount"
    waiting := state.sub? "waiting" fun w => ⟨w.members.text? "reason", w.members.text? "message"⟩
    exitCode := state.sub? "terminated" fun t => t.members.int "exitCode" }

end ContainerStatus

structure PodStatus where
  podIP : Option String := none
  hostIP : Option String := none
  containers : Option (List ContainerStatus) := none
  initContainers : Option (List ContainerStatus) := none
  deriving DecidableEq

structure Pod where
  metadata : ObjectMeta
  status : Option PodStatus := none
  /-- Its members other than the metadata, in normal form. -/
  other : Members := []
  deriving DecidableEq

namespace Pod

def toJson (p : Pod) : Json :=
  .sorted [("metadata", some p.metadata.toJson)] p.other

def statusOfNormal (j : Json) : PodStatus :=
  let ms := j.members
  { podIP := ms.text? "podIP"
    hostIP := ms.text? "hostIP"
    containers := ms.list? "containerStatuses" ContainerStatus.ofNormal
    initContainers := ms.list? "initContainerStatuses" ContainerStatus.ofNormal }

def ofNormal (j : Json) : Pod :=
  let ms := j.members
  { metadata := ObjectMeta.ofNormal ((ms.get? "metadata").getD .null)
    status := ms.sub? "status" statusOfNormal
    other := ms.without ["metadata"] }

instance : Resource Pod where
  kind := "Pod"
  metadata := metadata
  withMetadata p m := { p with metadata := m }
  toJson := toJson
  ofJson? j := (Shape.pod.normal? j).map ofNormal

end Pod

end GridOperator.Kubernetes
