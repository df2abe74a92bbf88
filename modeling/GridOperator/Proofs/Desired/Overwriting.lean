import GridOperator.Proofs.Desired.Goals
import GridOperator.Proofs.Table

/-!
# What is overwritten when a stateful set is brought in line

The part of a stateful set that goes by the cluster (`StatefulSet.managed`) is
written as a whole, whatever stood there, and the rest (`StatefulSet.unmanaged`) is
left as it is. A stateful set that has been brought in line with one cluster after
another is therefore as if there had been the last one only.
-/

namespace GridOperator

open Kubernetes

namespace Kubernetes

/-! ## The two parts of a stateful set -/

/-- The part of a template that goes by the cluster. The last four are those of the first
container. -/
structure ManagedPods where
  annotations : Option TextMap
  imagePullSecrets : Option (List Json)
  affinity : Option Json
  tolerations : Option (List Json)
  nodeSelector : Option TextMap
  topologySpreadConstraints : Option (List Json)
  image : Option String
  imagePullPolicy : Option String
  env : Option (List EnvVar)
  resources : Option Json
  deriving DecidableEq

/-- The part of a stateful set that goes by the cluster. -/
@[ext]
structure Managed where
  /-- The note of the topology that the cluster was brought to. -/
  topology : Option String
  replicas : Option Int
  pods : ManagedPods
  deriving DecidableEq

def PodTemplate.managed (t : PodTemplate) : ManagedPods :=
  let pod := t.spec.getD .empty
  let member := pod.containers.head?
  { annotations := (t.metadata.getD {}).annotations
    imagePullSecrets := pod.imagePullSecrets
    affinity := pod.affinity
    tolerations := pod.tolerations
    nodeSelector := pod.nodeSelector
    topologySpreadConstraints := pod.topologySpreadConstraints
    image := member.bind (·.image)
    imagePullPolicy := member.bind (·.imagePullPolicy)
    env := member.bind (·.env)
    resources := member.bind (·.resources) }

def StatefulSet.managed (s : StatefulSet) : Managed where
  topology := s.metadata.annotation? Names.topologyAnnotation
  replicas := (s.spec.getD {}).replicas
  pods := (s.spec.getD {}).template.managed

def Container.unmanaged (m : Container) : Container :=
  { m with image := none, imagePullPolicy := none, env := none, resources := none }

def PodSpec.unmanaged (p : PodSpec) : PodSpec :=
  { p with
    imagePullSecrets := none
    affinity := none
    tolerations := none
    nodeSelector := none
    topologySpreadConstraints := none
    containers := match p.containers with
      | [] => []
      | m :: ms => m.unmanaged :: ms }

def PodTemplate.unmanaged (t : PodTemplate) : PodTemplate where
  metadata := some { t.metadata.getD {} with annotations := none }
  spec := some (t.spec.getD .empty).unmanaged

/-- A stateful set without its managed part. Where there is nothing to hold that part there might as
well be something empty. -/
def StatefulSet.unmanaged (s : StatefulSet) : StatefulSet :=
  let spec := s.spec.getD {}
  { s with
    metadata := { s.metadata with
      annotations := some (Table.erase Names.topologyAnnotation (s.metadata.annotations.getD [])) }
    spec := some { spec with replicas := none, template := spec.template.unmanaged } }

end Kubernetes

namespace Cluster

/-- The managed part of the pods of a cluster. -/
def managedPods (c : Cluster) (settings : Settings) : ManagedPods :=
  let scheduling := c.spec.scheduling.getD {}
  { annotations := some c.podAnnotations
    imagePullSecrets := c.spec.imagePullSecrets
    affinity := scheduling.affinity
    tolerations := scheduling.tolerations
    nodeSelector := scheduling.nodeSelector
    topologySpreadConstraints := scheduling.topologySpreadConstraints
    image := some c.spec.image
    imagePullPolicy := some (c.spec.imagePullPolicy.getD "IfNotPresent")
    env := some (c.environment settings)
    resources := some (c.spec.resources.getD (.obj [])) }

def managed (c : Cluster) (settings : Settings) : Managed where
  topology := some (Topology.desired c).render
  replicas := some c.spec.clusterSize.toInt
  pods := c.managedPods settings

end Cluster

namespace Kubernetes

/-! ## Bringing in line, once -/

theorem PodTemplate.managed_sync (c : Cluster) (settings : Settings) (t : PodTemplate) :
    (t.sync c settings).managed = c.managedPods settings := by
  unfold PodTemplate.sync PodSpec.sync
  cases h : (t.spec.getD .empty).containers <;> rfl

theorem PodSpec.unmanaged_sync {p : PodSpec} (h : p.containers ≠ []) (c : Cluster)
    (settings : Settings) : (p.sync c settings).unmanaged = p.unmanaged := by
  cases hp : p.containers with
  | nil => exact absurd hp h
  | cons m ms => simp [PodSpec.sync, PodSpec.unmanaged, Container.sync, Container.unmanaged, hp]

namespace StatefulSet

variable {s : StatefulSet}

theorem managed_sync (c : Cluster) (settings : Settings) (s : StatefulSet) :
    (s.sync c settings).managed = c.managed settings := by
  have htopology : (s.sync c settings).managed.topology = (c.managed settings).topology :=
    Table.get?_set_self _ _ _
  have hpods : (s.sync c settings).managed.pods = (c.managed settings).pods :=
    PodTemplate.managed_sync c settings _
  exact Managed.ext htopology rfl hpods

theorem unmanaged_sync (h : s.podSpec.containers ≠ []) (c : Cluster) (settings : Settings) :
    (s.sync c settings).unmanaged = s.unmanaged := by
  have hpods := PodSpec.unmanaged_sync h c settings
  unfold podSpec at hpods
  unfold unmanaged sync PodTemplate.sync PodTemplate.unmanaged ObjectMeta.annotate
  simp only [Option.getD_some, Table.erase_set, hpods]

/-! ## Bringing in line again and again -/

/-- A stateful set that is brought in line with one cluster after another. -/
def syncAll (s : StatefulSet) (clusters : List (Cluster × Settings)) : StatefulSet :=
  clusters.foldl (fun s e => s.sync e.1 e.2) s

/-- No container is ever taken away. -/
theorem containers_sync_ne_nil (c : Cluster) (settings : Settings) (s : StatefulSet) :
    (s.sync c settings).podSpec.containers ≠ [] := by
  show (s.podSpec.sync c settings).containers ≠ []
  unfold PodSpec.sync
  cases s.podSpec.containers <;> exact List.cons_ne_nil _ _

/-- However often a stateful set has been brought in line, the last cluster counts. -/
theorem sync_syncAll (h : s.podSpec.containers ≠ []) (earlier : List (Cluster × Settings))
    (c : Cluster) (settings : Settings) :
    (s.syncAll earlier).sync c settings = s.sync c settings := by
  induction earlier generalizing s with
  | nil => rfl
  | cons e earlier ih =>
    calc ((s.sync e.1 e.2).syncAll earlier).sync c settings
      _ = (s.sync e.1 e.2).sync c settings := ih (containers_sync_ne_nil _ _ _)
      _ = s.sync c settings := sync_sync (.inl h) _ _

/-- A stateful set that has a member is overwritten where it is managed, with what goes by the last
cluster alone, and left as it is otherwise. -/
theorem sync_overwrites (h : s.podSpec.containers ≠ []) (c : Cluster) (settings : Settings) :
    (∀ (before : Cluster) (settings' : Settings),
      (s.sync before settings').sync c settings = s.sync c settings) ∧
    (s.sync c settings).unmanaged = s.unmanaged ∧
    ∀ earlier : List (Cluster × Settings),
      s.syncAll (earlier ++ [(c, settings)]) = s.sync c settings ∧
      (s.syncAll (earlier ++ [(c, settings)])).managed = c.managed settings := by
  refine ⟨fun before settings' => sync_sync (.inl h) settings' settings,
    unmanaged_sync h c settings, fun earlier => ?_⟩
  have hlast : s.syncAll (earlier ++ [(c, settings)]) = s.sync c settings := by
    unfold syncAll
    rw [List.foldl_append]
    exact sync_syncAll h earlier c settings
  exact ⟨hlast, hlast ▸ managed_sync c settings s⟩

/-- A stateful set whose pods have a container of others beside the member. -/
def accompanied : StatefulSet where
  metadata := { name := some "hz" }
  spec := some { template := {
    spec := some { containers := [{ name := Names.member }, { name := "sidecar" }] } } }

/-- A cluster that is bound to some nodes. -/
def bound : Cluster where
  metadata := { name := some "hz" }
  spec := { scheduling := some { nodeSelector := some [("disk", "ssd")] } }

/-- The rule of placement goes with the cluster that asks for it. -/
theorem sync_overwrites_bound :
    (accompanied.sync bound {}).managed.pods.nodeSelector = some [("disk", "ssd")] ∧
      (accompanied.syncAll [(bound, {}), ({ bound with spec := {} }, {})]).managed =
        Cluster.managed { bound with spec := {} } {} := by
  have hmember : accompanied.podSpec.containers ≠ [] := List.cons_ne_nil _ _
  exact ⟨rfl, ((sync_overwrites hmember { bound with spec := {} } {}).2.2 [(bound, {})]).2⟩

end StatefulSet

end Kubernetes

end GridOperator
