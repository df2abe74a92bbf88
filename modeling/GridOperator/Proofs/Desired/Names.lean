import GridOperator.Proofs.Text.Joined
import GridOperator.Proofs.Topology
import Mathlib.Data.List.Nodup

/-!
# The names of a cluster's objects

The discovery service is named like the cluster, and the service of a member like
the cluster and the number of the member. A name tells which of them it is.
-/

namespace GridOperator

open Kubernetes

theorem Kubernetes.ObjectMeta.anyName_of_name {m : ObjectMeta} {name : String}
    (h : m.name = some name) : m.anyName = name := by
  unfold anyName
  rw [h]
  rfl

namespace Cluster

variable {c d : Cluster} {name : String} {i j : Nat}

theorem name_of_metadata (h : c.metadata.name = some name) : c.name = name := by
  unfold Cluster.name
  rw [h, Option.getD_some]

theorem anyName_ownedMetadata (c : Cluster) : c.ownedMetadata.anyName = c.name := by
  unfold ObjectMeta.anyName ownedMetadata Cluster.name
  cases c.metadata.name <;> rfl

theorem anyName_discoveryService (hname : c.metadata.name = some c.name) :
    Resource.anyName c.discoveryService = c.name :=
  ObjectMeta.anyName_of_name hname

/-! ## Members -/

theorem podName_eq_iff : c.podName i = d.podName j ↔ c.name = d.name ∧ i = j :=
  Text.append_dash_toString_eq_iff

theorem podName_injective (c : Cluster) : Function.Injective c.podName := fun _ _ h =>
  (podName_eq_iff.1 h).2

theorem podName_ne_name (c : Cluster) (i : Nat) : c.podName i ≠ c.name := by
  intro h
  have hl := congrArg String.length h
  unfold podName at hl
  rw [String.length_append, String.length_append] at hl
  have : ("-" : String).length = 1 := rfl
  omega

theorem anyName_perPodServices (c : Cluster) :
    c.perPodServices.map Resource.anyName = (List.range c.perPodCount).map c.podName := by
  unfold perPodServices perPodCount ClusterSpec.isSmart
  cases c.spec.exposeExternally with
  | none => rfl
  | some e =>
    cases h : e.isSmart
    · simp [Option.filter, h]
    · simp only [Option.filter, h, if_true, List.map_map, Option.any_some]
      rfl

theorem mem_anyName_perPodServices :
    name ∈ c.perPodServices.map Resource.anyName ↔ ∃ i < c.perPodCount, name = c.podName i := by
  rw [anyName_perPodServices, List.mem_map]
  simp only [List.mem_range, eq_comm]

theorem nodup_anyName_perPodServices (c : Cluster) :
    (c.perPodServices.map Resource.anyName).Nodup := by
  rw [anyName_perPodServices]
  exact List.nodup_range.map c.podName_injective

theorem name_notMem_perPodServices (c : Cluster) :
    c.name ∉ c.perPodServices.map Resource.anyName := by
  rw [mem_anyName_perPodServices]
  rintro ⟨i, -, h⟩
  exact c.podName_ne_name i h.symm

/-! ## All services -/

/-- The services that the cluster should have. -/
def services (c : Cluster) : List Service := c.discoveryService :: c.perPodServices

theorem mem_anyName_services (hname : c.metadata.name = some c.name) :
    name ∈ c.services.map Resource.anyName ↔
      name = c.name ∨ ∃ i < c.perPodCount, name = c.podName i := by
  rw [services, List.map_cons, List.mem_cons, anyName_discoveryService hname,
    mem_anyName_perPodServices]

/-- Names of members tell their cluster and their number, so that only the name of a cluster may be
the name of another one's member. -/
theorem notMem_services (hc : c.metadata.name = some c.name) (hd : d.metadata.name = some d.name)
    (hne : c.name ≠ d.name) (hdiscovery : ∀ i < c.perPodCount, d.name ≠ c.podName i)
    (hmembers : ∀ j < d.perPodCount, c.name ≠ d.podName j)
    (hmem : name ∈ d.services.map Resource.anyName) : name ∉ c.services.map Resource.anyName := by
  rw [mem_anyName_services hd] at hmem
  rw [mem_anyName_services hc]
  rintro (rfl | ⟨i, hi, rfl⟩)
  · rcases hmem with hname | ⟨j, hj, hname⟩
    · exact hne hname
    · exact hmembers j hj hname
  · rcases hmem with hname | ⟨j, hj, hname⟩
    · exact hdiscovery i hi hname.symm
    · exact hne (podName_eq_iff.1 hname).1

end Cluster

end GridOperator
