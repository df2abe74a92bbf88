import GridOperator.Desired.StatefulSet
import GridOperator.Proofs.Json.Records

/-!
# The note on a stateful set

A note that is written can be read: a stateful set that has been brought in line
with a cluster tells how many services of single members the cluster had. The
indices between that number and the number of a smaller cluster are stale.
-/

namespace GridOperator

open Kubernetes

/-- How many services of single members the cluster should have. -/
def Cluster.perPodCount (c : Cluster) : Nat := if c.spec.isSmart then c.spec.memberCount else 0

theorem Cluster.length_perPodServices (c : Cluster) : c.perPodServices.length = c.perPodCount := by
  unfold perPodServices perPodCount ClusterSpec.isSmart
  cases c.spec.exposeExternally with
  | none => rfl
  | some e => cases h : e.isSmart <;> simp [Option.filter, h]

namespace Topology

theorem ofJson?_obj {version count : Json} {t : Topology}
    (hversion : Json.uint32 version = some t.version)
    (hcount : Json.int32 count = some t.perPodCount) :
    ofJson? (.obj [("version", version), ("servicePerPodCount", count)]) = some t := by
  have hr : Record.ofJson? ["version", "servicePerPodCount"]
      (.obj [("version", version), ("servicePerPodCount", count)]) =
        some ⟨[("version", version), ("servicePerPodCount", count)], false⟩ := by
    simp [Record.ofJson?, List.eraseDups_cons]
  have hne : "servicePerPodCount" ≠ "version" := by decide
  unfold ofJson?
  simp only [hr, Option.bind_eq_bind, Option.bind_some, Record.required_cons_self,
    Record.required_cons_of_ne hne, hversion, hcount]
  rfl

theorem ofJson?_toJson (t : Topology) : ofJson? t.toJson = some t :=
  ofJson?_obj (Json.uint32_ofUInt32 _) (Json.int32_ofInt32 _)

theorem plain_toJson (t : Topology) : Json.Plain 0 t.toJson := by
  refine .obj (by decide) fun m hm => ?_
  rcases List.mem_cons.1 hm with rfl | hm
  · exact Json.plain_ofUInt32 _ _
  · obtain rfl := List.mem_singleton.1 hm
    exact Json.plain_ofInt32 _ _

/-- A note of the current version reads back. -/
theorem ofStatefulSet?_of_annotation {s : StatefulSet} {t : Topology}
    (h : s.metadata.annotation? Names.topologyAnnotation = some t.render)
    (hv : t.version = current) : ofStatefulSet? s = some t := by
  unfold ofStatefulSet?
  rw [h, Option.bind_some, render, Json.parse?_render t.plain_toJson, Option.bind_some,
    ofJson?_toJson, Option.filter_some, if_pos (by simpa using hv)]

theorem toInt_max (a b : Int32) : (max a b).toInt = max a.toInt b.toInt := by
  show (if a ≤ b then b else a).toInt = _
  split
  · rename_i h
    rw [Int32.le_iff_toInt_le] at h
    omega
  · rename_i h
    rw [Int32.le_iff_toInt_le] at h
    omega

theorem toInt_perPodCount_desired (c : Cluster) :
    (desired c).perPodCount.toInt = c.perPodCount := by
  unfold desired Cluster.perPodCount ClusterSpec.memberCount
  cases c.spec.isSmart with
  | false => rfl
  | true =>
    have h := toInt_max c.spec.clusterSize 0
    rw [Int32.toInt_zero] at h
    simp only [if_true, h]
    omega

/-- The services that are too many for a cluster are those that the note reaches. -/
theorem mem_staleIndices {previous : Topology} {c : Cluster} {i : Nat} :
    i ∈ staleIndices previous (desired c) ↔
      c.perPodCount ≤ i ∧ i < previous.perPodCount.toInt.toNat := by
  unfold staleIndices staleBounds
  rw [List.mem_range'_1, toInt_max, toInt_perPodCount_desired]
  omega

end Topology

end GridOperator
