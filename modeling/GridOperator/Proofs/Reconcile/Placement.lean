import GridOperator.Proofs.Kubernetes.Annotations
import GridOperator.Proofs.Reconcile.Services

/-!
# What a pass does to the stateful set

A pass that brings the stateful set in line leaves a note of the services that
the cluster should have, also where the stateful set is the same as before. One
that fails there may have left the note all the same.
-/

namespace GridOperator

open Kubernetes Pass
open MemoryStore (Partly)

/-! ## The note on a stateful set in line -/

namespace Topology

theorem ofStatefulSet?_congr {s t : StatefulSet}
    (h : s.metadata.annotations = t.metadata.annotations) :
    ofStatefulSet? s = ofStatefulSet? t := by
  unfold ofStatefulSet? ObjectMeta.annotation?
  rw [h]

theorem ofStatefulSet?_sync (c : Cluster) (settings : Settings) (s : StatefulSet) :
    ofStatefulSet? (s.sync c settings) = some (desired c) :=
  ofStatefulSet?_of_annotation (s.metadata.annotation?_annotate _ _) rfl

end Topology

namespace Cluster

variable {c : Cluster} {settings : Settings}

theorem exists_sync_of_newStatefulSet? {s : StatefulSet} (h : c.newStatefulSet? settings = .ok s) :
    ∃ made : StatefulSet, made.metadata = c.ownedMetadata ∧ made.WellFormed ∧
      s = made.sync c settings := by
  unfold newStatefulSet? at h
  cases hpod : c.podSpec? settings.platform with
  | error e =>
    rw [hpod] at h
    cases h
  | ok pod =>
    rw [hpod] at h
    refine ⟨_, ?_, ?_, (Except.ok.inj h).symm⟩
    · rfl
    · exact ⟨List.not_mem_nil, List.not_mem_nil⟩

theorem anyName_of_newStatefulSet? (hname : c.metadata.name = some c.name) {s : StatefulSet}
    (h : c.newStatefulSet? settings = .ok s) : Resource.anyName s = c.name := by
  obtain ⟨made, hmeta, -, rfl⟩ := exists_sync_of_newStatefulSet? h
  refine ObjectMeta.anyName_of_name (m := (made.sync c settings).metadata) ?_
  show made.metadata.name = some c.name
  rw [hmeta]
  exact hname

theorem goal_statefulSetGoals (hname : c.metadata.name = some c.name) {desired : StatefulSet}
    (hdesired : c.newStatefulSet? settings = .ok desired) :
    Goal.of (c.statefulSetGoals settings) c.name =
      .bring desired fun found => .ok (found.sync c settings) := by
  rw [statefulSetGoals_of_ok hdesired, Goal.inLine, Goal.of_singleton,
    if_pos (anyName_of_newStatefulSet? hname hdesired).symm]

/-- The stateful set is as before, or it has met its goal. -/
theorem met_of_partly (hname : c.metadata.name = some c.name) {sets sets' : MemoryStore StatefulSet}
    (h : Partly (c.statefulSetGoals settings) sets sets') :
    sets'.objects.get? c.name = sets.objects.get? c.name ∨
      ∃ desired, c.newStatefulSet? settings = .ok desired ∧
        (Goal.bring desired fun found => .ok (found.sync c settings)).Met
          (sets.objects.get? c.name) (sets'.objects.get? c.name) := by
  cases hdesired : c.newStatefulSet? settings with
  | error e =>
    unfold statefulSetGoals at h
    rw [hdesired] at h
    exact .inl (h.eq_of_notMem List.not_mem_nil)
  | ok desired =>
    have hmet := h c.name
    rw [goal_statefulSetGoals hname hdesired] at hmet
    exact hmet.imp_right fun h => ⟨desired, rfl, h⟩

/-- A stateful set that has met its goal has the note, also where nothing had to be written. -/
theorem noted_of_met {desired : StatefulSet} (hdesired : c.newStatefulSet? settings = .ok desired)
    {before after : Option StatefulSet} (hbefore : ∀ s, before = some s → s.WellFormed)
    (h : (Goal.bring desired fun found => .ok (found.sync c settings)).Met before after) :
    ∃ s, after = some s ∧ s.WellFormed ∧ Topology.ofStatefulSet? s = some (Topology.desired c) := by
  obtain ⟨changed, hchanged, h⟩ := h
  obtain rfl := Except.ok.inj hchanged
  split at h
  · rename_i hsame
    subst h
    obtain ⟨found, rfl, hsame⟩ := (Option.any_eq_true _ _).1 hsame
    have hfound := hbefore found rfl
    have hannotations := StatefulSet.annotations_eq_of_toJson (s := found.sync c settings) hfound
      hfound (of_decide_eq_true hsame)
    exact ⟨found, rfl, hfound, by
      rw [← Topology.ofStatefulSet?_congr hannotations, Topology.ofStatefulSet?_sync]⟩
  · obtain ⟨version, rfl⟩ := h
    refine ⟨_, rfl, ?_, (Topology.ofStatefulSet?_congr rfl).trans
      (Topology.ofStatefulSet?_sync c settings _)⟩
    cases before with
    | none =>
      obtain ⟨made, -, hmade, rfl⟩ := exists_sync_of_newStatefulSet? hdesired
      exact hmade
    | some found => exact hbefore found rfl

end Cluster

namespace ClusterWorld

variable {w w' : ClusterWorld} {c : Cluster} {settings : Settings}

/-- Whether the stateful set of a cluster keeps nothing that its own fields say otherwise. -/
def WellFormed (w : ClusterWorld) (name : String) : Prop :=
  ∀ s, w.statefulSets.objects.get? name = some s → s.WellFormed

theorem note_of_get? {name : String} {s : StatefulSet}
    (hs : w.statefulSets.objects.get? name = some s)
    (h : Topology.ofStatefulSet? s = some (Topology.desired c)) : w.note name = c.perPodCount := by
  unfold note
  rw [hs, Option.bind_some, h, Option.getD_some, Topology.toInt_perPodCount_desired,
    Int.toNat_natCast]

theorem exec_applyStatefulSet (hname : c.metadata.name = some c.name) (hw : w.WellFormed c.name)
    {r : Except Error Unit} (h : Exec unreliable (c.applyStatefulSet settings) w r w') :
    w'.services = w.services ∧ w'.WellFormed c.name ∧
      ((w'.note c.name = w.note c.name ∧ ∃ e, r = .error e) ∨ w'.note c.name = c.perPodCount) := by
  obtain ⟨sets, rfl, hpursued, hmade⟩ := stores.exec_applyStatefulSet h
  have hmet {desired : StatefulSet} (hdesired : c.newStatefulSet? settings = .ok desired)
      (hmet : (Goal.bring desired fun found => .ok (found.sync c settings)).Met
        (w.statefulSets.objects.get? c.name) (sets.objects.get? c.name)) :
      WellFormed { w with statefulSets := sets } c.name ∧
        note { w with statefulSets := sets } c.name = c.perPodCount := by
    obtain ⟨s, hs, hform, hnote⟩ := Cluster.noted_of_met hdesired hw hmet
    exact ⟨fun t ht => Option.some.inj (hs.symm.trans ht) ▸ hform, note_of_get? hs hnote⟩
  refine ⟨rfl, ?_⟩
  cases r with
  | ok a =>
    obtain ⟨desired, hdesired⟩ := hmade a rfl
    have hgoal := hpursued.wholly c.name
    rw [Cluster.goal_statefulSetGoals hname hdesired] at hgoal
    exact (hmet hdesired hgoal).imp_right .inr
  | error e =>
    rcases Cluster.met_of_partly hname hpursued.partly with hsame | ⟨desired, hdesired, hgoal⟩
    · replace hsame : sets.objects.get? c.name = w.statefulSets.objects.get? c.name := hsame
      have hnote : note { w with statefulSets := sets } c.name = w.note c.name := by
        unfold note
        dsimp only
        rw [hsame]
      exact ⟨fun s hs => hw s (hsame ▸ hs), .inl ⟨hnote, e, rfl⟩⟩
    · exact (hmet hdesired hgoal).imp_right .inr

theorem exec_place (hname : c.metadata.name = some c.name) (hw : w.WellFormed c.name)
    {perPod : List (Option Service)} {r : Except Error Bool}
    (h : Exec unreliable (c.place settings perPod) w r w') :
    w'.services = w.services ∧ w'.WellFormed c.name ∧
      ((w'.note c.name = w.note c.name ∧ r ≠ .ok true) ∨ w'.note c.name = c.perPodCount) := by
  cases Cluster.placeCourse_of_exec h with
  | unseen hready =>
    obtain rfl := still_perPodReady c perPod hready
    exact ⟨rfl, hw, .inl ⟨rfl, nofun⟩⟩
  | @waiting _ _ patched hready hpatch =>
    obtain rfl := still_perPodReady c perPod hready
    obtain rfl := still_patchStatus _ _ hpatch
    exact ⟨rfl, hw, .inl ⟨rfl, by cases patched <;> nofun⟩⟩
  | unconfigured hready hconfig =>
    obtain rfl := still_perPodReady c perPod hready
    obtain rfl := still_applyConfigMap c hconfig
    exact ⟨rfl, hw, .inl ⟨rfl, nofun⟩⟩
  | placed hready hconfig hset =>
    obtain rfl := still_perPodReady c perPod hready
    obtain rfl := still_applyConfigMap c hconfig
    obtain ⟨hservices, hform, hnote⟩ := exec_applyStatefulSet hname hw hset
    refine ⟨hservices, hform, hnote.imp_left fun ⟨hnote, e, he⟩ => ⟨hnote, ?_⟩⟩
    subst he
    nofun

end ClusterWorld

end GridOperator
