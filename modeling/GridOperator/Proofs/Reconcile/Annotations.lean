import GridOperator.Proofs.Reconcile.Finalization
import GridOperator.Proofs.Reconcile.Resumption

/-!
# Annotations of others

Anyone may annotate a stateful set, and its pods by their template. Bringing the
stateful set in line adds to its own annotations but replaces those of the pods as
a whole. What others have put on the stateful set therefore survives every pass, and
what they have put on the pods survives exactly if that is nothing: otherwise the
template changes, and the pods are replaced.
-/

namespace GridOperator

open Kubernetes Pass
open ClusterPass (within Reachable)
open MemoryStore (Partly Wholly)

/-- The annotations that the operator manages. -/
def Names.managedAnnotations : List String :=
  [ lastSpecAnnotation, topologyAnnotation, memberAccessAnnotation, checksumAnnotation]

namespace Kubernetes

/-! ## Annotations that are not managed -/

namespace ObjectMeta

variable {m n : ObjectMeta} {key name : String}

/-- Whether every annotation of `m` that the operator does not manage stands in `n` as well, with
its value. -/
def Spared (m n : ObjectMeta) : Prop :=
  ∀ key ∉ Names.managedAnnotations, ∀ value,
    m.annotation? key = some value → n.annotation? key = some value

/-- Whether there are no annotations but those that the operator manages. -/
def Bare (m : ObjectMeta) : Prop := ∀ key ∉ Names.managedAnnotations, m.annotation? key = none

theorem Spared.refl (m : ObjectMeta) : m.Spared m := fun _ _ _ h => h

theorem annotation?_annotate_of_ne (h : key ≠ name) (m : ObjectMeta) (value : String) :
    (m.annotate name value).annotation? key = m.annotation? key := by
  unfold annotate annotation?
  rw [Option.bind_some, Table.get?_set_of_ne h]
  cases m.annotations <;> rfl

/-- An annotation that is managed spares the others. -/
theorem spared_annotate (hname : name ∈ Names.managedAnnotations) (m : ObjectMeta)
    (value : String) : m.Spared (m.annotate name value) := by
  intro key hkey value' h
  rwa [annotation?_annotate_of_ne (ne_of_mem_of_not_mem hname hkey).symm]

/-- Where nothing but managed annotations is left, all annotations are spared exactly if there was
nothing else before. -/
theorem spared_iff_of_bare (hn : n.Bare) : m.Spared n ↔ m.Bare := by
  constructor
  · intro h key hkey
    refine Option.eq_none_iff_forall_ne_some.2 fun value hvalue => ?_
    cases (hn key hkey).symm.trans (h key hkey value hvalue)
  · intro h key hkey value hvalue
    cases (h key hkey).symm.trans hvalue

theorem bare_congr (h : m.annotations = n.annotations) : m.Bare ↔ n.Bare := by
  unfold Bare annotation?
  rw [h]

end ObjectMeta

end Kubernetes

/-- The operator puts nothing on the pods but what it manages. -/
theorem Cluster.get?_podAnnotations (c : Cluster) {key : String}
    (hkey : key ∉ Names.managedAnnotations) : c.podAnnotations.get? key = none := by
  refine Table.get?_foldl_set_of_notMem (fun hmem => hkey ?_) []
  rw [List.map_append, List.mem_append, List.map_map] at hmem
  rcases hmem with h | h
  · obtain ⟨_, -, rfl⟩ := List.mem_map.1 h
    simp [Names.managedAnnotations]
  · obtain rfl := List.mem_singleton.1 h
    simp [Names.managedAnnotations]

namespace Kubernetes

/-! ## The template of the pods -/

namespace PodTemplate

/-- The metadata that pods are made with. -/
def podMetadata (t : PodTemplate) : ObjectMeta := t.metadata.getD {}

/-- A template that keeps no other annotations besides its own. -/
def WellFormed (t : PodTemplate) : Prop := t.podMetadata.WellFormed

theorem wellFormed_ofNormal (j : Json) : (ofNormal j).WellFormed := by
  show (((j.members.get? "metadata").map ObjectMeta.ofNormal).getD {}).WellFormed
  cases j.members.get? "metadata" with
  | none => exact List.not_mem_nil
  | some => exact ObjectMeta.wellFormed_ofNormal _

theorem get?_metadata (t : PodTemplate) :
    Table.get? "metadata" t.toJson.members = t.metadata.map ObjectMeta.toJson := by
  unfold toJson
  rw [Json.get?_sorted (by simp only [List.map_cons, List.map_nil]; decide) List.not_mem_nil]
  rfl

theorem annotations_eq_of_toJson {t u : PodTemplate} (ht : t.WellFormed) (hu : u.WellFormed)
    (h : t.toJson = u.toJson) : t.podMetadata.annotations = u.podMetadata.annotations := by
  have hmetadata : t.metadata.map ObjectMeta.toJson = u.metadata.map ObjectMeta.toJson := by
    rw [← get?_metadata, ← get?_metadata, h]
  unfold WellFormed podMetadata at *
  cases htm : t.metadata with
  | none =>
    rw [htm, Option.map_none, eq_comm, Option.map_eq_none_iff] at hmetadata
    rw [hmetadata]
  | some m =>
    rw [htm, Option.map_some, eq_comm, Option.map_eq_some_iff] at hmetadata
    obtain ⟨n, hum, hmn⟩ := hmetadata
    rw [htm, Option.getD_some] at ht
    rw [hum, Option.getD_some] at hu
    rw [hum, Option.getD_some, Option.getD_some]
    exact ObjectMeta.annotations_eq_of_toJson ht hu hmn.symm

theorem bare_sync (c : Cluster) (settings : Settings) (t : PodTemplate) :
    (t.sync c settings).podMetadata.Bare := fun _ hkey => c.get?_podAnnotations hkey

/-- Annotations of others change with the template that loses them. -/
theorem toJson_sync_ne {t : PodTemplate} (ht : t.WellFormed) (hbare : ¬ t.podMetadata.Bare)
    (c : Cluster) (settings : Settings) : (t.sync c settings).toJson ≠ t.toJson := fun h => by
  have hsync : (t.sync c settings).WellFormed := ht
  have hannotations := annotations_eq_of_toJson hsync ht h
  exact hbare ((ObjectMeta.bare_congr hannotations).1 (bare_sync c settings t))

end PodTemplate

namespace StatefulSet

variable {s t : StatefulSet} {c : Cluster} {settings : Settings}

/-- What pods are made by. -/
def template (s : StatefulSet) : PodTemplate := (s.spec.getD {}).template

def podMetadata (s : StatefulSet) : ObjectMeta := s.template.podMetadata

/-- A stateful set that keeps no other specification, template or annotations of its pods besides
its own. -/
structure PodsWellFormed (s : StatefulSet) : Prop where
  spec : "spec" ∉ s.other.map (·.1)
  template : "template" ∉ (s.spec.getD {}).other.map (·.1)
  annotations : s.template.WellFormed

/-- Every stateful set that is read is of this kind. -/
theorem podsWellFormed_ofNormal (j : Json) : (ofNormal j).PodsWellFormed := by
  refine ⟨by simp [ofNormal, Members.without], ?_, ?_⟩
  · show "template" ∉ (((j.members.get? "spec").map StatefulSetSpec.ofNormal).getD {}).other.map _
    cases j.members.get? "spec" with
    | none => exact List.not_mem_nil
    | some => simp [StatefulSetSpec.ofNormal, Members.without]
  · show (((j.members.get? "spec").map StatefulSetSpec.ofNormal).getD {}).template.WellFormed
    cases j.members.get? "spec" with
    | none => exact List.not_mem_nil
    | some => exact PodTemplate.wellFormed_ofNormal _

theorem podsWellFormed_sync (hs : s.PodsWellFormed) (c : Cluster) (settings : Settings) :
    (s.sync c settings).PodsWellFormed := ⟨hs.spec, hs.template, hs.annotations⟩

theorem template_eq_of_toJson (hs : s.PodsWellFormed) (ht : t.PodsWellFormed)
    (h : s.toJson = t.toJson) : s.template.toJson = t.template.toJson := by
  have hspecs : ∀ {s : StatefulSet}, s.PodsWellFormed →
      Table.get? "spec" s.toJson.members = s.spec.map StatefulSetSpec.toJson := fun {s} hs => by
    unfold toJson
    rw [Json.get?_sorted (by simp only [List.map_cons, List.map_nil]; decide) hs.spec]
    rfl
  have htemplates : ∀ {spec : StatefulSetSpec}, "template" ∉ spec.other.map (·.1) →
      Table.get? "template" spec.toJson.members = some spec.template.toJson := by
    intro spec hspec
    unfold StatefulSetSpec.toJson
    rw [Json.get?_sorted (by simp only [List.map_cons, List.map_nil]; decide) hspec]
    rfl
  have hspec : s.spec.map StatefulSetSpec.toJson = t.spec.map StatefulSetSpec.toJson := by
    rw [← hspecs hs, ← hspecs ht, h]
  have htemplate := hs.template
  have htemplate' := ht.template
  unfold template
  cases hss : s.spec with
  | none =>
    rw [hss, Option.map_none, eq_comm, Option.map_eq_none_iff] at hspec
    rw [hspec]
  | some spec =>
    rw [hss, Option.map_some, eq_comm, Option.map_eq_some_iff] at hspec
    obtain ⟨spec', hts, hspec⟩ := hspec
    rw [hss, Option.getD_some] at htemplate
    rw [hts, Option.getD_some] at htemplate'
    refine Option.some.inj ?_
    rw [hts, Option.getD_some, Option.getD_some, ← htemplates htemplate, ← htemplates htemplate',
      hspec]

/-- Annotations of the stateful set itself are added to. -/
theorem spared_sync (c : Cluster) (settings : Settings) (s : StatefulSet) :
    s.metadata.Spared (s.sync c settings).metadata :=
  have hmanaged : Names.topologyAnnotation ∈ Names.managedAnnotations := by decide
  ObjectMeta.spared_annotate hmanaged _ _

/-- Annotations of the pods are replaced. -/
theorem spared_podMetadata_sync_iff (c : Cluster) (settings : Settings) (s : StatefulSet) :
    s.podMetadata.Spared (s.sync c settings).podMetadata ↔ s.podMetadata.Bare :=
  ObjectMeta.spared_iff_of_bare (PodTemplate.bare_sync c settings s.template)

/-- A stateful set that is in line as it is has no annotations of others on its pods. -/
theorem bare_of_toJson_sync (hs : s.PodsWellFormed)
    (h : (s.sync c settings).toJson = s.toJson) : s.podMetadata.Bare := by
  by_contra hbare
  exact PodTemplate.toJson_sync_ne hs.annotations hbare c settings
    (template_eq_of_toJson (podsWellFormed_sync hs c settings) hs h)

end StatefulSet

end Kubernetes

namespace PassWorld

variable {o : Outlook} {c : Cluster} {settings : Settings} {w w' : PassWorld} {s : StatefulSet}

/-! ## What a pass does to a stateful set that is there -/

theorem keeps_statefulSets {K : Type} [Resource K] [Reachable K] [Stocked K]
    (hK : ∀ w s, (Stocked.restock (K := K) w s).statefulSets = w.statefulSets)
    (p : Pass (store K) α) : Keeps (environment .unreliable o) statefulSets (within p) := by
  intro w r w' h
  obtain ⟨s, -, rfl⟩ := exec_within.1 h
  exact hK w s

/-- A cluster that is on its way out leaves its stateful set to the platform. -/
theorem keeps_finalize (c : Cluster) :
    Keeps (environment .unreliable o) statefulSets c.finalize := by
  cases hfinalizer : c.metadata.hasFinalizer with
  | false =>
    have hdone : c.finalize = pure .onChange := by
      unfold Cluster.finalize
      rw [hfinalizer]
      rfl
    exact hdone ▸ keeps_pure _
  | true =>
    rw [Cluster.finalize_eq hfinalizer]
    refine keeps_bind (fun _ _ _ h => ?_) fun _ => keeps_bind ?_ fun _ =>
      keeps_bind (keeps_statefulSets (fun _ _ => rfl) _) fun _ => keeps_pure _
    · obtain ⟨clusters, rfl, -⟩ := exec_patchStatus h
      rfl
    · rw [Cluster.cleanUp_eq]
      refine keeps_bind (keeps_statefulSets (fun _ _ => rfl) _) fun _ =>
        keeps_bind (keeps_statefulSets (fun _ _ => rfl) _) fun _ =>
        keeps_bind (keeps_lift fun _ _ _ h => ?_) fun _ => keeps_pure _
      exact congrArg (·.statefulSets) h.2

/-- What becomes of a stateful set: it is left as it is, or it is brought in line and gets a new
version. -/
def Kept (c : Cluster) (settings : Settings) (s s' : StatefulSet) : Prop :=
  s' = s ∨ ∃ version, s' = Resource.withVersion (s.sync c settings) version

theorem exists_kept_of_partly (hname : c.metadata.name = some c.name)
    (hs : w.statefulSets.objects.get? c.name = some s)
    (h : Partly (c.statefulSetGoals settings) w.statefulSets w'.statefulSets) :
    ∃ s', w'.statefulSets.objects.get? c.name = some s' ∧ Kept c settings s s' := by
  rcases get?_statefulSet_of_partly hname h with hsame | ⟨_, version, -, hstored⟩
  · exact ⟨s, hsame.trans hs, .inl rfl⟩
  · rw [hs, Option.getD_some] at hstored
    exact ⟨_, hstored, .inr ⟨version, rfl⟩⟩

/-- A pass leaves the stateful set as it is or brings it in line, wherever it ends. -/
theorem exists_kept (hname : c.metadata.name = some c.name)
    (hs : w.statefulSets.objects.get? c.name = some s) {r : Except Error Next}
    (h : Exec (environment .unreliable o) (c.reconcile settings) w r w') :
    ∃ s', w'.statefulSets.objects.get? c.name = some s' ∧ Kept c settings s s' := by
  cases hlive : c.metadata.isDeleted with
  | true =>
    rw [Cluster.reconcile_of_isDeleted hlive] at h
    exact ⟨s, by rw [keeps_finalize c h, hs], .inl rfl⟩
  | false =>
    rcases (exec_reconcile hlive h).1.placed with ⟨-, hsets⟩ | ⟨-, -, -, hpart⟩
    · exact ⟨s, by rw [hsets, hs], .inl rfl⟩
    · exact exists_kept_of_partly hname hs hpart

theorem Kept.spared {s' : StatefulSet} (h : Kept c settings s s') :
    s.metadata.Spared s'.metadata := by
  rcases h with rfl | ⟨version, rfl⟩
  · exact .refl _
  · exact s.spared_sync c settings

/-- A pass that has got through has brought the stateful set in line, as far as that makes a
difference. -/
theorem spared_of_wholly (hname : c.metadata.name = some c.name)
    (hs : w.statefulSets.objects.get? c.name = some s) (hwell : s.PodsWellFormed)
    {desired : StatefulSet} (hdesired : c.newStatefulSet? settings = .ok desired)
    (h : Wholly (c.statefulSetGoals settings) w.statefulSets w'.statefulSets) {s' : StatefulSet}
    (hs' : w'.statefulSets.objects.get? c.name = some s') :
    (s.podMetadata.Spared s'.podMetadata ↔ s.podMetadata.Bare) ∧
      (¬ s.podMetadata.Bare → s'.template.toJson ≠ s.template.toJson) := by
  have hmet := h c.name
  rw [Cluster.goal_statefulSetGoals hname hdesired, hs, hs'] at hmet
  obtain ⟨changed, ⟨⟩, hmet⟩ := hmet
  split at hmet
  · rename_i hsame
    obtain rfl := Option.some.inj hmet.symm
    have hsame : (s.sync c settings).toJson = s.toJson := of_decide_eq_true hsame
    have hbare := StatefulSet.bare_of_toJson_sync hwell hsame
    exact ⟨iff_of_true (.refl _) hbare, fun h => absurd hbare h⟩
  · obtain ⟨version, hstored⟩ := hmet
    obtain rfl := Option.some.inj hstored
    exact ⟨s.spared_podMetadata_sync_iff c settings,
      fun hbare => PodTemplate.toJson_sync_ne hwell.annotations hbare c settings⟩

/-- What others have put on a stateful set survives that it is brought in line, and every pass,
wherever it ends. What they have put on the pods survives exactly if that is nothing. Otherwise a
pass that gets through changes the template, and the pods are replaced. -/
theorem annotations_spared_iff (c : Cluster) (settings : Settings) (s : StatefulSet) :
    s.metadata.Spared (s.sync c settings).metadata ∧
    (s.podMetadata.Spared (s.sync c settings).podMetadata ↔ s.podMetadata.Bare) ∧
    ∀ {o : Outlook} {w w' : PassWorld} {r : Except Error Next},
      c.metadata.name = some c.name → w.statefulSets.objects.get? c.name = some s →
      s.PodsWellFormed → Exec (environment .unreliable o) (c.reconcile settings) w r w' →
      ∃ s', w'.statefulSets.objects.get? c.name = some s' ∧ s.metadata.Spared s'.metadata ∧
        ∀ n, r = .ok n → c.metadata.isDeleted = false → Ready o c w' →
          (s.podMetadata.Spared s'.podMetadata ↔ s.podMetadata.Bare) ∧
          (¬ s.podMetadata.Bare → s'.template.toJson ≠ s.template.toJson) := by
  refine ⟨s.spared_sync c settings, s.spared_podMetadata_sync_iff c settings, ?_⟩
  intro o w w' r hname hs hwell h
  obtain ⟨s', hs', hkept⟩ := exists_kept hname hs h
  refine ⟨s', hs', hkept.spared, ?_⟩
  rintro n rfl hlive hready
  obtain ⟨-, hset, desired, hdesired⟩ :=
    ((exec_reconcile hlive h).2 n rfl).2.placed hready
  exact spared_of_wholly hname hs hwell hdesired hset hs'

/-! ### Pods that are to be restarted -/

/-- A stateful set with a restart of its pods asked for. -/
def restarted : StatefulSet where
  metadata := { name := some "hz", space := some "default", resourceVersion := some "1" }
  spec := some { template := { metadata := some {
    annotations := some [("kubectl.kubernetes.io/restartedAt", "2024-01-01T00:00:00Z")] } } }

def restartedStored : PassWorld :=
  { singleStored with statefulSets := { objects := [("hz", restarted)], version := 1 } }

/-- The next pass gets through and takes the request back, which is a change of the template, and so
restarts the pods once more. -/
theorem annotations_spared_iff_restarted : ∃ n w' s',
    Exec (environment .unreliable {}) (single.reconcile {}) restartedStored (.ok n) w' ∧
    w'.statefulSets.objects.get? "hz" = some s' ∧
    ¬ restarted.podMetadata.Spared s'.podMetadata ∧
    s'.template.toJson ≠ restarted.template.toJson := by
  obtain ⟨n, w', h⟩ : ∃ n w', Exec (environment .reliable {}) (single.reconcile {})
    restartedStored (.ok n) w' := exists_exec_of_isOk (by decide +kernel)
  have h := exec_of_reliable h
  have hwell : restarted.PodsWellFormed :=
    ⟨List.not_mem_nil, List.not_mem_nil, List.not_mem_nil⟩
  have hready : Ready {} single w' := by
    unfold Ready reachable Cluster.perPodReady
    rfl
  obtain ⟨s', hs', -, hpods⟩ :=
    (annotations_spared_iff single {} restarted).2.2 rfl rfl hwell h
  obtain ⟨hspared, hchanged⟩ := hpods n rfl rfl hready
  have hbare : ¬ restarted.podMetadata.Bare := fun hbare => by
    cases hbare "kubectl.kubernetes.io/restartedAt" (by decide)
  exact ⟨n, w', s', h, hs', hspared.not.2 hbare, hchanged hbare⟩

end PassWorld

end GridOperator
