import GridOperator.Proofs.Desired.Names
import GridOperator.Proofs.Store.Goals
import GridOperator.Reconcile.Steps
import GridOperator.Validity

/-!
# What a pass over a cluster is to make of its objects

There is a goal for each object of the cluster, and for each service that is left
over. The goals go by the `identity` of the cluster alone, and all of them are lasting:
what is made of an object is made of it again.
-/

namespace GridOperator

open Kubernetes

/-! ## Objects in line stay as they are -/

theorem Kubernetes.ObjectMeta.annotate_annotate (m : ObjectMeta) (key value other : String) :
    (m.annotate key other).annotate key value = m.annotate key value := by
  simp [annotate]

namespace Kubernetes.Service

theorem keepNodePort_map (current desired : List ServicePort) {port : ServicePort}
    (h : port ∈ desired) :
    keepNodePort (desired.map (keepNodePort current)) port = keepNodePort current port := by
  -- the first port of the name has been given the node port of the first port of the name
  have hfind : (desired.find? (·.name = port.name)).isSome :=
    List.find?_isSome.2 ⟨port, h, by simp⟩
  obtain ⟨first, hfirst⟩ := Option.isSome_iff_exists.1 hfind
  have hname : first.name = port.name := by simpa using List.find?_some hfirst
  have hmap : (desired.map (keepNodePort current)).find? (·.name = port.name) =
      some (keepNodePort current first) := by
    rw [List.find?_map]
    exact congrArg (Option.map _) hfirst
  unfold keepNodePort at hmap ⊢
  rw [hmap, Option.bind_some, hname]

theorem mergePorts_mergePorts (current desired : List ServicePort) (inside : Bool) :
    mergePorts (mergePorts current desired inside) desired inside =
      mergePorts current desired inside := by
  cases inside with
  | true => rfl
  | false => exact List.map_congr_left fun _ => keepNodePort_map current desired

theorem syncDiscovery_syncDiscovery (c : Cluster) (s : Service) :
    (s.syncDiscovery c).syncDiscovery c = s.syncDiscovery c := by
  unfold syncDiscovery
  simp only [Option.getD_some, mergePorts_mergePorts]

theorem syncPerPod_syncPerPod (s desired : Service) :
    (s.syncPerPod desired).syncPerPod desired = s.syncPerPod desired := by
  unfold syncPerPod
  simp only [Option.getD_some, mergePorts_mergePorts]

end Kubernetes.Service

namespace Kubernetes

/-- The last cluster counts. It does not make the member anew, so that where there is none yet it
has to make the one that the first cluster has made. -/
theorem PodSpec.sync_sync {c d : Cluster} {p : PodSpec}
    (h : p.containers ≠ [] ∨ c.memberContainer = d.memberContainer)
    (settings settings' : Settings) :
    (p.sync c settings).sync d settings' = p.sync d settings' := by
  cases hp : p.containers with
  | nil =>
    have hmember := h.resolve_left fun hne => hne hp
    simp [PodSpec.sync, Container.sync, hp, hmember]
  | cons m ms => simp [PodSpec.sync, Container.sync, hp]

/-- What the pods are made by. -/
def StatefulSet.podSpec (s : StatefulSet) : PodSpec := (s.spec.getD {}).template.spec.getD .empty

theorem StatefulSet.sync_sync {c d : Cluster} {s : StatefulSet}
    (h : s.podSpec.containers ≠ [] ∨ c.memberContainer = d.memberContainer)
    (settings settings' : Settings) :
    (s.sync c settings).sync d settings' = s.sync d settings' := by
  have hpods := PodSpec.sync_sync h settings settings'
  unfold podSpec at hpods
  unfold StatefulSet.sync PodTemplate.sync
  simp only [Option.getD_some, ObjectMeta.annotate_annotate, hpods]

end Kubernetes

/-! ## Goals for the objects of a cluster -/

namespace Cluster

def roleGoals (c : Cluster) (platform : Platform) : List (String × Goal ClusterRole) :=
  [Goal.inLine (c.clusterRole platform) fun found => .ok { found with
    rules := (c.clusterRole platform).rules
    metadata := { found.metadata with labels := (c.clusterRole platform).metadata.labels } }]

def accountGoals (c : Cluster) : List (String × Goal ServiceAccount) :=
  [Goal.inLine c.serviceAccount fun found => .ok { found with
    metadata := { found.metadata with labels := some c.labels } }]

def bindingGoals (c : Cluster) : List (String × Goal ClusterRoleBinding) :=
  [Goal.inLine c.clusterRoleBinding fun found => .ok { found with
    subjects := c.clusterRoleBinding.subjects
    metadata := { found.metadata with labels := c.clusterRoleBinding.metadata.labels } }]

def discoveryGoals (c : Cluster) : List (String × Goal Service) :=
  [Goal.inLine c.discoveryService fun found => .ok (found.syncDiscovery c)]

/-- To bring services of members in line. -/
def memberGoals (desired : List Service) : List (String × Goal Service) :=
  desired.map fun d => Goal.inLine d fun found => .ok (found.syncPerPod d)

/-- To remove services of members. -/
def staleGoals (c : Cluster) (indices : List Nat) : List (String × Goal Service) :=
  indices.map fun i => (c.podName i, .remove)

/-- What is to be done where services of these indices are left over. -/
def serviceGoals (c : Cluster) (stale : List Nat) : List (String × Goal Service) :=
  c.discoveryGoals ++ (memberGoals c.perPodServices ++ c.staleGoals stale)

/-- The configuration, in a namespace with these maps. -/
def desiredConfig (c : Cluster) (maps : List DataMap) : ConfigMap :=
  c.configMap (maps.filter c.owns)

def configGoals (c : Cluster) (maps : List DataMap) : List (String × Goal ConfigMap) :=
  [Goal.inLine (c.desiredConfig maps) fun found => .ok { found with
    data := (c.desiredConfig maps).data
    metadata := { found.metadata with labels := (c.desiredConfig maps).metadata.labels } }]

/-- A cluster that no stateful set can be made for has no goal. -/
def statefulSetGoals (c : Cluster) (settings : Settings) : List (String × Goal StatefulSet) :=
  match c.newStatefulSet? settings with
  | .ok desired => [Goal.inLine desired fun found => .ok (found.sync c settings)]
  | .error _ => []

theorem memberGoals_cons (d : Service) (rest : List Service) : memberGoals (d :: rest) =
    [Goal.inLine d fun found => .ok (found.syncPerPod d)] ++ memberGoals rest := rfl

theorem staleGoals_cons (c : Cluster) (i : Nat) (rest : List Nat) :
    c.staleGoals (i :: rest) = [(c.podName i, .remove)] ++ c.staleGoals rest := rfl

theorem statefulSetGoals_of_ok {c : Cluster} {settings : Settings} {desired : StatefulSet}
    (h : c.newStatefulSet? settings = .ok desired) : c.statefulSetGoals settings =
      [Goal.inLine desired fun found => .ok (found.sync c settings)] := by
  unfold statefulSetGoals
  rw [h]

/-! ### Names -/

theorem names_memberGoals (desired : List Service) :
    (memberGoals desired).map (·.1) = desired.map Resource.anyName := List.map_map

theorem names_staleGoals (c : Cluster) (indices : List Nat) :
    (c.staleGoals indices).map (·.1) = indices.map c.podName := List.map_map

theorem names_serviceGoals (c : Cluster) (stale : List Nat) : (c.serviceGoals stale).map (·.1) =
    c.name :: (List.range c.perPodCount ++ stale).map c.podName := by
  rw [serviceGoals, List.map_append, List.map_append, names_memberGoals, names_staleGoals,
    anyName_perPodServices, List.map_append]
  exact congrArg (· :: _) c.anyName_ownedMetadata

theorem podName_of_perPodServices {c : Cluster} {i : Nat} {desired : Service}
    (h : c.perPodServices[i]? = some desired) : Resource.anyName desired = c.podName i := by
  have hname := congrArg (·[i]?) c.anyName_perPodServices
  rw [List.getElem?_map, List.getElem?_map, h, List.getElem?_range
    (c.length_perPodServices ▸ (List.getElem?_eq_some_iff.1 h).1)] at hname
  exact Option.some.inj hname

theorem discovery_mem_serviceGoals (c : Cluster) (stale : List Nat) :
    Goal.inLine c.discoveryService (fun found => .ok (found.syncDiscovery c)) ∈
      c.serviceGoals stale :=
  List.mem_append_left _ (List.mem_singleton_self _)

theorem inLine_mem_serviceGoals {c : Cluster} {i : Nat} {desired : Service}
    (h : c.perPodServices[i]? = some desired) (stale : List Nat) :
    (c.podName i, Goal.bring desired fun found => .ok (found.syncPerPod desired)) ∈
      c.serviceGoals stale := by
  rw [← podName_of_perPodServices h]
  exact List.mem_append_right _
    (List.mem_append_left _ (List.mem_map_of_mem (List.mem_of_getElem? h)))

theorem remove_mem_serviceGoals {c : Cluster} {i : Nat} {stale : List Nat} (h : i ∈ stale) :
    (c.podName i, Goal.remove) ∈ c.serviceGoals stale :=
  List.mem_append_right _ (List.mem_append_right _ (List.mem_map_of_mem h))

theorem disjoint_memberGoals {c : Cluster} {stale : List Nat}
    (h : ∀ i ∈ stale, c.perPodCount ≤ i) :
    ∀ name ∈ (memberGoals c.perPodServices).map (·.1), name ∉ (c.staleGoals stale).map (·.1) := by
  rw [names_memberGoals, names_staleGoals]
  intro name hmember hstale
  obtain ⟨i, hi, rfl⟩ := mem_anyName_perPodServices.1 hmember
  have hle := h i ((List.mem_map_of_injective c.podName_injective).1 hstale)
  omega

/-- The discovery service is named like the cluster, which no service of a member is. -/
theorem disjoint_discoveryGoals (c : Cluster) (stale : List Nat) :
    ∀ name ∈ c.discoveryGoals.map (·.1),
      name ∉ (memberGoals c.perPodServices ++ c.staleGoals stale).map (·.1) := by
  rw [List.map_append, names_memberGoals, names_staleGoals]
  intro name hdiscovery hmember
  obtain rfl : name = c.name := (List.mem_singleton.1 hdiscovery).trans c.anyName_ownedMetadata
  rcases List.mem_append.1 hmember with h | h
  · exact c.name_notMem_perPodServices h
  · obtain ⟨i, -, h⟩ := List.mem_map.1 h
    exact c.podName_ne_name i h

theorem nodup_serviceGoals {c : Cluster} {stale : List Nat} (hnodup : stale.Nodup)
    (h : ∀ i ∈ stale, c.perPodCount ≤ i) : ((c.serviceGoals stale).map (·.1)).Nodup := by
  have hindices : (List.range c.perPodCount ++ stale).Nodup :=
    List.nodup_append.2 ⟨List.nodup_range, hnodup, fun i hi j hj hij =>
      Nat.not_le.2 (List.mem_range.1 hi) (hij ▸ h j hj)⟩
  rw [names_serviceGoals, List.nodup_cons]
  refine ⟨fun hname => ?_, hindices.map c.podName_injective⟩
  obtain ⟨i, -, hi⟩ := List.mem_map.1 hname
  exact c.podName_ne_name i hi

/-! ### What is made of an object is made of it again -/

theorem lasting_roleGoals (c : Cluster) (platform : Platform) :
    ∀ g ∈ c.roleGoals platform, g.2.Lasting :=
  List.forall_mem_singleton.2 (Goal.lasting_bring _ (fun _ _ => rfl) fun _ => rfl)

theorem lasting_accountGoals (c : Cluster) : ∀ g ∈ c.accountGoals, g.2.Lasting :=
  List.forall_mem_singleton.2 (Goal.lasting_bring _ (fun _ _ => rfl) fun _ => rfl)

theorem lasting_bindingGoals (c : Cluster) : ∀ g ∈ c.bindingGoals, g.2.Lasting :=
  List.forall_mem_singleton.2 (Goal.lasting_bring _ (fun _ _ => rfl) fun _ => rfl)

theorem lasting_serviceGoals (c : Cluster) (stale : List Nat) :
    ∀ g ∈ c.serviceGoals stale, g.2.Lasting := by
  refine List.forall_mem_append.2 ⟨?_, List.forall_mem_append.2 ⟨?_, ?_⟩⟩
  · exact List.forall_mem_singleton.2 <|
      Goal.lasting_bring _ (fun _ _ => rfl) (Service.syncDiscovery_syncDiscovery c)
  · exact List.forall_mem_map.2 fun d _ =>
      Goal.lasting_bring _ (fun _ _ => rfl) fun s => s.syncPerPod_syncPerPod d
  · exact List.forall_mem_map.2 fun _ _ => trivial

theorem lasting_configGoals (c : Cluster) (maps : List DataMap) :
    ∀ g ∈ c.configGoals maps, g.2.Lasting :=
  List.forall_mem_singleton.2 (Goal.lasting_bring _ (fun _ _ => rfl) fun _ => rfl)

theorem lasting_statefulSetGoals (c : Cluster) (settings : Settings) :
    ∀ g ∈ c.statefulSetGoals settings, g.2.Lasting := by
  unfold statefulSetGoals
  cases c.newStatefulSet? settings with
  | error => exact fun _ => nofun
  | ok desired =>
    exact List.forall_mem_singleton.2 <|
      Goal.lasting_bring _ (fun _ _ => rfl) fun _ => StatefulSet.sync_sync (.inr rfl) _ _

/-! ## What goals go by -/

/-- The cluster without what changes while it is there, besides its specification. -/
def identity (c : Cluster) : Cluster where
  metadata := {
    name := c.metadata.name
    generateName := c.metadata.generateName
    space := c.metadata.space
    uid := c.metadata.uid
    deletionTimestamp := c.metadata.deletionTimestamp }
  spec := c.spec

variable {c d : Cluster}

/-- What only looks at identities is the same for clusters of one identity. -/
theorem congr_of_identity {α : Type} {f : Cluster → α} (hf : ∀ c, f c.identity = f c)
    (h : c.identity = d.identity) : f c = f d := by
  rw [← hf c, h, hf d]

theorem metadata_name_congr (h : c.identity = d.identity) : c.metadata.name = d.metadata.name :=
  congr_of_identity (f := fun c => c.metadata.name) (fun _ => rfl) h

theorem isDeleted_congr (h : c.identity = d.identity) :
    c.metadata.isDeleted = d.metadata.isDeleted :=
  congr_of_identity (f := fun c => c.metadata.isDeleted) (fun _ => rfl) h

theorem check_congr (h : c.identity = d.identity) : c.check = d.check :=
  congr_of_identity (f := check) (fun _ => rfl) h

/-- A cluster of the same identity is named as well. -/
theorem named_of_identity (hname : c.metadata.name = some c.name) (h : d.identity = c.identity) :
    d.metadata.name = some d.name := by
  rw [name, metadata_name_congr h, hname, Option.getD_some]

end Cluster

end GridOperator
