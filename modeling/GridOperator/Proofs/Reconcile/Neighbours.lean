import GridOperator.Proofs.Reconcile.Services

/-!
# The services of several clusters

The services of all clusters of a namespace stand side by side and are told apart
by their names alone. The services of members are named after their cluster and a
number, and a cluster may have such a name as well: `spares_iff` says when
the one comes across the other.
-/

namespace GridOperator

open Kubernetes Pass

namespace ClusterWorld

/-- The service under a name. -/
def service? (name : String) (w : ClusterWorld) : Option Service := w.services.objects.get? name

variable {α : Type} {w w' : ClusterWorld} {c d : Cluster} {name : String}

/-! ## Services that have another name -/

theorem keeps_services {p : Pass (store Service) α}
    (hp : Keeps MemoryStore.unreliable (fun s => s.objects.get? name) p) :
    Keeps unreliable (service? name) (ClusterPass.within p) := by
  intro w r w' h
  obtain ⟨s, hs, rfl⟩ := exec_services.1 h
  exact hp hs

/-- A service that is neither one of the cluster nor has the name of one that the note tells of. -/
theorem service?_applyServices (hname : c.metadata.name = some c.name)
    (hservices : name ∉ c.services.map Resource.anyName)
    (hnote : ∀ i, name = c.podName i → w.note c.name ≤ i)
    {r : Except Error (List (Option Service))} (h : Exec unreliable c.applyServices w r w') :
    w'.service? name = w.service? name := by
  obtain ⟨services, rfl, hpursued, -⟩ := stores.exec_applyServices h
  refine hpursued.partly.eq_of_notMem ?_
  have hanyName : Resource.anyName c = c.name := ObjectMeta.anyName_of_name hname
  rw [Cluster.mem_anyName_services hname, not_or] at hservices
  rw [Cluster.names_serviceGoals, List.mem_cons, not_or]
  refine ⟨hservices.1, fun hmem => ?_⟩
  obtain ⟨i, hi, rfl⟩ := List.mem_map.1 hmem
  rcases List.mem_append.1 hi with hi | hi
  · exact hservices.2 ⟨i, List.mem_range.1 hi, rfl⟩
  · have hstale := (Topology.mem_staleIndices.1 hi).2
    rw [hanyName] at hstale
    exact Nat.not_le.2 hstale (hnote i rfl)

/-! ## A pass that nothing stands in the way of -/

theorem exists_exec_apply {template made : Service} (change : Service → Except Error Service)
    (habsent : w.service? (Resource.anyName template) = none) (hmade : change template = .ok made)
    (hname : Resource.anyName made = Resource.anyName template) :
    ∃ w', Exec unreliable (ClusterPass.within (Store.apply template change)) w (.ok .created) w' :=
  ⟨_, exec_services.2 ⟨_, Store.exec_apply_of_none change habsent hmade hname, rfl⟩⟩

theorem exists_exec_applyPerPodServices {desired : List Service}
    (hnodup : (desired.map Resource.anyName).Nodup)
    (habsent : ∀ s ∈ desired, w.service? (Resource.anyName s) = none) :
    ∃ w', Exec unreliable (Cluster.applyPerPodServices desired) w (.ok ()) w' := by
  induction desired generalizing w with
  | nil => exact ⟨w, rfl, rfl⟩
  | cons s rest ih =>
    rw [List.map_cons, List.nodup_cons] at hnodup
    rw [List.forall_mem_cons] at habsent
    obtain ⟨v, hmade⟩ := exists_exec_apply (fun found => .ok (found.syncPerPod s)) habsent.1
      rfl rfl
    obtain ⟨w', hrest⟩ := ih (w := v) hnodup.2 fun s' hs' => by
      rw [← habsent.2 s' hs']
      exact keeps_services (Store.keeps_apply fun h => hnodup.1 (h ▸ List.mem_map_of_mem hs')) hmade
    exact ⟨w', exec_bind.2 ⟨_, _, hmade, hrest⟩⟩

theorem exists_exec_removePerPodServices (c : Cluster) (indices : List Nat) (w : ClusterWorld) :
    ∃ w', Exec unreliable (c.removePerPodServices indices) w (.ok ()) w' := by
  induction indices generalizing w with
  | nil => exact ⟨w, rfl, rfl⟩
  | cons i rest ih =>
    obtain ⟨w', hrest⟩ := ih _
    exact ⟨w', exec_bind.2 ⟨_, _,
      exec_services.2 ⟨_, Store.exec_delete_self _ (c.podName i), rfl⟩, hrest⟩⟩

theorem exists_exec_readServices (desired : List Service) (w : ClusterWorld) :
    ∃ found, Exec unreliable (Cluster.readServices desired) w (.ok found) w := by
  induction desired with
  | nil => exact ⟨[], rfl, rfl⟩
  | cons s rest ih =>
    obtain ⟨found, hrest⟩ := ih
    exact ⟨_, exec_bind.2 ⟨_, _, exec_services.2 ⟨_, Store.exec_get_self _ _, rfl⟩,
      exec_bind.2 ⟨_, _, hrest, rfl, rfl⟩⟩⟩

/-- A pass that finds none of the cluster's services may come to its end, and then the discovery
service is there. -/
theorem exists_exec_applyServices (hname : c.metadata.name = some c.name)
    (habsent : ∀ s ∈ c.services, w.service? (Resource.anyName s) = none) :
    ∃ found w', Exec unreliable c.applyServices w (.ok found) w' ∧ w'.service? c.name ≠ none := by
  rw [Cluster.services, List.forall_mem_cons] at habsent
  have hn := c.name_notMem_perPodServices
  have hanyName := Cluster.anyName_discoveryService hname
  obtain ⟨v₁, hdiscovery⟩ := exists_exec_apply
    (fun found => .ok (found.syncDiscovery c)) habsent.1 rfl rfl
  obtain ⟨v₂, hmembers⟩ := exists_exec_applyPerPodServices c.nodup_anyName_perPodServices
    (w := v₁) fun s hs => by
      rw [← habsent.2 s hs]
      exact keeps_services (Store.keeps_apply fun h =>
        hn (hanyName ▸ h ▸ List.mem_map_of_mem hs)) hdiscovery
  have hset : Exec unreliable (ClusterPass.within
      (Store.get (K := StatefulSet) (Resource.anyName c))) v₂
      (.ok (v₂.statefulSets.objects.get? (Resource.anyName c))) v₂ :=
    Script.exec_call.2 ⟨_, .inl ⟨rfl, rfl⟩, rfl⟩
  obtain ⟨w', hremoved⟩ := exists_exec_removePerPodServices c _ v₂
  obtain ⟨found, hfound⟩ := exists_exec_readServices c.perPodServices w'
  have hexec : Exec unreliable c.applyServices w (.ok found) w' :=
    exec_bind.2 ⟨_, _, hdiscovery, exec_bind.2 ⟨_, _, hmembers,
      exec_bind.2 ⟨_, _, hset, exec_bind.2 ⟨_, _, hremoved, hfound⟩⟩⟩⟩
  refine ⟨found, w', hexec, ?_⟩
  obtain ⟨services, rfl, hpursued, -⟩ := stores.exec_applyServices hexec
  have hmet := hpursued.wholly.met (c.nodup_serviceGoals_stale _) (c.discovery_mem_serviceGoals _)
  rw [← hanyName]
  exact Option.isSome_iff_ne_none.1 hmet.isSome

/-! ## Two clusters -/

theorem has_iff_service? {i : Nat} : w.Has c.name i ↔ w.service? (c.podName i) ≠ none :=
  Option.isSome_iff_ne_none

/-- The service of a member is made where there is none. -/
theorem exists_exec_has (hname : c.metadata.name = some c.name) {i : Nat}
    (hi : i < c.perPodCount) : ∃ r w',
      Exec unreliable c.applyServices { w with services := {} } r w' ∧ w'.Has c.name i := by
  obtain ⟨found, w', h, -⟩ := exists_exec_applyServices (w := { w with services := {} }) hname
    fun _ _ => rfl
  obtain ⟨-, p, hcount, hp, hdone⟩ := exec_applyServices hname h
  obtain ⟨hmade, -⟩ := hdone _ rfl
  refine ⟨_, w', h, (hp.has i).2 ⟨.inr (by rwa [hmade, hcount]), fun hr => ?_⟩⟩
  have := (hp.stale i hr).1
  omega

/-- A service of the name of a member that the note tells of is removed if there is one. -/
theorem exists_exec_not_has (hname : c.metadata.name = some c.name) {i : Nat}
    (hcount : c.perPodCount ≤ i) (hi : i < w.note c.name) (s : Service) : ∃ r w',
      Exec unreliable c.applyServices
          { w with services := MemoryStore.put (c.podName i) s {} } r w' ∧
        ¬ w'.Has c.name i := by
  obtain ⟨found, w', h, -⟩ := exists_exec_applyServices hname
    (w := { w with services := MemoryStore.put (c.podName i) s {} })
    fun s' hs' => MemoryStore.get?_put_of_ne (fun hs => by
      have hmem := List.mem_map_of_mem (f := Resource.anyName) hs'
      rw [Cluster.mem_anyName_services hname, hs] at hmem
      rcases hmem with hs | ⟨j, hj, hs⟩
      · exact c.podName_ne_name i hs
      · exact Nat.not_lt.2 hcount (c.podName_injective hs ▸ hj)) _ _
  obtain ⟨-, p, hp_count, hp, hdone⟩ := exec_applyServices hname h
  exact ⟨_, w', h, fun hhas => ((hp.has i).1 hhas).2 ((hdone _ rfl).2 i (by omega) hi)⟩

theorem exists_service?_ne (hname : c.metadata.name = some c.name) {i : Nat}
    (hi : i < c.perPodCount ∨ i < w.note c.name) : ∃ services r w',
      Exec unreliable c.applyServices { w with services } r w' ∧
        w'.service? (c.podName i) ≠ services.objects.get? (c.podName i) := by
  by_cases hcount : i < c.perPodCount
  · obtain ⟨r, w', h, hhas⟩ := exists_exec_has (w := w) hname hcount
    exact ⟨{}, r, w', h, has_iff_service?.1 hhas⟩
  · obtain ⟨r, w', h, hgone⟩ := exists_exec_not_has hname (Nat.not_lt.1 hcount)
      (hi.resolve_left hcount) c.discoveryService
    refine ⟨_, r, w', h, fun hsame => hgone (has_iff_service?.2 ?_)⟩
    rw [hsame, MemoryStore.get?_put_self]
    exact Option.some_ne_none _

/-- Whether bringing the services of `c` in line leaves the services that `d` should have alone,
whatever is stored and whatever comes of the calls. -/
def Spares (w : ClusterWorld) (c d : Cluster) : Prop :=
  ∀ services r w', Exec unreliable c.applyServices { w with services } r w' →
    ∀ s ∈ d.services, w'.service? (Resource.anyName s) =
      services.objects.get? (Resource.anyName s)

/-- The other cluster must not be named like the service of a member that the first one makes or
that the note tells of, and the first one not like the service of a member of the other one. -/
theorem spares_iff (hc : c.metadata.name = some c.name) (hd : d.metadata.name = some d.name)
    (hne : c.name ≠ d.name) : w.Spares c d ↔
      (∀ i, d.name = c.podName i → c.perPodCount ≤ i ∧ w.note c.name ≤ i) ∧
        ∀ j < d.perPodCount, c.name ≠ d.podName j := by
  constructor
  · intro hkept
    have hkept' : ∀ services r w', Exec unreliable c.applyServices { w with services } r w' →
        ∀ name ∈ d.services.map Resource.anyName, w'.service? name = services.objects.get? name :=
      fun services r w' h => List.forall_mem_map.2 (hkept services r w' h)
    refine ⟨fun i hi => ?_, fun j hj hj' => ?_⟩
    · have hmem := (Cluster.mem_anyName_services hd).2 (.inl rfl)
      by_contra hlt
      obtain ⟨services, r, w', h, hchanged⟩ := exists_service?_ne hc (w := w) (i := i) (by omega)
      exact hchanged (hkept' services r w' h _ (hi ▸ hmem))
    · have hmem := (Cluster.mem_anyName_services hd).2 (.inr ⟨j, hj, hj'⟩)
      obtain ⟨found, w', h, hthere⟩ := exists_exec_applyServices (w := { w with services := {} }) hc
        fun _ _ => rfl
      exact hthere (hkept' {} _ w' h _ hmem)
  · rintro ⟨hdiscovery, hmembers⟩ services r w' h s hs
    have hmem := List.mem_map_of_mem (f := Resource.anyName) hs
    refine service?_applyServices hc (w := { w with services }) ?_ (fun i hi => ?_) h
    · exact Cluster.notMem_services hc hd hne
        (fun i hi hname => Nat.not_lt.2 (hdiscovery i hname).1 hi) hmembers hmem
    · rcases (Cluster.mem_anyName_services hd).1 hmem with hname | ⟨j, hj, hname⟩
      · exact (hdiscovery i (hname.symm.trans hi)).2
      · exact absurd (Cluster.podName_eq_iff.1 (hi.symm.trans hname)).1 hne

/-- A cluster with a service for each of its two members. -/
def smart : Cluster where
  metadata := { name := some "hz", space := some "default" }
  spec := { clusterSize := 2, exposeExternally := some {} }

/-- A cluster that is named like the second member of the other one. -/
def numbered : Cluster where
  metadata := { name := some "hz-1", space := some "default" }
  spec := {}

theorem spares_iff_numbered : smart.metadata.name = some smart.name ∧
    numbered.metadata.name = some numbered.name ∧ smart.name ≠ numbered.name ∧
      ¬ Spares {} smart numbered := by
  have hne : smart.name ≠ numbered.name := by decide
  refine ⟨rfl, rfl, hne, fun hspares => ?_⟩
  have hcount := (((spares_iff rfl rfl hne).1 hspares).1 1 (by decide)).1
  exact absurd hcount (by decide)

end ClusterWorld

end GridOperator
