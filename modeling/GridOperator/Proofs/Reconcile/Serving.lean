import GridOperator.Proofs.Desired.Services
import GridOperator.Proofs.Reconcile.Reliability

/-!
# What there is once the services have been brought in line

The goals for the services of a cluster, spelled out: each member has its service,
those that the stateful set tells of beyond are gone, and no other service has been
touched.
-/

namespace GridOperator

open Kubernetes Pass
open MemoryStore (Wholly)

/-- Whether a service of a member is in line with the desired one, as far as its JSON goes. -/
def Kubernetes.Service.InLine (s desired : Service) : Prop :=
  Resource.toJson (s.syncPerPod desired) = Resource.toJson s

namespace PassWorld

variable {o : Outlook} {c : Cluster} {w w' : PassWorld}

/-- How many services of members the stateful set of a cluster tells of. -/
def noted (c : Cluster) (w : PassWorld) : Nat :=
  (((w.statefulSets.objects.get? (Resource.anyName c)).bind
    Topology.ofStatefulSet?).getD {}).perPodCount.toInt.toNat

theorem mem_stale {i : Nat} : i ∈ w.stale c ↔ c.perPodCount ≤ i ∧ i < w.noted c :=
  Topology.mem_staleIndices

/-- What there is once the services of a cluster have been brought in line, and what is told of
it. -/
structure Served (c : Cluster) (w w' : PassWorld) (perPod : List (Option Service)) : Prop where
  /-- The service of a member is there and in line, which makes it a fixed point. -/
  member : ∀ i < c.perPodCount, ∃ desired s, c.perPodServices[i]? = some desired ∧
    w'.services.objects.get? (c.podName i) = some s ∧ s.InLine desired ∧
      (s.WellFormed → s.syncPerPod desired = s)
  /-- One that has been in line before is the very same and of the same version. -/
  unwritten : ∀ i desired s, c.perPodServices[i]? = some desired →
    w.services.objects.get? (c.podName i) = some s → s.InLine desired →
    w'.services.objects.get? (c.podName i) = some s
  discovery : ∀ s, w.services.objects.get? c.name = some s →
    Resource.toJson (s.syncDiscovery c) = Resource.toJson s →
    w'.services.objects.get? c.name = some s
  /-- Those left over from a larger topology are gone. -/
  removed : ∀ i, c.perPodCount ≤ i → i < w.noted c →
    w'.services.objects.get? (c.podName i) = none
  /-- All other services are as they were, apart from that in front of all members. -/
  apart : ∀ name, name ≠ c.name → (∀ i, name = c.podName i → c.perPodCount ≤ i ∧ w.noted c ≤ i) →
    w'.services.objects.get? name = w.services.objects.get? name
  /-- Objects of other kinds are not concerned. -/
  others : w' = { w with services := w'.services }
  /-- The services of the members are told in the order of their indices. -/
  told : perPod = (List.range c.perPodCount).map fun i => w'.services.objects.get? (c.podName i)

variable {services : MemoryStore Service}

/-- Each goal has been met at the service of its name. -/
theorem met_of_mem (h : Wholly (c.serviceGoals (w.stale c)) w.services services)
    {g : String × Goal Service} (hg : g ∈ c.serviceGoals (w.stale c)) :
    g.2.Met (w.services.objects.get? g.1) (services.objects.get? g.1) :=
  h.met (c.nodup_serviceGoals_stale w.statefulSets) hg

theorem podName_of_mem_serviceGoals {name : String}
    (h : name ∈ (c.serviceGoals (w.stale c)).map (·.1)) : name = c.name ∨
      ∃ i, name = c.podName i ∧ (i < c.perPodCount ∨ i < w.noted c) := by
  rw [Cluster.names_serviceGoals, List.mem_cons] at h
  refine h.imp_right fun h => ?_
  obtain ⟨i, hi, rfl⟩ := List.mem_map.1 h
  exact ⟨i, rfl, (List.mem_append.1 hi).imp List.mem_range.1 fun hi => (mem_stale.1 hi).2⟩

theorem perPod_eq (c : Cluster) (w : PassWorld) : perPod c w =
    (List.range c.perPodCount).map fun i => w.services.objects.get? (c.podName i) := by
  have hnames :=
    congrArg (List.map fun name => w.services.objects.get? name) c.anyName_perPodServices
  rwa [List.map_map, List.map_map] at hnames

theorem served_of_wholly (h : Wholly (c.serviceGoals (w.stale c)) w.services services) :
    Served c w { w with services } (perPod c { w with services }) where
  member i hi := by
    rw [← c.length_perPodServices] at hi
    have hdesired := List.getElem?_eq_getElem hi
    have hmem := Cluster.inLine_mem_serviceGoals hdesired (w.stale c)
    obtain ⟨s, _, hs, hchanged, hline⟩ :=
      (met_of_mem h hmem).reached (c.lasting_serviceGoals _ _ hmem)
    obtain rfl := Except.ok.inj hchanged
    have hbare := Cluster.bare_ports (List.mem_cons_of_mem _ (List.getElem_mem hi))
    exact ⟨_, s, hdesired, hs, hline, fun hform =>
      Service.syncPerPod_eq_of_toJson hform hbare hline⟩
  unwritten i desired s hdesired hs hline := by
    have hmet := met_of_mem h (Cluster.inLine_mem_serviceGoals hdesired (w.stale c))
    rw [hs] at hmet
    exact hmet.eq_of_reached ⟨s, _, rfl, rfl, hline⟩
  discovery s hs hline := by
    have hmet := met_of_mem h (c.discovery_mem_serviceGoals _)
    rw [show (Goal.inLine c.discoveryService _).1 = c.name from c.anyName_ownedMetadata, hs] at hmet
    exact hmet.eq_of_reached ⟨s, _, rfl, rfl, hline⟩
  removed i hcount hnoted := by
    exact met_of_mem h (Cluster.remove_mem_serviceGoals (mem_stale.2 ⟨hcount, hnoted⟩))
  apart name hname hmembers := by
    refine h.partly.eq_of_notMem fun hmem => ?_
    rcases podName_of_mem_serviceGoals hmem with rfl | ⟨i, hi, hin⟩
    · exact hname rfl
    · obtain ⟨hcount, hnoted⟩ := hmembers i hi
      omega
  others := rfl
  told := perPod_eq c _

/-- Where the services of a cluster have been brought in line, each member has its own, and none but
those left over have been removed. A pass that nothing stands in the way of gets there. -/
theorem applyServices_serves (o : Outlook) (c : Cluster) (w : PassWorld) :
    (∀ perPod w', Exec (environment .unreliable o) c.applyServices w (.ok perPod) w' →
      Served c w w' perPod) ∧
    (w.Sound → ∀ r w', Exec (environment .reliable o) c.applyServices w r w' →
      ∃ perPod, r = .ok perPod ∧ Served c w w' perPod) := by
  have hserved : ∀ perPod w', Exec (environment .unreliable o) c.applyServices w (.ok perPod) w' →
      Served c w w' perPod := by
    intro perPod w' h
    obtain ⟨services, rfl, -, hall⟩ := exec_applyServices h
    obtain ⟨rfl, hwholly⟩ := hall perPod rfl
    exact served_of_wholly hwholly
  refine ⟨hserved, fun hsound r w' h => ?_⟩
  obtain ⟨⟨perPod, rfl⟩, -⟩ := succeeds_applyServices c h hsound
  exact ⟨perPod, rfl, hserved perPod w' (exec_of_reliable h)⟩

/-- A cluster that has had two members. -/
def shrunk : Cluster where
  metadata := { name := some "hz", space := some "default" }
  spec := { clusterSize := 1, exposeExternally := some {} }

/-- Its stateful set, with the note of two services. -/
def shrunkSet : StatefulSet where
  metadata := ObjectMeta.annotate { name := some "hz" } Names.topologyAnnotation
    (Topology.render { version := Topology.current, perPodCount := 2 })

/-- The services of both members are there. -/
def shrunkStored : PassWorld where
  services := MemoryStore.put "hz-1" (shrunk.perPodService {} 1)
    (MemoryStore.put "hz-0" (shrunk.perPodService {} 0) {})
  statefulSets := MemoryStore.put "hz" shrunkSet {}

theorem sound_shrunkStored : shrunkStored.Sound where
  roles := MemoryStore.sound_empty
  accounts := MemoryStore.sound_empty
  bindings := MemoryStore.sound_empty
  services := (MemoryStore.sound_empty.put (shrunk.perPodService {} 0)).put
    (shrunk.perPodService {} 1)
  configMaps := MemoryStore.sound_empty
  statefulSets := MemoryStore.sound_empty.put shrunkSet

theorem noted_shrunkStored : noted shrunk shrunkStored = 2 := by
  have hstored : shrunkStored.statefulSets.objects.get? (Resource.anyName shrunk) =
    some (Resource.withVersion shrunkSet 1) := MemoryStore.get?_put_self _ _ _
  have hnote : (Resource.withVersion shrunkSet 1).metadata.annotation? Names.topologyAnnotation =
      some (Topology.render { version := Topology.current, perPodCount := 2 }) :=
    ObjectMeta.annotation?_annotate _ _ _
  unfold noted
  rw [hstored, Option.bind_some, Topology.ofStatefulSet?_of_annotation hnote rfl]
  rfl

/-- The service of the second member is removed, and that of the first one stays. -/
theorem applyServices_serves_shrunk : ∃ perPod w',
    Exec (environment .reliable {}) shrunk.applyServices shrunkStored (.ok perPod) w' ∧
      perPod = [w'.services.objects.get? "hz-0"] ∧ w'.services.objects.get? "hz-0" ≠ none ∧
      w'.services.objects.get? "hz-1" = none := by
  have hexec := exec_serve (o := {}) shrunk.applyServices shrunkStored
  obtain ⟨perPod, hresult, hserved⟩ :=
    (applyServices_serves {} shrunk shrunkStored).2 sound_shrunkStored _ _ hexec
  obtain ⟨desired, s, -, hs, -⟩ := hserved.member 0 Nat.zero_lt_one
  have hnoted : 1 < noted shrunk shrunkStored := by rw [noted_shrunkStored]; exact Nat.one_lt_two
  have hremoved := hserved.removed 1 (Nat.le_refl 1) hnoted
  rw [hresult] at hexec
  exact ⟨perPod, _, hexec, hserved.told, hs ▸ Option.some_ne_none s, hremoved⟩

end PassWorld

end GridOperator
