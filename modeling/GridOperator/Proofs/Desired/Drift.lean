import GridOperator.Proofs.Desired.Services
import GridOperator.Proofs.Script.Execution
import GridOperator.Proofs.Store.Goals

/-!
# Services that are found and services that are made

A service that is there already is to become what a new one would be
(`Service.Matches`). It does where its type, selector and ports are concerned, but
what else is written differs: the discovery service gets its labels and the services
of members publish addresses that are not ready, and the other way round nothing is
written. `services_match_iff` says which services have to be found for that to make
no difference.
-/

namespace GridOperator

open Kubernetes Pass

namespace Kubernetes.Service

/-! ## Services that match -/

def labels (s : Service) : TextMap := s.metadata.labels.getD []

def publishNotReadyAddresses (s : Service) : Option Bool :=
  (s.spec.getD {}).publishNotReadyAddresses

/-- The ports without what the platform assigns. -/
def barePorts (s : Service) : List ServicePort := s.ports.map ({ · with nodePort := none })

/-- Whether a service stands for the same pods in the same way as another one. -/
structure Exposes (s built : Service) : Prop where
  type : s.type? = built.type?
  selector : s.selector? = built.selector?
  ports : s.barePorts = built.barePorts

/-- Whether a service is as if it had been made like another one, up to node ports and further
labels. -/
structure Matches (s built : Service) : Prop extends s.Exposes built where
  publishNotReadyAddresses : s.publishNotReadyAddresses = built.publishNotReadyAddresses
  labels : s.labels.includes built.labels

variable {s built : Service} {version : Nat}

theorem exposes_withVersion : (Resource.withVersion s version).Exposes built ↔ s.Exposes built :=
  ⟨fun h => ⟨h.type, h.selector, h.ports⟩, fun h => ⟨h.type, h.selector, h.ports⟩⟩

theorem matches_withVersion : (Resource.withVersion s version).Matches built ↔ s.Matches built :=
  ⟨fun h => ⟨exposes_withVersion.1 h.toExposes, h.publishNotReadyAddresses, h.labels⟩,
    fun h => ⟨exposes_withVersion.2 h.toExposes, h.publishNotReadyAddresses, h.labels⟩⟩

/-! ## Services in line -/

theorem map_mergePorts (current ports : List ServicePort) (inside : Bool) :
    (mergePorts current ports inside).map ({ · with nodePort := none }) =
      ports.map ({ · with nodePort := none }) := by
  cases inside with
  | true => rfl
  | false => exact List.map_map

variable {c : Cluster} {desired found : Service}

theorem exposes_syncDiscovery (c : Cluster) (found : Service) :
    (found.syncDiscovery c).Exposes c.discoveryService :=
  ⟨rfl, rfl, map_mergePorts _ _ _⟩

theorem exposes_syncPerPod (h : desired ∈ c.perPodServices) (found : Service) :
    (found.syncPerPod desired).Exposes desired := by
  obtain ⟨e, i, rfl⟩ := Cluster.exists_eq_perPodService h
  exact ⟨rfl, rfl, map_mergePorts _ _ _⟩

theorem matches_syncDiscovery_iff : (found.syncDiscovery c).Matches c.discoveryService ↔
    found.publishNotReadyAddresses = none :=
  ⟨fun h => h.publishNotReadyAddresses,
    fun h => ⟨exposes_syncDiscovery c found, h, c.includes_labels⟩⟩

theorem matches_syncPerPod_iff (h : desired ∈ c.perPodServices) :
    (found.syncPerPod desired).Matches desired ↔ found.labels.includes desired.labels :=
  ⟨fun hmatches => hmatches.labels, fun hlabels => ⟨exposes_syncPerPod h found, rfl, hlabels⟩⟩

end Kubernetes.Service

/-! ## Services that are found -/

namespace MemoryStore

/-- Whether all services of a store are well formed. -/
def Formed (s : MemoryStore Service) : Prop :=
  ∀ name service, s.objects.get? name = some service → service.WellFormed

theorem formed_empty : ({} : MemoryStore Service).Formed := fun _ _ h => nomatch h

theorem Formed.put {s : MemoryStore Service} (h : s.Formed) {service : Service}
    (hservice : service.WellFormed) (name : String) : (s.put name service).Formed := by
  intro other found hfound
  by_cases hother : other = name
  · rw [hother, get?_put_self] at hfound
    obtain rfl := Option.some.inj hfound
    exact ⟨hservice.labels, hservice.spec⟩
  · rw [get?_put_of_ne hother] at hfound
    exact h other found hfound

end MemoryStore

namespace Store

variable {s s' : MemoryStore Service} {template : Service} {change : Service → Service}

/-- A service that has been brought in line exposes and matches what the change of the one that is
found does, or else that of a new one. -/
theorem exists_of_apply (hform : s.Formed)
    (hchange : ∀ found : Service, found.WellFormed → (change found).toJson = found.toJson →
      change found = found) {a : Applied}
    (h : Exec MemoryStore.unreliable
      (apply template fun found => .ok (change found)) s (.ok a) s') :
    ∃ after, s'.objects.get? (Resource.anyName template) = some after ∧
      ∀ built : Service,
        (after.Exposes built ↔
          (change ((s.objects.get? (Resource.anyName template)).getD template)).Exposes built) ∧
        (after.Matches built ↔
          (change ((s.objects.get? (Resource.anyName template)).getD template)).Matches built) := by
  have hsame : ∀ found, s.objects.get? (Resource.anyName template) = some found →
      (change found).toJson = found.toJson → change found = found :=
    fun found hfound => hchange found (hform _ found hfound)
  have hmet := (exec_apply_goal h).wholly (Resource.anyName template)
  rw [Goal.inLine, Goal.of_singleton, if_pos rfl] at hmet
  rcases Service.eq_or_eq_withVersion_of_met hsame hmet with hafter | ⟨version, hafter⟩
  · exact ⟨_, hafter, fun _ => ⟨.rfl, .rfl⟩⟩
  · exact ⟨_, hafter, fun _ => ⟨Service.exposes_withVersion, Service.matches_withVersion⟩⟩

/-- What is to hold of the service that is found does if there is none. -/
theorem getD_iff_forall (P : Service → Prop) (htemplate : P template) (before : Option Service) :
    P (before.getD template) ↔ ∀ found, before = some found → P found := by
  cases before with
  | none => simpa using htemplate
  | some found => simp

end Store

namespace Cluster

open Store (apply)

variable {c : Cluster} {s : MemoryStore Service}

theorem includes_labels_perPodService {desired : Service} (h : desired ∈ c.perPodServices) :
    desired.labels.includes desired.labels := by
  obtain ⟨e, i, rfl⟩ := exists_eq_perPodService h
  have hordered : Table.Ordered c.labels := Table.ordered_ofEntries _
  exact TextMap.includes_self (hordered.set Names.perPodLabel Names.yes)

/-- A service that has been found matches a new one if it has not been told whether to publish
addresses, in case of the discovery service, and if it has had the labels, in case of that of a
member. Its type, selector and ports are those of a new one anyway. -/
theorem services_match_iff (c : Cluster) (hform : s.Formed) :
    (∀ a s', Exec MemoryStore.unreliable
        (apply c.discoveryService fun found => .ok (found.syncDiscovery c)) s (.ok a) s' →
      ∃ after, s'.objects.get? c.name = some after ∧ after.Exposes c.discoveryService ∧
        (after.Matches c.discoveryService ↔ ∀ found, s.objects.get? c.name = some found →
          found.publishNotReadyAddresses = none)) ∧
    ∀ desired ∈ c.perPodServices, ∀ a s', Exec MemoryStore.unreliable
        (apply desired fun found => .ok (found.syncPerPod desired)) s (.ok a) s' →
      ∃ after, s'.objects.get? (Resource.anyName desired) = some after ∧ after.Exposes desired ∧
        (after.Matches desired ↔ ∀ found, s.objects.get? (Resource.anyName desired) = some found →
          found.labels.includes desired.labels) := by
  constructor
  · intro a s' h
    have hname : Resource.anyName c.discoveryService = c.name := c.anyName_ownedMetadata
    have hbare := bare_ports (c := c) List.mem_cons_self
    obtain ⟨after, hafter, hmade⟩ := Store.exists_of_apply hform
      (fun _ hfound => Service.syncDiscovery_eq_of_toJson hfound hbare) h
    obtain ⟨hexposes, hmatches⟩ := hmade c.discoveryService
    rw [hname] at hafter hexposes hmatches
    refine ⟨after, hafter, hexposes.2 (Service.exposes_syncDiscovery c _), ?_⟩
    rw [hmatches, Service.matches_syncDiscovery_iff]
    exact Store.getD_iff_forall (fun found => found.publishNotReadyAddresses = none) rfl _
  · intro desired hdesired a s' h
    have hbare := bare_ports (List.mem_cons_of_mem _ hdesired)
    obtain ⟨after, hafter, hmade⟩ := Store.exists_of_apply hform
      (fun _ hfound => Service.syncPerPod_eq_of_toJson hfound hbare) h
    obtain ⟨hexposes, hmatches⟩ := hmade desired
    refine ⟨after, hafter, hexposes.2 (Service.exposes_syncPerPod hdesired _), ?_⟩
    rw [hmatches, Service.matches_syncPerPod_iff hdesired]
    exact Store.getD_iff_forall (fun found => found.labels.includes desired.labels)
      (includes_labels_perPodService hdesired) _

/-- A service for the first member without labels. -/
def unlabeled : Service where
  metadata := { name := some "hz-0" }
  spec := (ClusterWorld.smart.perPodService {} 0).spec

def unlabeledStored : MemoryStore Service := MemoryStore.put "hz-0" unlabeled {}

theorem formed_unlabeledStored : unlabeledStored.Formed := by
  have hform : unlabeled.WellFormed :=
    ⟨Members.avoids_nil _, (ClusterWorld.smart.wellFormed_perPodService {} 0).spec⟩
  exact MemoryStore.formed_empty.put hform "hz-0"

/-- It is left without them, and not even written. -/
theorem services_match_iff_unlabeled : ∃ desired ∈ ClusterWorld.smart.perPodServices, ∃ s' after,
    Exec MemoryStore.unreliable (apply desired fun found => .ok (found.syncPerPod desired))
      unlabeledStored (.ok .unchanged) s' ∧
    s'.objects.get? "hz-0" = some after ∧ ¬ after.Matches desired := by
  have hfirst : ClusterWorld.smart.perPodService {} 0 ∈ ClusterWorld.smart.perPodServices :=
    List.mem_cons_self
  have hexec : Exec MemoryStore.unreliable
      (apply (ClusterWorld.smart.perPodService {} 0) fun found =>
        .ok (found.syncPerPod (ClusterWorld.smart.perPodService {} 0))) unlabeledStored _ _ :=
    Script.exec_of_run (h := MemoryStore.serve) (fun _ _ => .inl ⟨rfl, rfl⟩) _ _
  obtain ⟨after, hafter, -, hmatches⟩ :=
    (services_match_iff ClusterWorld.smart formed_unlabeledStored).2 _ hfirst .unchanged _ hexec
  refine ⟨_, hfirst, _, after, hexec, hafter, fun h => ?_⟩
  have hlabels := hmatches.1 h _ (MemoryStore.get?_put_self _ _ _)
  exact absurd hlabels (by decide)

end Cluster

end GridOperator
