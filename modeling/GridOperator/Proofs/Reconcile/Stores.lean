import GridOperator.Proofs.Desired.Goals
import GridOperator.Proofs.Reconcile.Stages

/-!
# Services and stateful sets in stores that may fail

What the stages make of services and of the stateful set is the same in every world that
keeps these in stores that may fail, one beside the other (`Stores`), whatever else there
is in it. Both stages pursue their goals one after the other.
-/

namespace GridOperator

open Kubernetes Pass
open ClusterPass (within Reachable)
open MemoryStore (Pursued wholly_nil pursued_self)
open Script (Environment)

/-- A world with a store of services and a store of stateful sets. -/
structure Stores {σ : Type} (env : Environment clusterCalls σ) where
  services : Script.Part env (Reachable.route (K := Service)) MemoryStore.unreliable
  statefulSets : Script.Part env (Reachable.route (K := StatefulSet)) MemoryStore.unreliable
  statefulSets_put (w : σ) (s : MemoryStore Service) :
    statefulSets.get (services.put w s) = statefulSets.get w := by intros; rfl

/-- The services of members that are left over, as the stateful set tells. -/
def Cluster.stale (c : Cluster) (sets : MemoryStore StatefulSet) : List Nat :=
  Topology.staleIndices
    (((sets.objects.get? (Resource.anyName c)).bind Topology.ofStatefulSet?).getD {})
    (Topology.desired c)

namespace Cluster

theorem nodup_stale (c : Cluster) (sets : MemoryStore StatefulSet) :
    (c.stale sets).Nodup := List.nodup_range'

theorem perPodCount_le_of_mem_stale {c : Cluster} {sets : MemoryStore StatefulSet} {i : Nat}
    (h : i ∈ c.stale sets) : c.perPodCount ≤ i := (Topology.mem_staleIndices.1 h).1

theorem nodup_serviceGoals_stale (c : Cluster) (sets : MemoryStore StatefulSet) :
    ((c.serviceGoals (c.stale sets)).map (·.1)).Nodup :=
  nodup_serviceGoals (c.nodup_stale sets) fun _ => perPodCount_le_of_mem_stale

/-- Brings the services in line and removes those left over. -/
def mendServices (c : Cluster) : ClusterPass Unit := do
  let _ ← within <| Store.apply c.discoveryService fun found => .ok (found.syncDiscovery c)
  applyPerPodServices c.perPodServices
  let found ← within <| Store.get (K := StatefulSet) (Resource.anyName c)
  let previous := (found.bind Topology.ofStatefulSet?).getD {}
  c.removePerPodServices (Topology.staleIndices previous (Topology.desired c))

theorem applyServices_eq (c : Cluster) :
    c.applyServices = c.mendServices >>= fun _ => readServices c.perPodServices := by
  unfold applyServices mendServices
  simp only [bind_assoc]

end Cluster

variable {σ α β : Type} {env : Environment clusterCalls σ} {w w' : σ} {c : Cluster}
  {settings : Settings}

/-- Asking a store changes nothing, and what is found is what is stored. -/
theorem Script.Part.exec_get {K : Type} [Resource K] [Reachable K]
    (part : Script.Part env (Reachable.route (K := K)) MemoryStore.unreliable) {name : String}
    {r : Except Error (Option K)} (h : Exec env (within (Store.get name)) w r w') :
    w' = w ∧ ∀ found, r = .ok found → found = (part.get w).objects.get? name := by
  obtain ⟨s, hget, rfl⟩ := (exec_part part).1 h
  obtain ⟨rfl, hfound⟩ := Store.exec_get hget
  exact ⟨part.put_get w, hfound⟩

namespace Stores

variable (world : Stores env)

/-- Whether a pass writes services only and pursues goals for them, where the stateful sets are the
given ones. -/
def Mends (sets : MemoryStore StatefulSet) (goals : List (String × Goal Service))
    (p : ClusterPass α) : Prop :=
  ∀ ⦃w : σ⦄ ⦃r : Except Error α⦄ ⦃w' : σ⦄, Exec env p w r w' → world.statefulSets.get w = sets →
    ∃ s, w' = world.services.put w s ∧ Pursued goals r (world.services.get w) s

variable {world} {sets : MemoryStore StatefulSet} {goals goals' : List (String × Goal Service)}

theorem mends_pure (a : α) : world.Mends sets [] (pure a) := by
  intro w r w' h _
  obtain ⟨-, rfl⟩ := exec_pure.1 h
  exact ⟨_, (world.services.put_get w').symm, (wholly_nil _).pursued r⟩

theorem mends_bind {p : ClusterPass α} {f : α → ClusterPass β} (hp : world.Mends sets goals p)
    (hf : ∀ a, world.Mends sets goals' (f a))
    (hdisjoint : ∀ name ∈ goals.map (·.1), name ∉ goals'.map (·.1)) :
    world.Mends sets (goals ++ goals') (p >>= f) := by
  intro w r w' h hsets
  rcases exec_bind_cases h with ⟨e, rfl, hfirst⟩ | ⟨a, v, hfirst, hrest⟩
  · obtain ⟨s, rfl, hpursued⟩ := hp hfirst hsets
    exact ⟨s, rfl, hpursued.stopped goals'⟩
  · obtain ⟨s, rfl, hpursued⟩ := hp hfirst hsets
    obtain ⟨t, rfl, hpursued'⟩ := hf a hrest ((world.statefulSets_put w s).trans hsets)
    rw [world.services.get_put] at hpursued'
    exact ⟨t, world.services.put_put w s t, hpursued.wholly.pursuing hpursued' hdisjoint⟩

theorem mends_within {p : Pass (store Service) α}
    (h : ∀ {s r s'}, Exec MemoryStore.unreliable p s r s' → Pursued goals r s s') :
    world.Mends sets goals (within p) := by
  intro w r w' hexec _
  obtain ⟨s, hs, rfl⟩ := (exec_part world.services).1 hexec
  exact ⟨s, rfl, h hs⟩

theorem mends_applyPerPodServices {desired : List Service}
    (hnodup : (desired.map Resource.anyName).Nodup) :
    world.Mends sets (Cluster.memberGoals desired) (Cluster.applyPerPodServices desired) := by
  induction desired with
  | nil => exact mends_pure ()
  | cons d rest ih =>
    rw [List.map_cons, List.nodup_cons] at hnodup
    rw [Cluster.memberGoals_cons]
    refine mends_bind (mends_within Store.exec_apply_goal) (fun _ => ih hnodup.2) ?_
    rw [Cluster.names_memberGoals]
    exact fun name hname => List.mem_singleton.1 hname ▸ hnodup.1

theorem mends_removePerPodServices {indices : List Nat} (hnodup : indices.Nodup) :
    world.Mends sets (c.staleGoals indices) (c.removePerPodServices indices) := by
  induction indices with
  | nil => exact mends_pure ()
  | cons i rest ih =>
    rw [List.nodup_cons] at hnodup
    rw [Cluster.staleGoals_cons]
    refine mends_bind (mends_within Store.exec_delete_goal) (fun _ => ih hnodup.2) ?_
    rw [Cluster.names_staleGoals]
    rintro name hname hrest
    obtain rfl := List.mem_singleton.1 hname
    exact hnodup.1 ((List.mem_map_of_injective c.podName_injective).1 hrest)

/-- The services that the stateful set tells of are removed. -/
theorem mends_sweep (c : Cluster) (sets : MemoryStore StatefulSet) :
    world.Mends sets (c.staleGoals (c.stale sets)) (do
      let found ← within <| Store.get (K := StatefulSet) (Resource.anyName c)
      let previous := (found.bind Topology.ofStatefulSet?).getD {}
      c.removePerPodServices (Topology.staleIndices previous (Topology.desired c))) := by
  rintro w r w' h rfl
  rcases exec_bind_cases h with ⟨e, rfl, hget⟩ | ⟨found, v, hget, hrest⟩
  · obtain ⟨rfl, -⟩ := world.statefulSets.exec_get hget
    exact ⟨_, (world.services.put_get w').symm, pursued_self rfl _⟩
  · obtain ⟨rfl, hfound⟩ := world.statefulSets.exec_get hget
    obtain rfl := hfound found rfl
    exact mends_removePerPodServices (c.nodup_stale _) hrest rfl

variable (world)

theorem mends_mendServices (c : Cluster) (sets : MemoryStore StatefulSet) :
    world.Mends sets (c.serviceGoals (c.stale sets)) c.mendServices :=
  mends_bind (mends_within Store.exec_apply_goal) (fun _ => mends_bind
    (mends_applyPerPodServices c.nodup_anyName_perPodServices) (fun _ => mends_sweep c sets)
      (Cluster.disjoint_memberGoals fun _ => Cluster.perPodCount_le_of_mem_stale))
    (c.disjoint_discoveryGoals _)

theorem exec_readServices {desired : List Service} {r : Except Error (List (Option Service))}
    (h : Exec env (Cluster.readServices desired) w r w') :
    w' = w ∧ ∀ found, r = .ok found →
      found = desired.map fun d => (world.services.get w).objects.get? (Resource.anyName d) := by
  induction desired generalizing r w' with
  | nil =>
    obtain ⟨rfl, rfl⟩ := exec_pure.1 h
    exact ⟨rfl, fun found hr => (Except.ok.inj hr).symm⟩
  | cons d rest ih =>
    rcases exec_bind_cases h with ⟨e, rfl, hget⟩ | ⟨first, v, hget, h₁⟩
    · exact ⟨(world.services.exec_get hget).1, nofun⟩
    obtain ⟨rfl, hfirst⟩ := world.services.exec_get hget
    rcases exec_bind_cases h₁ with ⟨e, rfl, hrest⟩ | ⟨others, u, hrest, hend⟩
    · exact ⟨(ih hrest).1, nofun⟩
    · obtain ⟨rfl, hothers⟩ := ih hrest
      obtain ⟨rfl, rfl⟩ := exec_pure.1 hend
      obtain rfl := hfirst first rfl
      obtain rfl := hothers others rfl
      exact ⟨rfl, fun found hr => (Except.ok.inj hr).symm⟩

/-- The services are brought in line, those left over are removed, and then the services of members
are looked at. -/
theorem exec_applyServices {r : Except Error (List (Option Service))}
    (h : Exec env c.applyServices w r w') : ∃ s, w' = world.services.put w s ∧
      Pursued (c.serviceGoals (c.stale (world.statefulSets.get w))) r (world.services.get w) s ∧
      ∀ perPod, r = .ok perPod →
        perPod = c.perPodServices.map fun d => s.objects.get? (Resource.anyName d) := by
  rw [Cluster.applyServices_eq] at h
  rcases exec_bind_cases h with ⟨e, rfl, hmend⟩ | ⟨_, v, hmend, hread⟩
  · obtain ⟨s, rfl, met, hfirst, hmet, -⟩ := mends_mendServices world c _ hmend rfl
    exact ⟨s, rfl, ⟨met, hfirst, hmet, nofun⟩, nofun⟩
  · obtain ⟨s, rfl, hpursued⟩ := mends_mendServices world c _ hmend rfl
    obtain ⟨rfl, hresult⟩ := world.exec_readServices hread
    rw [world.services.get_put] at hresult
    exact ⟨s, rfl, hpursued.wholly.pursued r, hresult⟩

/-- The stateful set is brought in line, if one can be made. -/
theorem exec_applyStatefulSet {r : Except Error Unit}
    (h : Exec env (c.applyStatefulSet settings) w r w') : ∃ s, w' = world.statefulSets.put w s ∧
      Pursued (c.statefulSetGoals settings) r (world.statefulSets.get w) s ∧
      ∀ a, r = .ok a → ∃ desired, c.newStatefulSet? settings = .ok desired := by
  rcases exec_ofExcept_bind h with ⟨rfl, e, rfl⟩ | ⟨desired, hdesired, hrest⟩
  · exact ⟨_, (world.statefulSets.put_get w').symm, pursued_self rfl _, nofun⟩
  · rw [Cluster.statefulSetGoals_of_ok hdesired]
    obtain ⟨applied, happlied, rfl⟩ := exec_bind_pure.1 hrest
    obtain ⟨s, hs, rfl⟩ := (exec_part world.statefulSets).1 happlied
    obtain ⟨met, hfirst, hmet, hall⟩ := Store.exec_apply_goal hs
    refine ⟨s, rfl, ⟨met, hfirst, hmet, fun a ha => ?_⟩, fun _ _ => ⟨desired, hdesired⟩⟩
    obtain ⟨b, rfl⟩ : ∃ b, applied = .ok b := by
      cases applied with
      | error e => cases ha
      | ok b => exact ⟨b, rfl⟩
    exact hall b rfl

end Stores

end GridOperator
