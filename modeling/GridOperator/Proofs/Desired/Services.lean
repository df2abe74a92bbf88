import GridOperator.Proofs.Desired.References
import GridOperator.Proofs.Kubernetes.Services
import GridOperator.Proofs.Reconcile.Neighbours

/-!
# What is overwritten when a service is brought in line

A service keeps what the platform has assigned to it. Of its ports only those that
are desired remain, each of them with the node port it has had, if there are node
ports at all (`Service.Renewed`).
-/

namespace GridOperator

open Kubernetes

namespace Kubernetes

namespace Service

def ports (s : Service) : List ServicePort := (s.spec.getD {}).ports.getD []

/-- The node port that the first port of a name has been given. -/
def nodePort? (s : Service) (name : Option String) : Option Int :=
  (s.ports.find? (·.name = name)).bind (·.nodePort)

/-- A desired port with the node port that its name has been given. Inside the platform there are
none. -/
def portFor (s : Service) (type? : Option String) (port : ServicePort) : ServicePort :=
  { port with nodePort := if type? = some "ClusterIP" then none else s.nodePort? port.name }

/-! ## What is left as it is -/

/-- A service without what goes by the cluster if it stands in front of all members. Where there is
no specification there might as well be an empty one. -/
def besidesDiscovery (s : Service) : Service :=
  { s with
    metadata := { s.metadata with labels := none }
    spec := some { s.spec.getD {} with type := none, selector := none, ports := none } }

/-- A service without what goes by the cluster if it is that of one member. -/
def besidesPerPod (s : Service) : Service :=
  { s with
    spec := some { s.spec.getD {} with
      type := none
      selector := none
      ports := none
      publishNotReadyAddresses := none } }

/-- What bringing a service in line with the desired one makes of it, where `rest` is what should be
left as it is. The cluster IP and the status belong to that. -/
structure Renewed (rest : Service → Service) (desired before after : Service) : Prop where
  kept : rest after = rest before
  type : after.type? = desired.type?
  selector : after.selector? = desired.selector?
  /-- Each desired port is there once. It has the node port of the first port of its name that was
  there, and none inside the platform. -/
  port : ∀ port ∈ desired.ports,
    after.ports.filter (·.name = port.name) = [before.portFor after.type? port]
  /-- There are no other ports. -/
  desired : ∀ port ∈ after.ports, ∃ p ∈ desired.ports, p.name = port.name

end Service

/-! ## Ports -/

theorem ServicePort.filter_name {ports : List ServicePort} (hnodup : (ports.map (·.name)).Nodup)
    {port : ServicePort} (h : port ∈ ports) : ports.filter (·.name = port.name) = [port] := by
  induction ports with
  | nil => cases h
  | cons p ps ih =>
    rw [List.map_cons, List.nodup_cons] at hnodup
    rcases List.mem_cons.1 h with rfl | h
    · have hrest : ps.filter (·.name = port.name) = [] := by
        refine List.filter_eq_nil_iff.2 fun q hq heq => hnodup.1 (List.mem_map.2 ⟨q, hq, ?_⟩)
        exact of_decide_eq_true heq
      rw [List.filter_cons_of_pos (by simp), hrest]
    · have hne : p.name ≠ port.name := fun heq => hnodup.1 (heq ▸ List.mem_map_of_mem h)
      rw [List.filter_cons_of_neg (by simpa using hne), ih hnodup.2 h]

namespace Service

/-- Whether ports have different names and have not been given node ports, nor anything that the
operator does not know. -/
structure Bare (ports : List ServicePort) : Prop where
  nodup : (ports.map (·.name)).Nodup
  nodePort : ∀ port ∈ ports, port.nodePort = none
  other : ∀ port ∈ ports, port.other = []

variable {rest : Service → Service} {want before after : Service} {desired : List ServicePort}

theorem mergePorts_eq_map (hbare : Bare desired) (s : Service) (type? : Option String) :
    mergePorts s.ports desired (type? = some "ClusterIP") = desired.map (s.portFor type?) := by
  unfold mergePorts
  split
  · rename_i hinside
    have hsame : ∀ port ∈ desired, s.portFor type? port = port := fun port hport => by
      unfold portFor
      rw [if_pos (of_decide_eq_true hinside), ← hbare.nodePort port hport]
    exact ((List.map_congr_left hsame).trans (List.map_id' _)).symm
  · rename_i hinside
    refine List.map_congr_left fun port _ => ?_
    unfold portFor
    rw [if_neg fun h => hinside (decide_eq_true h)]
    rfl

theorem renewed_of_mergePorts (hkept : rest after = rest before) (htype : after.type? = want.type?)
    (hselector : after.selector? = want.selector?) (hbare : Bare want.ports)
    (hports : after.ports = mergePorts before.ports want.ports (want.type? = some "ClusterIP")) :
    Renewed rest want before after := by
  rw [mergePorts_eq_map hbare, ← htype] at hports
  have hnames : (after.ports.map (·.name)).Nodup := by
    rw [hports, List.map_map]
    exact hbare.nodup
  refine ⟨hkept, htype, hselector, fun port hport => ?_, fun port hport => ?_⟩
  · exact ServicePort.filter_name hnames (hports ▸ List.mem_map_of_mem hport)
  · rw [hports] at hport
    obtain ⟨p, hp, rfl⟩ := List.mem_map.1 hport
    exact ⟨p, hp, rfl⟩

/-! ## Services in line -/

theorem other_of_mem_mergePorts {current : List ServicePort} (hbare : Bare desired)
    {inside : Bool} :
    ∀ port ∈ mergePorts current desired inside, port.other = [] := by
  cases inside with
  | true => exact hbare.other
  | false => exact List.forall_mem_map.2 hbare.other

/-- What a goal to change services has made is the changed service, as some version if it has been
written. -/
theorem eq_or_eq_withVersion_of_met {change : Service → Service} {before after : Option Service}
    (hsame : ∀ found, before = some found →
      (change found).toJson = found.toJson → change found = found)
    (h : (Goal.bring want fun found => .ok (change found)).Met before after) :
    after = some (change (before.getD want)) ∨
      ∃ version, after = some (Resource.withVersion (change (before.getD want)) version) := by
  obtain ⟨changed, hchanged, h⟩ := h
  obtain rfl := Except.ok.inj hchanged
  split at h
  · rename_i hjson
    obtain ⟨found, rfl, hjson⟩ := (Option.any_eq_true _ _).1 hjson
    exact .inl (h.trans (congrArg some (hsame found rfl (of_decide_eq_true hjson)).symm))
  · exact .inr h

/-- A service that stays the same as far as its JSON goes stays the same. -/
theorem syncPerPod_eq_of_toJson {s : Service} (hs : s.WellFormed) (hbare : Bare want.ports)
    (h : (s.syncPerPod want).toJson = s.toJson) : s.syncPerPod want = s := by
  have hspec : (s.syncPerPod want).spec = some _ := rfl
  obtain ⟨found, hfound, htype, hselector, hports, hpublish⟩ :=
    exists_spec_of_toJson hspec hs.spec.other (other_of_mem_mergePorts hbare) hs h
  obtain ⟨metadata, spec, status⟩ := s
  cases hfound
  unfold syncPerPod
  dsimp only at htype hselector hports hpublish ⊢
  rw [hports, htype, hselector, hpublish]
  rfl

theorem syncDiscovery_eq_of_toJson {s : Service} {c : Cluster} (hs : s.WellFormed)
    (hbare : Bare c.discoveryService.ports)
    (h : (s.syncDiscovery c).toJson = s.toJson) : s.syncDiscovery c = s := by
  have hspec : (s.syncDiscovery c).spec = some _ := rfl
  obtain ⟨found, hfound, htype, hselector, hports, -⟩ :=
    exists_spec_of_toJson hspec hs.spec.other (other_of_mem_mergePorts hbare) hs h
  have hlabels := labels_eq_of_toJson (s := s.syncDiscovery c) hs.labels hs.labels h
  obtain ⟨metadata, spec, status⟩ := s
  cases hfound
  unfold syncDiscovery at hlabels ⊢
  dsimp only at htype hselector hports hlabels ⊢
  rw [hports, htype, hselector, hlabels]
  rfl

end Service

end Kubernetes

/-! ## The services of a cluster -/

namespace Cluster

open Service (Bare Renewed)

variable {c : Cluster} {service : Service}

theorem exists_eq_perPodService (h : service ∈ c.perPodServices) :
    ∃ e i, service = c.perPodService e i := by
  obtain ⟨i, hi⟩ := List.mem_iff_getElem?.1 h
  obtain ⟨e, he⟩ := exists_of_mem_perPodServices hi
  exact ⟨e, i, he⟩

theorem bare_ports (h : service ∈ c.services) : Bare service.ports := by
  have hone : Bare [memberPort] :=
    ⟨List.nodup_singleton _, List.forall_mem_singleton.2 rfl, List.forall_mem_singleton.2 rfl⟩
  have hboth : Bare [memberPort, backupAgentPort] := ⟨by decide, by decide, by decide⟩
  rcases List.mem_cons.1 h with rfl | h
  · unfold Service.ports discoveryService
    cases c.spec.persistenceExternal with
    | false => exact hone
    | true => exact hboth
  · obtain ⟨e, i, rfl⟩ := exists_eq_perPodService h
    exact hone

theorem wellFormed_perPodService (c : Cluster) (e : Exposure) (i : Nat) :
    (c.perPodService e i).WellFormed :=
  ⟨Members.avoids_nil _, Members.avoids_nil _, List.forall_mem_singleton.2 (Members.avoids_nil _)⟩

/-- A service that has been brought in line is not changed by that again. It has all that is desired
and keeps what has been assigned to it. -/
theorem services_renewed (c : Cluster) (s : Service) :
    ((s.syncDiscovery c).syncDiscovery c = s.syncDiscovery c ∧
      Renewed Service.besidesDiscovery c.discoveryService s (s.syncDiscovery c)) ∧
    ∀ desired ∈ c.perPodServices, (s.syncPerPod desired).syncPerPod desired = s.syncPerPod desired ∧
      Renewed Service.besidesPerPod desired s (s.syncPerPod desired) := by
  refine ⟨⟨s.syncDiscovery_syncDiscovery c, ?_⟩, fun desired hdesired =>
    ⟨s.syncPerPod_syncPerPod desired, ?_⟩⟩
  · have hbare := bare_ports (c := c) List.mem_cons_self
    exact Service.renewed_of_mergePorts rfl rfl rfl hbare rfl
  · have hbare := bare_ports (List.mem_cons_of_mem _ hdesired)
    obtain ⟨e, i, rfl⟩ := exists_eq_perPodService hdesired
    exact Service.renewed_of_mergePorts rfl rfl rfl hbare rfl

/-- A service with a port that is not desired and another one that is there twice. -/
def crowded : Service where
  metadata := { name := some "hz-0" }
  spec := some {
    type := some "LoadBalancer"
    ports := some [{ name := some "http", port := 80 }, { memberPort with nodePort := some 30001 },
      { memberPort with nodePort := some 30002 }] }

/-- The first one of the two remains. -/
theorem services_renewed_crowded : ∃ desired ∈ ClusterWorld.smart.perPodServices,
    (crowded.syncPerPod desired).syncPerPod desired = crowded.syncPerPod desired ∧
      (crowded.syncPerPod desired).ports.filter (·.name = memberPort.name) =
        [{ memberPort with nodePort := some 30001 }] := by
  have hfirst : ClusterWorld.smart.perPodService {} 0 ∈ ClusterWorld.smart.perPodServices :=
    List.mem_cons_self
  obtain ⟨hagain, hrenewed⟩ := (services_renewed ClusterWorld.smart crowded).2 _ hfirst
  exact ⟨_, hfirst, hagain, hrenewed.port memberPort List.mem_cons_self⟩

end Cluster

end GridOperator
