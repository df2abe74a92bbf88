import GridOperator.Observed.Addresses
import GridOperator.Proofs.Desired.Drift

/-!
# Where clients find a cluster

From outside the platform a service is reached at the hosts of its load balancer, or
else at its node port on the nodes of the pods that it leads to (`Service.ReachedAt`).
The service of a member leads to the pod of that member alone, so the addresses that are
reported for it are the right ones. For the discovery service no pod is looked at, and a
node port is not reported: `externalAddresses_complete_iff` says when that matters.
-/

namespace GridOperator

open Kubernetes

namespace Kubernetes

namespace Pod

def labels (p : Pod) : TextMap := p.metadata.labels.getD []

/-- The address of the node that it runs on, if it does. -/
def hostIP? (p : Pod) : Option String := p.status.bind (·.hostIP)

/-- Where names are different, one pod at most is found by its name. -/
theorem find?_name_eq_some_iff {pods : List Pod} (hnodup : (pods.map (·.metadata.name)).Nodup)
    {name : Option String} {p : Pod} :
    pods.find? (·.metadata.name = name) = some p ↔ p ∈ pods ∧ p.metadata.name = name := by
  constructor
  · intro hfind
    have hname := List.find?_some hfind
    exact ⟨List.mem_of_find?_eq_some hfind, of_decide_eq_true hname⟩
  · rintro ⟨hp, hname⟩
    have hfound : (pods.find? (·.metadata.name = name)).isSome :=
      List.find?_isSome.2 ⟨p, hp, decide_eq_true hname⟩
    obtain ⟨q, hq⟩ := Option.isSome_iff_exists.1 hfound
    have hqname : q.metadata.name = name := by simpa using List.find?_some hq
    rw [hq, List.inj_on_of_nodup_map hnodup (List.mem_of_find?_eq_some hq) hp
      (hqname.trans hname.symm)]

end Pod

namespace Service

/-- The ports that lead to the members. -/
def memberPorts (s : Service) : List ServicePort := s.ports.filter (·.name = some Names.memberPort)

/-- Whether a pod is among those that a service stands for. -/
def LeadsTo (s : Service) (p : Pod) : Prop := s.selector?.any p.labels.includes

/-- Whether clients reach members at a host and a port, by way of a service. -/
inductive ReachedAt (s : Service) (pods : List Pod) : String → Int → Prop where
  | ingress {host : String} {port : ServicePort} (type : s.type? = some "LoadBalancer")
    (mem_ingress : host ∈ s.ingressHosts) (mem_ports : port ∈ s.memberPorts) :
    ReachedAt s pods host port.port
  | node {host : String} {port : ServicePort} {n : Int} {p : Pod}
    (type : s.type? = some "NodePort") (mem_pods : p ∈ pods) (leads : s.LeadsTo p)
    (runs : p.hostIP? = some host) (mem_ports : port ∈ s.memberPorts)
    (assigned : port.nodePort = some n) : ReachedAt s pods host n

/-- Whether a service has a node port and leads to a pod that runs on some node. -/
structure OnNodes (s : Service) (pods : List Pod) : Prop where
  type : s.type? = some "NodePort"
  assigned : ∃ port ∈ s.memberPorts, port.nodePort.isSome
  runs : ∃ p ∈ pods, s.LeadsTo p ∧ p.hostIP?.isSome

/-- The hosts and ports whose addresses a service has. -/
def points (s : Service) (hostIP : Option String) : List (String × Int) :=
  match s.spec with
  | none => []
  | some spec =>
    if spec.type = some "LoadBalancer" then
      s.ingressHosts.map (·, (s.memberPorts.head?.map (·.port)).getD Names.memberPortNumber)
    else if spec.type = some "NodePort" then
      match hostIP, s.memberPorts.head?.bind (·.nodePort) with
      | some ip, some n => [(ip, n)]
      | _, _ => []
    else []

variable {s built : Service} {c : Cluster} {pods : List Pod} {port : ServicePort}
  {hostIP : Option String} {host : String} {n : Int}

theorem addresses_eq_map (s : Service) (hostIP : Option String) :
    s.addresses hostIP = (s.points hostIP).map fun p => address p.1 p.2 := by
  have hport (spec : ServiceSpec) (hspec : s.spec = some spec) :
      (spec.ports.getD []).find? (·.name = some Names.memberPort) = s.memberPorts.head? := by
    rw [memberPorts, List.head?_filter, ports, hspec]
    rfl
  unfold addresses points
  cases hspec : s.spec with
  | none => rfl
  | some spec =>
    dsimp only
    rw [hport spec hspec]
    split
    · rw [List.map_map]
      rfl
    · split
      · cases hostIP <;> cases s.memberPorts.head?.bind (·.nodePort) <;> rfl
      · rfl

/-- Inside the platform alone there are no addresses. -/
theorem points_of_clusterIP (h : s.type? = some "ClusterIP") (hostIP : Option String) :
    s.points hostIP = [] := by
  unfold points
  unfold type? at h
  cases hspec : s.spec with
  | none => rfl
  | some spec =>
    rw [hspec] at h
    have htype : spec.type = some "ClusterIP" := h
    simp [htype]

/-! ## The port of the members -/

theorem memberPorts_of_mem_services (h : s ∈ c.services) :
    s.memberPorts = [Cluster.memberPort] := by
  have hmem : Cluster.memberPort ∈ s.ports := by
    rcases List.mem_cons.1 h with rfl | h
    · exact List.mem_cons_self
    · obtain ⟨e, i, rfl⟩ := Cluster.exists_eq_perPodService h
      exact List.mem_cons_self
  exact ServicePort.filter_name (Cluster.bare_ports h).nodup hmem

/-- What stands for the pods of a desired service has one port for members, like the desired one. -/
theorem exists_memberPorts_eq (h : s.Exposes built) (hbuilt : built ∈ c.services) :
    ∃ port, s.memberPorts = [port] := by
  have hbare (s : Service) : s.memberPorts.map ({ · with nodePort := none }) =
      s.barePorts.filter (·.name = some Names.memberPort) := by
    rw [barePorts, List.filter_map]
    rfl
  have hone : s.memberPorts.map ({ · with nodePort := none }) = [Cluster.memberPort] := by
    rw [hbare, h.ports, ← hbare, memberPorts_of_mem_services hbuilt]
    rfl
  obtain ⟨port, hport, -⟩ := List.map_eq_singleton_iff.1 hone
  exact ⟨port, hport⟩

theorem mem_points_iff (hport : s.memberPorts = [port]) : (host, n) ∈ s.points hostIP ↔
    s.type? = some "LoadBalancer" ∧ host ∈ s.ingressHosts ∧ n = port.port ∨
      s.type? = some "NodePort" ∧ hostIP = some host ∧ port.nodePort = some n := by
  unfold points type?
  rw [hport]
  cases s.spec with
  | none => simp
  | some spec =>
    by_cases hbalancer : spec.type = some "LoadBalancer"
    · simp [hbalancer, eq_comm]
    · by_cases hnode : spec.type = some "NodePort"
      · cases hostIP <;> cases hassigned : port.nodePort <;> simp [hnode, hassigned, eq_comm]
      · simp [hbalancer, hnode]

theorem reachedAt_iff (hport : s.memberPorts = [port]) : s.ReachedAt pods host n ↔
    s.type? = some "LoadBalancer" ∧ host ∈ s.ingressHosts ∧ n = port.port ∨
      s.type? = some "NodePort" ∧ (∃ p ∈ pods, s.LeadsTo p ∧ p.hostIP? = some host) ∧
        port.nodePort = some n := by
  constructor
  · rintro (⟨htype, hhost, hmem⟩ | ⟨htype, hp, hleads, hruns, hmem, hassigned⟩)
    · obtain rfl := List.mem_singleton.1 (hport ▸ hmem)
      exact .inl ⟨htype, hhost, rfl⟩
    · obtain rfl := List.mem_singleton.1 (hport ▸ hmem)
      exact .inr ⟨htype, ⟨_, hp, hleads, hruns⟩, hassigned⟩
  · have hmem : port ∈ s.memberPorts := hport ▸ List.mem_cons_self
    rintro (⟨htype, hhost, rfl⟩ | ⟨htype, ⟨p, hp, hleads, hruns⟩, hassigned⟩)
    · exact .ingress htype hhost hmem
    · exact .node htype hp hleads hruns hmem hassigned

theorem OnNodes.exists_reachedAt (h : s.OnNodes pods) : ∃ host n, s.ReachedAt pods host n := by
  obtain ⟨htype, ⟨port, hport, hassigned⟩, p, hp, hleads, hruns⟩ := h
  obtain ⟨n, hn⟩ := Option.isSome_iff_exists.1 hassigned
  obtain ⟨host, hhost⟩ := Option.isSome_iff_exists.1 hruns
  exact ⟨host, n, .node htype hp hleads hhost hport hn⟩

theorem ReachedAt.onNodes (h : s.ReachedAt pods host n) (htype : s.type? = some "NodePort") :
    s.OnNodes pods := by
  cases h with
  | ingress hbalancer =>
    rw [htype] at hbalancer
    exact absurd hbalancer (by decide)
  | node _ hp hleads hruns hport hassigned =>
    exact ⟨htype, ⟨_, hport, Option.isSome_iff_exists.2 ⟨_, hassigned⟩⟩,
      _, hp, hleads, Option.isSome_iff_exists.2 ⟨_, hruns⟩⟩

end Service

end Kubernetes

/-! ## Labels -/

namespace TextMap

variable {m sub : TextMap} {key value : String}

theorem includes_iff (h : Table.Ordered sub) :
    m.includes sub ↔ ∀ key value, sub.get? key = some value → m.get? key = some value := by
  unfold includes
  rw [List.all_eq_true]
  constructor
  · intro hall key value hget
    exact beq_iff_eq.1 (hall _ (h.get?_eq_some_iff.1 hget))
  · intro hall e he
    exact beq_iff_eq.2 (hall e.1 e.2 (h.get?_eq_some_iff.2 he))

/-- One more entry than those that are there anyway is one more thing to ask for. -/
theorem includes_set_iff (h : Table.Ordered sub) (hnone : sub.get? key = none) :
    m.includes (sub.set key value) ↔ m.includes sub ∧ m.get? key = some value := by
  rw [includes_iff (h.set key value), includes_iff h]
  constructor
  · intro hall
    refine ⟨fun k v hget => hall k v ?_, hall key value (Table.get?_set_self _ _ _)⟩
    have hne : k ≠ key := by
      rintro rfl
      rw [hnone] at hget
      cases hget
    rwa [Table.get?_set_of_ne hne]
  · rintro ⟨hall, hkey⟩ k v hget
    by_cases hk : k = key
    · subst hk
      rw [Table.get?_set_self] at hget
      rwa [← Option.some.inj hget]
    · exact hall k v (by rwa [Table.get?_set_of_ne hk] at hget)

end TextMap

/-! ## The services of a cluster -/

/-- Whether a pod is one of a cluster: it has the labels of all of them, and the one that tells
its name. -/
structure Cluster.Runs (c : Cluster) (p : Pod) : Prop where
  labels : p.labels.includes c.labels
  name : p.labels.get? Names.podNameLabel = p.metadata.name

/-- Whether these are the services and the pods of a cluster, once its services have been brought
in line. -/
structure Cluster.ServedBy (c : Cluster) (discovery : Option Service) (perPod : List Service)
    (pods : List Pod) : Prop where
  discovery : ∀ s, discovery = some s → s.Exposes c.discoveryService
  perPod : ∀ s ∈ perPod, ∃ desired ∈ c.perPodServices, s.Exposes desired
  runs : ∀ p ∈ pods, c.Runs p
  nodup : (pods.map (·.metadata.name)).Nodup

namespace Cluster

variable {c : Cluster} {s : Service} {p : Pod} {e : Exposure} {i : Nat}
  {discovery : Option Service} {perPod : List Service} {pods : List Pod} {host : String} {n : Int}

/-- The services that stand for the cluster outside the platform. -/
def exposed (c : Cluster) (discovery : Option Service) (perPod : List Service) : List Service :=
  if c.spec.isSmart then perPod else discovery.toList

theorem Runs.leadsTo_discovery (h : c.Runs p) (hs : s.Exposes c.discoveryService) :
    s.LeadsTo p := by
  unfold Service.LeadsTo
  rw [hs.selector]
  exact h.labels

theorem Runs.leadsTo_perPod_iff (h : c.Runs p) (hs : s.Exposes (c.perPodService e i)) :
    s.LeadsTo p ↔ p.metadata.name = some (c.podName i) := by
  have hincludes : s.LeadsTo p ↔
      p.labels.includes (c.labels.set Names.podNameLabel (c.podName i)) := by
    unfold Service.LeadsTo
    rw [hs.selector]
    rfl
  have hordered : Table.Ordered c.labels := Table.ordered_ofEntries _
  rw [hincludes, TextMap.includes_set_iff hordered c.get?_podNameLabel_labels, h.name,
    and_iff_right h.labels]

theorem selectedPod?_of_exposes (hs : s.Exposes (c.perPodService e i)) :
    s.selectedPod? = some (c.podName i) := by
  have hselector : s.spec.bind (·.selector) = some _ := hs.selector
  rw [Service.selectedPod?, hselector]
  exact Table.get?_set_self _ _ _

/-- The service of a member leads to one pod. -/
theorem ServedBy.eq_of_leadsTo (h : c.ServedBy discovery perPod pods) (hs : s ∈ perPod) {q : Pod}
    (hp : p ∈ pods) (hq : q ∈ pods) (hleads : s.LeadsTo p) (hleads' : s.LeadsTo q) : p = q := by
  obtain ⟨desired, hdesired, hexposes⟩ := h.perPod s hs
  obtain ⟨e, i, rfl⟩ := exists_eq_perPodService hdesired
  have hname := ((h.runs p hp).leadsTo_perPod_iff hexposes).1 hleads
  have hname' := ((h.runs q hq).leadsTo_perPod_iff hexposes).1 hleads'
  exact List.inj_on_of_nodup_map h.nodup hp hq (hname.trans hname'.symm)

/-! ## What is reported -/

/-- The node that is given for the pods of a service. For the discovery service there is none. -/
def nodeOf? (c : Cluster) (pods : List Pod) (s : Service) : Option String :=
  if c.spec.isSmart then (pods.find? (·.metadata.name = s.selectedPod?)).bind Pod.hostIP? else none

/-- The pod that is found for the service of a member is the one that it leads to. -/
theorem ServedBy.hostIP?_eq_some_iff (h : c.ServedBy discovery perPod pods)
    (hs : s.Exposes (c.perPodService e i)) :
    (pods.find? (·.metadata.name = s.selectedPod?)).bind Pod.hostIP? = some host ↔
      ∃ p ∈ pods, s.LeadsTo p ∧ p.hostIP? = some host := by
  rw [selectedPod?_of_exposes hs, Option.bind_eq_some_iff]
  refine exists_congr fun p => ?_
  rw [Pod.find?_name_eq_some_iff h.nodup, and_assoc]
  exact and_congr_right fun hp => by rw [(h.runs p hp).leadsTo_perPod_iff hs]

theorem externalAddresses_eq (hdiscovery : ∀ s, discovery = some s → s.Exposes c.discoveryService) :
    c.externalAddresses discovery perPod pods =
      (c.exposed discovery perPod).flatMap fun s => s.addresses (c.nodeOf? pods s) := by
  unfold externalAddresses exposed nodeOf? ClusterSpec.isSmart
  cases he : c.spec.exposeExternally with
  | some e =>
    cases hsmart : e.isSmart with
    | true =>
      simp only [Option.any_some, hsmart, if_true]
      rfl
    | false => simp only [Option.any_some, hsmart, Bool.false_eq_true, if_false]
  | none =>
    refine (List.flatMap_eq_nil_iff.2 fun s hs => ?_).symm
    have htype : c.discoveryService.type? = some "ClusterIP" := by
      show some c.discoveryServiceType = _
      rw [discoveryServiceType, he]
    have hexposes := hdiscovery s (Option.mem_toList.1 hs)
    rw [Service.addresses_eq_map, Service.points_of_clusterIP (hexposes.type.trans htype)]
    rfl

theorem ServedBy.mem_externalAddresses_iff (h : c.ServedBy discovery perPod pods) {a : String} :
    a ∈ c.externalAddresses discovery perPod pods ↔ ∃ s ∈ c.exposed discovery perPod, ∃ host n,
      (host, n) ∈ s.points (c.nodeOf? pods s) ∧ a = Service.address host n := by
  rw [externalAddresses_eq h.discovery, List.mem_flatMap]
  refine exists_congr fun s => and_congr_right fun _ => ?_
  rw [Service.addresses_eq_map, List.mem_map]
  constructor
  · rintro ⟨⟨host, n⟩, hpoint, rfl⟩
    exact ⟨host, n, hpoint, rfl⟩
  · rintro ⟨host, n, hpoint, rfl⟩
    exact ⟨(host, n), hpoint, rfl⟩

/-- What is reported for a service is where it is reached, node ports of the discovery service
apart. -/
theorem ServedBy.mem_points_iff (h : c.ServedBy discovery perPod pods)
    (hs : s ∈ c.exposed discovery perPod) : (host, n) ∈ s.points (c.nodeOf? pods s) ↔
      s.ReachedAt pods host n ∧ (c.spec.isSmart ∨ s.type? ≠ some "NodePort") := by
  unfold exposed at hs
  unfold nodeOf?
  cases hsmart : c.spec.isSmart with
  | true =>
    rw [hsmart] at hs
    obtain ⟨desired, hdesired, hexposes⟩ := h.perPod s hs
    obtain ⟨e, i, rfl⟩ := exists_eq_perPodService hdesired
    obtain ⟨port, hport⟩ := Service.exists_memberPorts_eq hexposes (List.mem_cons_of_mem _ hdesired)
    have hsure : true = true ∨ s.type? ≠ some "NodePort" := .inl rfl
    rw [Service.mem_points_iff hport, Service.reachedAt_iff hport, if_pos rfl,
      h.hostIP?_eq_some_iff hexposes, and_iff_left hsure]
  | false =>
    rw [hsmart] at hs
    have hexposes := h.discovery s (Option.mem_toList.1 hs)
    obtain ⟨port, hport⟩ := Service.exists_memberPorts_eq hexposes List.mem_cons_self
    rw [Service.mem_points_iff hport, Service.reachedAt_iff hport]
    by_cases hnode : s.type? = some "NodePort" <;> simp [hnode]

/-- Whether the cluster is exposed member by member, or else its discovery service is not on a
node. -/
def Reported (c : Cluster) (discovery : Option Service) (pods : List Pod) : Prop :=
  c.spec.isSmart ∨ ∀ s, discovery = some s → ¬ s.OnNodes pods

theorem Reported.mem_externalAddresses (hreported : c.Reported discovery pods)
    (h : c.ServedBy discovery perPod pods) (hs : s ∈ c.exposed discovery perPod)
    (hreached : s.ReachedAt pods host n) :
    Service.address host n ∈ c.externalAddresses discovery perPod pods := by
  refine h.mem_externalAddresses_iff.2 ⟨s, hs, host, n, (h.mem_points_iff hs).2 ⟨hreached, ?_⟩, rfl⟩
  refine hreported.elim .inl fun hnone => or_iff_not_imp_left.2 fun hsmart htype => ?_
  rw [exposed, if_neg hsmart] at hs
  exact hnone s (Option.mem_toList.1 hs) (hreached.onNodes htype)

/-- With one discovery service for all members nothing is reported of it that is on a node. -/
theorem reported_of_mem_externalAddresses (h : c.ServedBy discovery perPod pods)
    (hsome : ∀ s ∈ c.exposed discovery perPod, s.OnNodes pods → ∃ host n,
      Service.address host n ∈ c.externalAddresses discovery perPod pods) :
    c.Reported discovery pods := by
  refine or_iff_not_imp_left.2 fun hsmart s hs hnodes => ?_
  have hexposed : c.exposed discovery perPod = [s] := by
    rw [exposed, if_neg hsmart, hs]
    rfl
  obtain ⟨host, n, hmem⟩ := hsome s (hexposed ▸ List.mem_cons_self) hnodes
  obtain ⟨s', hs', host', n', hpoint, -⟩ := h.mem_externalAddresses_iff.1 hmem
  obtain ⟨-, hshown⟩ := (h.mem_points_iff hs').1 hpoint
  obtain rfl := List.mem_singleton.1 (hexposed ▸ hs')
  exact hshown.elim hsmart (· hnodes.type)

/-- Every address that is reported is one where clients reach a service that the cluster is exposed
by, and the service of a member leads to one pod and so to one node. All such addresses are
reported, and some for every service that is on a node, exactly if the cluster is exposed member by
member or its discovery service is not on a node. -/
theorem externalAddresses_complete_iff (h : c.ServedBy discovery perPod pods) :
    (∀ a ∈ c.externalAddresses discovery perPod pods, ∃ s ∈ c.exposed discovery perPod,
      ∃ host n, s.ReachedAt pods host n ∧ a = Service.address host n) ∧
    (∀ s ∈ perPod, ∀ p ∈ pods, ∀ q ∈ pods, s.LeadsTo p → s.LeadsTo q → p = q) ∧
    ((∀ s ∈ c.exposed discovery perPod, ∀ host n, s.ReachedAt pods host n →
        Service.address host n ∈ c.externalAddresses discovery perPod pods) ↔
      c.Reported discovery pods) ∧
    ((∀ s ∈ c.exposed discovery perPod, s.OnNodes pods → ∃ host n, s.ReachedAt pods host n ∧
        Service.address host n ∈ c.externalAddresses discovery perPod pods) ↔
      c.Reported discovery pods) := by
  refine ⟨fun a ha => ?_, fun s hs p hp q hq => h.eq_of_leadsTo hs hp hq,
    ⟨fun hall => ?_, fun hreported s hs host n => hreported.mem_externalAddresses h hs⟩,
    ⟨fun hsome => ?_, fun hreported s hs hnodes => ?_⟩⟩
  · obtain ⟨s, hs, host, n, hpoint, rfl⟩ := h.mem_externalAddresses_iff.1 ha
    exact ⟨s, hs, host, n, ((h.mem_points_iff hs).1 hpoint).1, rfl⟩
  · refine reported_of_mem_externalAddresses h fun s hs hnodes => ?_
    obtain ⟨host, n, hreached⟩ := hnodes.exists_reachedAt
    exact ⟨host, n, hall s hs host n hreached⟩
  · refine reported_of_mem_externalAddresses h fun s hs hnodes => ?_
    obtain ⟨host, n, -, hmem⟩ := hsome s hs hnodes
    exact ⟨host, n, hmem⟩
  · obtain ⟨host, n, hreached⟩ := hnodes.exists_reachedAt
    exact ⟨host, n, hreached, hreported.mem_externalAddresses h hs hreached⟩

/-- A cluster with one node port for all its members. -/
def unisocket : Cluster where
  metadata := { name := some "hz", space := some "default" }
  spec := {
    clusterSize := 1
    exposeExternally := some { type := .unisocket, discoveryServiceType := "NodePort" } }

/-- Its discovery service, once the platform has given it a node port. -/
def unisocketService : Service :=
  { unisocket.discoveryService with
    spec := some {
      selector := some unisocket.labels
      ports := some [{ memberPort with nodePort := some 31000 }]
      type := some "NodePort" } }

/-- Its member, on a node. -/
def unisocketPod : Pod where
  metadata := {
    name := some "hz-0"
    labels := some (unisocket.labels.set Names.podNameLabel "hz-0") }
  status := some { hostIP := some "192.168.0.10" }

/-- Nothing tells clients of the node. -/
theorem externalAddresses_complete_iff_unisocket :
    unisocketService.ReachedAt [unisocketPod] "192.168.0.10" 31000 ∧
      ¬ ∀ s ∈ unisocket.exposed (some unisocketService) [], ∀ host n,
        s.ReachedAt [unisocketPod] host n → Service.address host n ∈
          unisocket.externalAddresses (some unisocketService) [] [unisocketPod] := by
  have hserved : unisocket.ServedBy (some unisocketService) [] [unisocketPod] := {
    discovery := fun s hs => by
      obtain rfl := Option.some.inj hs
      exact ⟨by decide, rfl, by decide⟩
    perPod := fun _ hs => absurd hs List.not_mem_nil
    runs := List.forall_mem_singleton.2 ⟨by decide, by decide⟩
    nodup := List.nodup_singleton _ }
  have hleads : unisocketService.LeadsTo unisocketPod :=
    (hserved.runs _ List.mem_cons_self).leadsTo_discovery (hserved.discovery _ rfl)
  have hreached : unisocketService.ReachedAt [unisocketPod] "192.168.0.10" 31000 :=
    .node rfl List.mem_cons_self hleads rfl List.mem_cons_self rfl
  refine ⟨hreached, fun hall => ?_⟩
  rcases (externalAddresses_complete_iff hserved).2.2.1.1 hall with hsmart | hnone
  · exact absurd hsmart (by decide)
  · exact hnone _ rfl (hreached.onNodes rfl)

end Cluster

end GridOperator
