import GridOperator.Proofs.Kubernetes.Annotations
import GridOperator.Proofs.Reconcile.FixedPoint
import GridOperator.Proofs.Reconcile.Strictness

/-!
# The order of a pass

What a pass does for others to see waits for what it relies on: `Cluster.Allows` says
for each call what has to have happened before it. `reconcile_allows` says that a pass
over a stored cluster keeps to this order wherever calls fail, and ends with the first
one that does.
-/

namespace GridOperator

open Kubernetes Pass
open ClusterPass (within)
open Script (Event Ran Goes)
open Script.Failing (failure?)

/-! ## What is waited for -/

def StoreCall.Changes {K : Type} : StoreCall K → Prop
  | create _ | update _ | delete _ => True
  | get _ => False

/-- Whether a command changes the mode of a cluster or its data. -/
def ManageCall.Changes : ManageCall → Prop
  | changeState _ | forceStart | hotBackup => True
  | getState => False

/-- Whether a service has an ingress point if it needs one, and all names of these are known. -/
def Kubernetes.Service.CanBeReached (s : Service) (o : Outlook) : Prop :=
  s.type? = some "LoadBalancer" →
    s.ingress ≠ [] ∧ ∀ i ∈ s.ingress, ∀ host, i.hostname = some host → o.resolves host

namespace Cluster

variable (c : Cluster) (settings : Settings) (o : Outlook) (events : List (Event clusterCalls))
  (w : PassWorld)

/-- Whether the cluster is accepted, and is kept from being removed without a cleanup. -/
structure Prepared : Prop where
  accepted : c.check = .ok ()
  held : ∃ d, w.clusters.objects.get? (Resource.anyName c) = some d ∧ d.metadata.hasFinalizer

/-- Whether rights and services are in line. -/
structure Aligned : Prop where
  rights : Ran (c.applyRbac settings.platform).run (.ok ()) events
  services : ∃ services, Ran c.applyServices.run (.ok services) events

/-- Whether besides the services of members have been read back, are so still and can be reached. -/
structure Connected : Prop extends c.Prepared w, c.Aligned settings events where
  reached : c.spec.isSmart → ∀ i < c.spec.memberCount, ∃ s,
    (⟨.services (.get (c.podName i)), .ok (some s)⟩ : Event clusterCalls) ∈ events ∧
      w.services.objects.get? (c.podName i) = some s ∧ s.CanBeReached o

/-- Whether the stateful set is in line, and the status that has been observed is written. -/
structure Shown (status : ClusterStatus) : Prop extends c.Aligned settings events where
  config : Ran c.applyConfigMap.run (.ok ()) events
  statefulSet : Ran (c.applyStatefulSet settings).run (.ok ()) events
  observed : ∃ services, Ran (c.observe services).run (.ok status) events
  written :
    (⟨.patchStatus (Resource.anyName c) status.toJson, .ok ()⟩ : Event clusterCalls) ∈ events

/-- Whether it has been seen to members that crash and to those that wait after a restore. -/
structure Tended (status : ClusterStatus) : Prop where
  started : ∃ client b, Ran (ClusterPass.command client
    { c with status := some status }.checkForceStart).run (.ok b) events
  activated : ∃ client b, Ran (ClusterPass.command client
    { c with status := some status }.ensureActive).run (.ok b) events

/-- Whether a call may be made in a world, after these ones. -/
def Allows : ClusterCall → Prop
  | .roles call => call.Changes → c.Prepared w
  | .accounts call => call.Changes → c.Prepared w
  | .bindings call => call.Changes → c.Prepared w
  | .services call => call.Changes → c.Prepared w ∧
    Ran (c.applyRbac settings.platform).run (.ok ()) events
  | .configMaps call => call.Changes → c.Connected settings o events w
  | .statefulSets call => call.Changes → c.Connected settings o events w ∧
    Ran c.applyConfigMap.run (.ok ()) events
  | .manage _ call => call.Changes → ∃ status, c.Shown settings events status
  | .clusters (.update d) =>
    -- the record is left as it is stored, or says what this pass has brought about
    (∃ found, w.clusters.objects.get? (Resource.anyName d) = some found ∧
      d.metadata.annotation? Names.lastSpecAnnotation =
        found.metadata.annotation? Names.lastSpecAnnotation) ∨
    (d.metadata.annotation? Names.lastSpecAnnotation = some c.specText ∧ ∃ status,
      c.Shown settings events status ∧ status.phase = .running ∧ c.Tended events status)
  | .clusters (.create _) | .clusters (.delete _) => False
  | .clusters (.get _) | .patchStatus _ _ | .listMaps | .listPods _ | .resolves _ | .memberState _
  | .client _ | .release _ => True

variable {c w} {v : PassWorld}

theorem Prepared.congr (h : c.Prepared w) (hclusters : v.clusters = w.clusters) : c.Prepared v :=
  ⟨h.accepted, hclusters ▸ h.held⟩

end Cluster

/-! ## Kinds of calls -/

namespace ClusterCall

def OnRights : ClusterCall → Prop
  | roles _ | accounts _ | bindings _ => True
  | _ => False

/-- Whether a call is part of bringing the services in line. -/
def OnServices : ClusterCall → Prop
  | services _ | statefulSets (.get _) => True
  | _ => False

def OnConfig : ClusterCall → Prop
  | listMaps | configMaps _ => True
  | _ => False

def OnStatefulSets : ClusterCall → Prop
  | statefulSets _ => True
  | _ => False

/-- Whether a call only looks at what the status is to say. -/
def Observes : ClusterCall → Prop
  | listPods _ | memberState _ | services (.get _) => True
  | _ => False

end ClusterCall

namespace PassWorld

variable {m : Manner} {o : Outlook} {c : Cluster} {settings : Settings} {w v : PassWorld}
  {events later before : List (Event clusterCalls)} {call : ClusterCall}

/-- Rights and services are apart from the clusters. -/
theorem clusters_eq_of_on (answer : clusterCalls.Answer call)
    (hcall : call.OnRights ∨ call.OnServices) (h : environment m o call w answer v) :
    v.clusters = w.clusters := by
  cases call with
  | roles call | accounts call | bindings call | services call | statefulSets call =>
    obtain ⟨s, -, rfl⟩ := h
    rfl
  | _ => exact hcall.elim False.elim False.elim

/-- Configuration and stateful sets are apart from the services besides. -/
theorem stores_eq_of_on (answer : clusterCalls.Answer call)
    (hcall : call.OnConfig ∨ call.OnStatefulSets) (h : environment m o call w answer v) :
    (v.clusters, v.services) = (w.clusters, w.services) := by
  cases call with
  | configMaps call | statefulSets call =>
    obtain ⟨s, -, rfl⟩ := h
    rfl
  | listMaps => rw [h.2]
  | _ => exact hcall.elim False.elim False.elim

/-! ## Up to the rights -/

theorem pending_addFinalizer
    (h : Pending (environment .unreliable o) (within (Store.addFinalizer c)) w events call v) :
    call = .clusters (.update (Resource.mapMetadata (·.addFinalizer) c)) ∧ v = w := by
  obtain ⟨next, h⟩ := h
  unfold Store.addFinalizer at h
  dsimp only at h
  split at h
  · cases h.follows.done_cases.2
  · rcases h.ask_cases with ⟨-, heq, hworld⟩ | ⟨answer, later, u, -, -, h⟩
    · cases heq
      exact ⟨rfl, hworld⟩
    · cases answer <;> cases h.follows.done_cases.2

/-- Up to the rights the only change of the cluster itself is the finalizer. -/
theorem allows_prepare (hlive : c.metadata.isDeleted = false)
    (hstored : w.clusters.objects.get? (Resource.anyName c) = some c)
    (h : Pending (environment .unreliable o) (c.prepare settings) w events call v) :
    c.Allows settings o events v call := by
  rcases pending_bind h with h₁ | ⟨added, later, first, u, rfl, hadd, h₁⟩
  · obtain ⟨rfl, rfl⟩ := pending_addFinalizer h₁
    exact .inl ⟨c, hstored, rfl⟩
  obtain ⟨d, hd, -, hfinalizer⟩ := exec_addFinalizer hlive hstored hadd.exec
  rcases pending_bind h₁ with h₂ | ⟨_, rest, second, u', rfl, hcheck, h₂⟩
  · obtain ⟨name, patch, rfl⟩ := (c.strict_refuseInvalid
      (P := fun call => ∃ name patch, call = .patchStatus name patch) fun _ _ =>
        ⟨_, _, rfl⟩).pending h₂
    trivial
  · -- calls for the rights leave the cluster as the finalizer has left it
    obtain ⟨haccepted, rfl⟩ := (exec_refuseInvalid hcheck.exec).2 rfl
    have hstrict := c.strict_applyRbac (P := ClusterCall.OnRights) (fun _ => trivial)
      (fun _ => trivial) (fun _ => trivial) settings.platform
    have hclusters := hstrict.keeps_pending PassWorld.clusters
      (fun _ _ answer _ hcall => clusters_eq_of_on answer (.inl hcall)) h₂
    have hkind := hstrict.pending h₂
    have hprepared : c.Prepared v := ⟨haccepted, d, hclusters ▸ hd, hfinalizer⟩
    cases call with
    | roles call | accounts call | bindings call => exact fun _ => hprepared
    | _ => exact hkind.elim

/-- What a pass finds after the rights. -/
theorem ended_prepare (hlive : c.metadata.isDeleted = false)
    (hstored : w.clusters.objects.get? (Resource.anyName c) = some c)
    (h : Ended (environment .unreliable o) (c.prepare settings) w events (.ok ()) v) :
    c.Prepared v ∧ Ran (c.applyRbac settings.platform).run (.ok ()) events := by
  obtain ⟨added, later, first, u, rfl, hadd, h₁⟩ := ended_bind h
  obtain ⟨d, hd, -, hfinalizer⟩ := exec_addFinalizer hlive hstored hadd.exec
  obtain ⟨_, rest, second, u', rfl, hcheck, h₂⟩ := ended_bind h₁
  obtain ⟨haccepted, rfl⟩ := (exec_refuseInvalid hcheck.exec).2 rfl
  have hstrict := c.strict_applyRbac (P := ClusterCall.OnRights) (fun _ => trivial)
    (fun _ => trivial) (fun _ => trivial) settings.platform
  have hclusters := hstrict.keeps_ended PassWorld.clusters
    (fun _ _ answer _ hcall => clusters_eq_of_on answer (.inl hcall)) h₂
  exact ⟨⟨haccepted, d, hclusters ▸ hd, hfinalizer⟩, (h₂.ran.after _).after _⟩

/-! ## The services -/

theorem allows_applyServices (hprepared : c.Prepared w)
    (hrights : Ran (c.applyRbac settings.platform).run (.ok ()) before)
    (h : Pending (environment .unreliable o) c.applyServices w later call v) :
    c.Allows settings o (later ++ before) v call := by
  have hstrict := c.strict_applyServices (P := ClusterCall.OnServices) (fun _ => trivial)
    (fun _ => trivial)
  have hclusters := hstrict.keeps_pending PassWorld.clusters
    (fun _ _ answer _ hcall => clusters_eq_of_on answer (.inr hcall)) h
  have hkind := hstrict.pending h
  cases call with
  | services call => exact fun _ => ⟨hprepared.congr hclusters, hrights.before _⟩
  | statefulSets call =>
    cases call with
    | get name => exact False.elim
    | _ => exact hkind.elim
  | _ => exact hkind.elim

theorem ended_getService {name : String} {found : Option Service}
    (h : Ended (environment .unreliable o) (within (Store.get name)) w events (.ok found) v) :
    events = [⟨.services (.get name), .ok found⟩] ∧ v = w ∧
      found = w.services.objects.get? name := by
  obtain ⟨-, rfl, hfound⟩ := shows_get (K := Service) _ h.exec
  obtain ⟨answer, rfl, rfl, -⟩ := ended_ask h
  exact ⟨rfl, rfl, hfound found rfl⟩

/-- A service that is read back is what is stored. -/
theorem ended_readServices {desired : List Service} {found : List (Option Service)}
    (h : Ended (environment .unreliable o) (Cluster.readServices desired) w events (.ok found) v) :
    ∀ d ∈ desired, (⟨.services (.get (Resource.anyName d)),
      .ok (w.services.objects.get? (Resource.anyName d))⟩ : Event clusterCalls) ∈ events := by
  induction desired generalizing events w found v with
  | nil => exact fun _ hd => absurd hd List.not_mem_nil
  | cons d rest ih =>
    obtain ⟨s, later, first, u, rfl, hget, h₁⟩ := ended_bind h
    obtain ⟨ss, last, second, u', rfl, hrest, -⟩ := ended_bind h₁
    obtain ⟨rfl, rfl, rfl⟩ := ended_getService hget
    intro d' hd'
    rcases List.mem_cons.1 hd' with rfl | hd'
    · exact List.mem_append_right _ (List.mem_singleton_self _)
    · exact List.mem_append_left _ (List.mem_append_right _ (ih hrest d' hd'))

/-- What a pass finds after the services: those of the members have been read back. -/
theorem ended_applyServices (hprepared : c.Prepared w) {services : List (Option Service)}
    (h : Ended (environment .unreliable o) c.applyServices w events (.ok services) v) :
    c.Prepared v ∧ services = v.perPod c ∧ ∀ d ∈ c.perPodServices,
      (⟨.services (.get (Resource.anyName d)),
        .ok (v.services.objects.get? (Resource.anyName d))⟩ : Event clusterCalls) ∈ events := by
  have hstrict := c.strict_applyServices (P := ClusterCall.OnServices) (fun _ => trivial)
    (fun _ => trivial)
  have hclusters := hstrict.keeps_ended PassWorld.clusters
    (fun _ _ answer _ hcall => clusters_eq_of_on answer (.inr hcall)) h
  refine ⟨hprepared.congr hclusters, ?_⟩
  -- reading back comes last, so that what is read is what the pass leaves
  rw [Cluster.applyServices_eq] at h
  obtain ⟨_, later, first, u, rfl, -, hread⟩ := ended_bind h
  obtain ⟨-, rfl, hservices⟩ := shows_readServices _ hread.exec
  exact ⟨hservices services rfl, fun d hd => List.mem_append_left _ (ended_readServices hread d hd)⟩

/-! ## The stateful set -/

theorem canBeReached_of_isReachable {s : Service}
    (h : (s.isReachable fun host => pure (o.resolves host) : Id Bool).run) : s.CanBeReached o := by
  intro htype
  unfold Service.isReachable at h
  rw [if_pos htype] at h
  cases hingress : s.ingress with
  | nil =>
    rw [hingress] at h
    cases h
  | cons i rest =>
    rw [hingress] at h
    refine ⟨List.cons_ne_nil _ _, fun j hj host hhost => ?_⟩
    exact List.run_allM_iff.1 h host (List.mem_filterMap.2 ⟨j, hj, hhost⟩)

/-- If the members can be reached, so can the service of each one. -/
theorem connected_of_reachable (hprepared : c.Prepared w) (haligned : c.Aligned settings events)
    (hreachable : reachable o c (w.perPod c))
    (hread : ∀ d ∈ c.perPodServices, (⟨.services (.get (Resource.anyName d)),
      .ok (w.services.objects.get? (Resource.anyName d))⟩ : Event clusterCalls) ∈ events) :
    c.Connected settings o events w := by
  refine ⟨hprepared, haligned, fun hsmart i hi => ?_⟩
  obtain ⟨d, hd, hname⟩ : ∃ d ∈ c.perPodServices, Resource.anyName d = c.podName i := by
    have hmem : c.podName i ∈ c.perPodServices.map Resource.anyName := by
      rw [c.anyName_perPodServices]
      refine List.mem_map_of_mem (List.mem_range.2 ?_)
      unfold Cluster.perPodCount
      rwa [if_pos hsmart]
    exact List.mem_map.1 hmem
  have hevent := hread d hd
  unfold reachable Cluster.perPodReady at hreachable
  rw [if_pos hsmart] at hreachable
  have hservice := List.run_allM_iff.1 hreachable _ (List.mem_map_of_mem hd)
  rw [hname] at hevent hservice
  cases hstored : w.services.objects.get? (c.podName i) with
  | none =>
    rw [hstored] at hservice
    cases hservice
  | some s =>
    rw [hstored] at hevent hservice
    exact ⟨s, hevent, rfl, canBeReached_of_isReachable hservice⟩

end PassWorld

namespace Cluster

variable {o : Outlook} {c : Cluster} {settings : Settings} {w v : PassWorld}
  {before : List (Event clusterCalls)} {status : ClusterStatus}

theorem Aligned.later (h : c.Aligned settings before) (later : List (Event clusterCalls)) :
    c.Aligned settings (later ++ before) :=
  ⟨h.rights.before later, h.services.imp fun _ hran => hran.before later⟩

theorem Connected.later (h : c.Connected settings o before w)
    (hstores : (v.clusters, v.services) = (w.clusters, w.services))
    (later : List (Event clusterCalls)) : c.Connected settings o (later ++ before) v := by
  obtain ⟨hclusters, hservices⟩ := Prod.mk.inj hstores
  refine ⟨h.toPrepared.congr hclusters, h.toAligned.later later, fun hsmart i hi => ?_⟩
  obtain ⟨s, hread, hstored, hreached⟩ := h.reached hsmart i hi
  exact ⟨s, List.mem_append_right _ hread, hservices ▸ hstored, hreached⟩

theorem Shown.later (h : c.Shown settings before status) (later : List (Event clusterCalls)) :
    c.Shown settings (later ++ before) status where
  toAligned := h.toAligned.later later
  config := h.config.before later
  statefulSet := h.statefulSet.before later
  observed := h.observed.imp fun _ hran => hran.before later
  written := List.mem_append_right _ h.written

end Cluster

namespace PassWorld

variable {o : Outlook} {c : Cluster} {settings : Settings} {w v : PassWorld}
  {events later before : List (Event clusterCalls)} {call : ClusterCall}

theorem allows_applyConfigMap (hconnected : c.Connected settings o before w)
    (h : Pending (environment .unreliable o) c.applyConfigMap w later call v) :
    c.Allows settings o (later ++ before) v call := by
  have hstrict := c.strict_applyConfigMap (P := ClusterCall.OnConfig) trivial fun _ => trivial
  have hstores := hstrict.keeps_pending (fun w => (w.clusters, w.services))
    (fun _ _ answer _ hcall => stores_eq_of_on answer (.inl hcall)) h
  have hkind := hstrict.pending h
  cases call with
  | configMaps call => exact fun _ => hconnected.later hstores _
  | listMaps => trivial
  | _ => exact hkind.elim

theorem ended_applyConfigMap (hconnected : c.Connected settings o before w)
    (h : Ended (environment .unreliable o) c.applyConfigMap w later (.ok ()) v) :
    c.Connected settings o (later ++ before) v := by
  have hstrict := c.strict_applyConfigMap (P := ClusterCall.OnConfig) trivial fun _ => trivial
  exact hconnected.later (hstrict.keeps_ended (fun w => (w.clusters, w.services))
    (fun _ _ answer _ hcall => stores_eq_of_on answer (.inl hcall)) h) _

theorem allows_applyStatefulSet (hconnected : c.Connected settings o before w)
    (hconfig : Ran c.applyConfigMap.run (.ok ()) before)
    (h : Pending (environment .unreliable o) (c.applyStatefulSet settings) w later call v) :
    c.Allows settings o (later ++ before) v call := by
  have hstrict : Strict (I := clusterCalls) ClusterCall.OnStatefulSets
      (c.applyStatefulSet settings) := c.strict_applyStatefulSet fun _ => trivial
  have hstores := hstrict.keeps_pending (fun w => (w.clusters, w.services))
    (fun _ _ answer _ hcall => stores_eq_of_on answer (.inr hcall)) h
  have hkind := hstrict.pending h
  cases call with
  | statefulSets call => exact fun _ => ⟨hconnected.later hstores _, hconfig.before _⟩
  | _ => exact hkind.elim

theorem allows_patchStatus {name : String} {patch : Json}
    (h : Pending (environment .unreliable o) (ClusterPass.patchStatus name patch) w later call v) :
    c.Allows settings o events v call := by
  obtain rfl := (ClusterPass.strict_patchStatus (P := (· = .patchStatus name patch)) rfl).pending h
  trivial

theorem allows_place (hprepared : c.Prepared w) (haligned : c.Aligned settings before)
    (hread : ∀ d ∈ c.perPodServices, (⟨.services (.get (Resource.anyName d)),
      .ok (w.services.objects.get? (Resource.anyName d))⟩ : Event clusterCalls) ∈ before)
    (h : Pending (environment .unreliable o) (c.place settings (w.perPod c)) w later call v) :
    c.Allows settings o (later ++ before) v call := by
  rcases pending_bind h with h₁ | ⟨ready, rest, first, u, rfl, hready, h₁⟩
  · obtain ⟨host, rfl⟩ := (c.strict_perPodReady (P := fun call => ∃ host, call = .resolves host)
      (fun _ => ⟨_, rfl⟩) _).pending h₁
    trivial
  obtain ⟨-, rfl, hreachable⟩ := shows_perPodReady _ hready.exec
  obtain rfl := hreachable ready rfl
  cases hreached : reachable o c (u.perPod c) with
  | false =>
    rw [hreached] at h₁
    rcases pending_bind h₁ with h₂ | ⟨_, _, _, _, rfl, -, h₂⟩
    · exact allows_patchStatus h₂
    · exact absurd h₂ not_pending_pure
  | true =>
    rw [hreached] at h₁
    rw [List.append_assoc]
    have hconnected : c.Connected settings o (first ++ before) u :=
      (connected_of_reachable hprepared haligned hreached hread).later rfl first
    rcases pending_bind h₁ with h₂ | ⟨_, rest', second, v', rfl, hconfig, h₂⟩
    · exact allows_applyConfigMap hconnected h₂
    rw [List.append_assoc]
    rcases pending_bind h₂ with h₃ | ⟨_, _, _, _, rfl, -, h₃⟩
    · exact allows_applyStatefulSet (ended_applyConfigMap hconnected hconfig)
        (hconfig.ran.after _) h₃
    · exact absurd h₃ not_pending_pure

/-- A pass that has brought the stateful set in line has done so with the configuration before. -/
theorem ended_place {services : List (Option Service)}
    (h : Ended (environment .unreliable o) (c.place settings services) w events (.ok true) v) :
    Ran c.applyConfigMap.run (.ok ()) events ∧
      Ran (c.applyStatefulSet settings).run (.ok ()) events := by
  obtain ⟨ready, later, first, u, rfl, -, h₁⟩ := ended_bind h
  cases ready with
  | false =>
    obtain ⟨_, _, _, _, rfl, -, h₂⟩ := ended_bind h₁
    cases (Script.Goes.done_cases h₂).2.1
  | true =>
    obtain ⟨_, rest, second, u', rfl, hconfig, h₂⟩ := ended_bind h₁
    obtain ⟨_, last, third, u'', rfl, hset, -⟩ := ended_bind h₂
    exact ⟨(hconfig.ran.before _).after _, ((hset.ran.before _).after _).after _⟩

/-! ## The status and the members -/

end PassWorld

/-- What a pass does after the status is written. -/
def Cluster.tend (c : Cluster) (status : ClusterStatus) : ClusterPass Next := do
  let observed := { c with status := some status }
  let client ← ClusterPass.client observed
  let _ ← ClusterPass.command client observed.checkForceStart
  let _ ← ClusterPass.command client observed.ensureActive
  if status.phase = .running then
    let _ ← within <| Store.annotate (K := Cluster) (Resource.anyName c) Names.lastSpecAnnotation
      c.specText
    return .after 60
  else return .after 10

namespace PassWorld

variable {o : Outlook} {c : Cluster} {settings : Settings} {w v : PassWorld}
  {events later before : List (Event clusterCalls)} {call : ClusterCall} {status : ClusterStatus}

/-- What is recorded is the specification of the pass. -/
theorem strict_record (c : Cluster) :
    Strict (I := clusterCalls) (fun call => (∃ name, call = .clusters (.get name)) ∨
      ∃ d, call = .clusters (.update d) ∧
        d.metadata.annotation? Names.lastSpecAnnotation = some c.specText)
      (within <| Store.annotate (K := Cluster) (Resource.anyName c) Names.lastSpecAnnotation
        c.specText) :=
  strict_embed (fun _ _ => rfl) <| Store.strict_annotate (.inl ⟨_, rfl⟩) fun found =>
    .inr ⟨_, rfl, found.metadata.annotation?_annotate _ _⟩

theorem allows_tend (hshown : c.Shown settings before status)
    (h : Pending (environment .unreliable o) (c.tend status) w later call v) :
    c.Allows settings o (later ++ before) v call := by
  have hmanage (client : Client) {p : Pass management Bool}
      (hp : Strict (I := management) (fun _ => True) p) {w : PassWorld}
      {own : List (Event clusterCalls)}
      (h : Pending (environment .unreliable o) (ClusterPass.command client p) w own call v) :
      c.Allows settings o (later ++ before) v call := by
    have hkind := (ClusterPass.strict_command (P := fun call => ∃ sent, call = .manage client sent)
      (hp.mono fun sent _ => ⟨sent, rfl⟩)).pending h
    obtain ⟨sent, rfl⟩ := hkind
    exact fun _ => ⟨status, hshown.later _⟩
  rcases pending_bind h with h₁ | ⟨client, rest, first, u, rfl, -, h₁⟩
  · obtain ⟨d, rfl⟩ := (strict_lift (I := clusterCalls) (K := fun call => ∃ d, call = .client d)
      ⟨_, rfl⟩ fun _ => rfl).pending h₁
    trivial
  rcases pending_bind h₁ with h₂ | ⟨forced, rest', second, u', rfl, hstarted, h₂⟩
  · exact hmanage client (Cluster.strict_checkForceStart (fun _ => trivial) _) h₂
  rcases pending_bind h₂ with h₃ | ⟨activated, rest'', third, u'', rfl, hactivated, h₃⟩
  · exact hmanage client (Cluster.strict_ensureActive (fun _ => trivial) _) h₃
  -- both commands have succeeded by now, or the pass would have ended
  have htended : c.Tended ((((rest'' ++ third) ++ second) ++ first) ++ before) status :=
    ⟨⟨client, forced, ((hstarted.ran.before _).after _).after _⟩,
      ⟨client, activated, (((hactivated.ran.before _).after _).after _).after _⟩⟩
  split at h₃
  · rename_i hrunning
    rcases pending_bind h₃ with h₄ | ⟨_, _, _, _, rfl, -, h₄⟩
    · rcases (strict_record c).pending h₄ with ⟨name, rfl⟩ | ⟨d, rfl, hrecord⟩
      · trivial
      · exact .inr ⟨hrecord, status, hshown.later _, hrunning, htended⟩
    · exact absurd h₄ not_pending_pure
  · exact absurd h₃ not_pending_pure

theorem allows_settle {services : List (Option Service)} (haligned : c.Aligned settings before)
    (hconfig : Ran c.applyConfigMap.run (.ok ()) before)
    (hset : Ran (c.applyStatefulSet settings).run (.ok ()) before)
    (h : Pending (environment .unreliable o) (c.settle services) w later call v) :
    c.Allows settings o (later ++ before) v call := by
  rcases pending_bind h with h₁ | ⟨status, rest, first, u, rfl, hobserve, h₁⟩
  · have hkind := (c.strict_observe (P := ClusterCall.Observes) (fun _ => trivial)
      (fun _ => trivial) (fun _ => trivial) services).pending h₁
    cases call with
    | services call =>
      cases call with
      | get name => exact False.elim
      | _ => exact hkind.elim
    | listPods | memberState => trivial
    | _ => exact hkind.elim
  rcases pending_bind h₁ with h₂ | ⟨_, rest', second, u', rfl, hpatch, h₂⟩
  · exact allows_patchStatus h₂
  have hshown : c.Shown settings (second ++ (first ++ before)) status := by
    obtain ⟨answer, rfl, rfl, -⟩ := ended_ask hpatch
    exact {
      toAligned := (haligned.later _).later _
      config := (hconfig.before _).before _
      statefulSet := (hset.before _).before _
      observed := ⟨services, (hobserve.ran.after _).before _⟩
      written := List.mem_append_left _ (List.mem_singleton_self _) }
  rw [List.append_assoc, List.append_assoc]
  exact allows_tend hshown h₂

/-! ## The whole pass -/

/-- A pass over a stored cluster, wherever it is and however calls are answered. The next call is
one that is allowed after those before it, in the world as it is then. The first call that fails is
the last one, and the pass ends with its error. -/
theorem reconcile_allows {rest : Script clusterCalls (Except Error Next)}
    (hlive : c.metadata.isDeleted = false)
    (hstored : w.clusters.objects.get? (Resource.anyName c) = some c)
    (h : Goes (environment .unreliable o) (c.reconcile settings).run w events rest v) :
    (∀ call next, rest = .ask call next → c.Allows settings o events v call) ∧
      ∀ later event earlier e, events = later ++ event :: earlier →
        failure? event.call event.answer = some e → later = [] ∧ rest = .done (.error e) := by
  refine ⟨?_, fun later event earlier e hevents hfailed =>
    h.follows.ends (c.strict_reconcile hlive settings) hevents hfailed⟩
  rintro call next rfl
  have hpending : Pending (environment .unreliable o) (c.reconcile settings) w events call v :=
    ⟨next, h⟩
  rw [Cluster.reconcile_eq hlive] at hpending
  rcases pending_bind hpending with h₁ | ⟨_, rest, first, u, rfl, hprepare, h₁⟩
  · exact allows_prepare hlive hstored h₁
  obtain ⟨hprepared, hrights⟩ := ended_prepare hlive hstored hprepare
  rcases pending_bind h₁ with h₂ | ⟨services, rest', second, u', rfl, happly, h₂⟩
  · exact allows_applyServices hprepared hrights h₂
  obtain ⟨hprepared', rfl, hread⟩ := ended_applyServices hprepared happly
  have haligned : c.Aligned settings (second ++ first) :=
    ⟨hrights.before _, _, happly.ran.after _⟩
  rw [List.append_assoc]
  rcases pending_bind h₂ with h₃ | ⟨placed, rest'', third, u'', rfl, hplace, h₃⟩
  · exact allows_place hprepared' haligned (fun d hd => List.mem_append_left _ (hread d hd)) h₃
  cases placed with
  | false => exact absurd h₃ not_pending_pure
  | true =>
    obtain ⟨hconfig, hset⟩ := ended_place hplace
    rw [List.append_assoc]
    exact allows_settle (haligned.later third) (hconfig.after _) (hset.after _) h₃

/-- A cluster whose only member has a service of its own. -/
def exposed : Cluster :=
  { single with spec := { single.spec with
      exposeExternally := some { memberAccess := some .nodePortExternalIP } } }

def exposedStored : PassWorld where
  clusters := { objects := [("hz", exposed)], version := 1 }

/-- The stateful set that is about to be created. -/
def created? {α : Type} : Script clusterCalls α → Option StatefulSet
  | .ask (.statefulSets (.create set)) _ => some set
  | _ => none

theorem eq_ask_of_created? {α : Type} {s : Script clusterCalls α} {set : StatefulSet}
    (h : created? s = some set) : ∃ next, s = .ask (.statefulSets (.create set)) next := by
  unfold created? at h
  split at h
  · obtain rfl := Option.some.inj h
    exact ⟨_, rfl⟩
  · cases h

/-- A pass that is about to create the stateful set has read back the service of the member. -/
theorem reconcile_allows_exposed : ∃ events set next v,
    Goes (environment .unreliable {}) (exposed.reconcile {}).run exposedStored events
      (.ask (.statefulSets (.create set)) next) v ∧
    exposed.Prepared v ∧ ∃ s, v.services.objects.get? "hz-0" = some s := by
  have hgoes := (Goes.start (s := (exposed.reconcile {}).run) (w := exposedStored)).advance
    (h := serve {}) (fun c w => unreliable_of_reliable (reliable_serve c w)) 17
  have hcreated : (created? (Script.advance (serve {}) 17 [] (exposed.reconcile {}).run
      exposedStored).2.1).isSome := by decide +kernel
  generalize Script.advance (serve {}) 17 [] (exposed.reconcile {}).run exposedStored = reached
    at hgoes hcreated
  obtain ⟨events, rest, v⟩ := reached
  obtain ⟨set, hset⟩ := Option.isSome_iff_exists.1 hcreated
  obtain ⟨next, rfl⟩ := eq_ask_of_created? hset
  have hallowed := (reconcile_allows rfl rfl hgoes).1 _ _ rfl
  obtain ⟨hconnected, -⟩ := hallowed trivial
  obtain ⟨s, -, hs, -⟩ := hconnected.reached (by decide) 0 (by decide)
  exact ⟨events, set, next, v, hgoes, hconnected.toPrepared, s, hs⟩

end PassWorld

end GridOperator
