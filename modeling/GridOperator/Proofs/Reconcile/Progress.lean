import GridOperator.Proofs.Reconcile.Sight
import GridOperator.Proofs.Reconcile.Stores

/-!
# What the stages of a pass over a cluster come to

Each stage has goals for some objects. Wherever it ends, some of them are met and
all else is as it was; if it succeeds, all of them are met. A stage that only concerns
the cluster itself and its client leaves all objects alone.
-/

namespace GridOperator

open Kubernetes Pass
open ClusterPass (within Reachable)
open MemoryStore (Partly Wholly partly_refl wholly_nil)

namespace PassWorld

variable {o : Outlook} {c : Cluster} {settings : Settings} {w w' : PassWorld} {α β : Type}

/-! ## Services -/

def stores (o : Outlook) : Stores (environment .unreliable o) where
  services := Stocked.part Service .unreliable o
  statefulSets := Stocked.part StatefulSet .unreliable o

/-- The services of members that are left over, as the stateful set tells. -/
def stale (c : Cluster) (w : PassWorld) : List Nat := c.stale w.statefulSets

theorem exec_applyServices {r : Except Error (List (Option Service))}
    (h : Exec (environment .unreliable o) c.applyServices w r w') :
    ∃ services, w' = { w with services } ∧
      Partly (c.serviceGoals (w.stale c)) w.services services ∧
      ∀ perPod, r = .ok perPod → perPod = w'.perPod c ∧
        Wholly (c.serviceGoals (w.stale c)) w.services services := by
  obtain ⟨services, rfl, hpursued, hseen⟩ := (stores o).exec_applyServices h
  exact ⟨services, rfl, hpursued.partly, fun perPod hr => ⟨hseen perPod hr, (hr ▸ hpursued).wholly⟩⟩

/-! ## Rights -/

theorem exec_apply {K : Type} [Resource K] [Reachable K] [Stocked K] {template : K}
    {change : K → Except Error K} {r : Except Error Applied}
    (h : Exec (environment .unreliable o) (within (Store.apply template change)) w r w') :
    ∃ s, w' = Stocked.restock w s ∧ Partly [Goal.inLine template change] (Stocked.stock w) s ∧
      ∀ a, r = .ok a → Wholly [Goal.inLine template change] (Stocked.stock w) s := by
  obtain ⟨s, hs, rfl⟩ := exec_within.1 h
  have hpursued := Store.exec_apply_goal hs
  exact ⟨s, rfl, hpursued.partly, fun a ha => (ha ▸ hpursued).wholly⟩

theorem exec_applyRbac {r : Except Error Unit}
    (h : Exec (environment .unreliable o) (c.applyRbac settings.platform) w r w') :
    ∃ roles accounts bindings, w' = { w with roles, accounts, bindings } ∧
      (Partly (c.roleGoals settings.platform) w.roles roles ∧
        Partly c.accountGoals w.accounts accounts ∧
        Partly c.bindingGoals w.bindings bindings) ∧
      ∀ a, r = .ok a → Wholly (c.roleGoals settings.platform) w.roles roles ∧
        Wholly c.accountGoals w.accounts accounts ∧
        Wholly c.bindingGoals w.bindings bindings := by
  rcases exec_bind_cases h with ⟨e, rfl, hrole⟩ | ⟨_, v, hrole, h₁⟩
  · obtain ⟨roles, rfl, hroles, -⟩ := exec_apply hrole
    exact ⟨roles, w.accounts, w.bindings, rfl, ⟨hroles, partly_refl _ _, partly_refl _ _⟩, nofun⟩
  obtain ⟨roles, rfl, hroles, hrole⟩ := exec_apply hrole
  rcases exec_bind_cases h₁ with ⟨e, rfl, haccount⟩ | ⟨_, v, haccount, h₂⟩
  · obtain ⟨accounts, rfl, haccounts, -⟩ := exec_apply haccount
    exact ⟨roles, accounts, w.bindings, rfl, ⟨hroles, haccounts, partly_refl _ _⟩, nofun⟩
  obtain ⟨accounts, rfl, haccounts, haccount⟩ := exec_apply haccount
  obtain ⟨applied, hbinding, hok⟩ := exec_discard h₂
  obtain ⟨bindings, rfl, hbindings, hbinding⟩ := exec_apply hbinding
  refine ⟨roles, accounts, bindings, rfl, ⟨hroles, haccounts, hbindings⟩, fun a ha => ?_⟩
  obtain ⟨b, hb⟩ := hok a ha
  exact ⟨hrole _ rfl, haccount _ rfl, hbinding b hb⟩

/-! ## Configuration and stateful set -/

theorem exec_applyConfigMap {r : Except Error Unit}
    (h : Exec (environment .unreliable o) c.applyConfigMap w r w') :
    ∃ configMaps, w' = { w with configMaps } ∧
      Partly (c.configGoals o.maps) w.configMaps configMaps ∧
      ∀ a, r = .ok a → Wholly (c.configGoals o.maps) w.configMaps configMaps := by
  rcases exec_bind_cases h with ⟨e, rfl, hlist⟩ | ⟨maps, v, hlist, hrest⟩
  · obtain ⟨-, rfl, -⟩ := shows_listMaps hlist
    exact ⟨w'.configMaps, rfl, partly_refl _ _, nofun⟩
  · obtain ⟨-, rfl, hmaps⟩ := shows_listMaps hlist
    obtain rfl := hmaps maps rfl
    obtain ⟨applied, happlied, hok⟩ := exec_discard hrest
    obtain ⟨configMaps, rfl, hpart, hall⟩ := exec_apply happlied
    exact ⟨configMaps, rfl, hpart, fun a ha => (hok a ha).elim hall⟩

theorem exec_applyStatefulSet {r : Except Error Unit}
    (h : Exec (environment .unreliable o) (c.applyStatefulSet settings) w r w') :
    ∃ statefulSets, w' = { w with statefulSets } ∧
      Partly (c.statefulSetGoals settings) w.statefulSets statefulSets ∧
      ∀ a, r = .ok a → Wholly (c.statefulSetGoals settings) w.statefulSets statefulSets ∧
        ∃ desired, c.newStatefulSet? settings = .ok desired := by
  obtain ⟨statefulSets, rfl, hpursued, hmade⟩ := (stores o).exec_applyStatefulSet h
  exact ⟨statefulSets, rfl, hpursued.partly, fun a ha => ⟨(ha ▸ hpursued).wholly, hmade a ha⟩⟩

theorem exec_patchStatus {name : String} {patch : Json} {r : Except Error Unit}
    (h : Exec (environment .unreliable o) (ClusterPass.patchStatus name patch) w r w') :
    ∃ clusters, w' = { w with clusters } ∧ ∀ a, r = .ok a →
      w.clusters.Patched name patch clusters := by
  obtain ⟨clusters, hpatch, rfl⟩ := Script.exec_call.1 h
  refine ⟨clusters, rfl, fun a ha => ?_⟩
  rcases hpatch with ⟨-, hpatched⟩ | ⟨e, he, -⟩
  · exact hpatched
  · cases he.symm.trans ha

theorem exec_place {services : List (Option Service)} {r : Except Error Bool}
    (h : Exec (environment .unreliable o) (c.place settings services) w r w') :
    (∃ clusters, w' = { w with clusters } ∧ ∀ b, r = .ok b →
      b = false ∧ reachable o c services = false ∧
        w.clusters.Patched (Resource.anyName c)
          (Cluster.phasePatch .pending (some Cluster.waitingMessage)) clusters) ∨
      reachable o c services = true ∧ ∃ configMaps statefulSets,
        w' = { w with configMaps, statefulSets } ∧
        Partly (c.configGoals o.maps) w.configMaps configMaps ∧
        Partly (c.statefulSetGoals settings) w.statefulSets statefulSets ∧
        ∀ b, r = .ok b → b = true ∧ Wholly (c.configGoals o.maps) w.configMaps configMaps ∧
          Wholly (c.statefulSetGoals settings) w.statefulSets statefulSets ∧
          ∃ desired, c.newStatefulSet? settings = .ok desired := by
  have hlook {ready : Except Error Bool} {v : PassWorld}
      (hready : Exec (environment .unreliable o) (c.perPodReady ClusterPass.resolves services) w
        ready v) : v = w ∧ ∀ b, ready = .ok b → b = reachable o c services :=
    (shows_perPodReady services hready).2
  cases Cluster.placeCourse_of_exec h with
  | unseen hready =>
    obtain ⟨rfl, -⟩ := hlook hready
    exact .inl ⟨w'.clusters, rfl, nofun⟩
  | @waiting _ _ patched hready hpatch =>
    obtain ⟨rfl, hresult⟩ := hlook hready
    obtain ⟨clusters, rfl, hpatched⟩ := exec_patchStatus hpatch
    refine .inl ⟨clusters, rfl, fun b hb => ?_⟩
    cases patched with
    | error e => cases hb
    | ok a => exact ⟨(Except.ok.inj hb).symm, (hresult _ rfl).symm, hpatched a rfl⟩
  | unconfigured hready hconfig =>
    obtain ⟨rfl, hresult⟩ := hlook hready
    obtain ⟨configMaps, rfl, hpart, -⟩ := exec_applyConfigMap hconfig
    exact .inr ⟨(hresult _ rfl).symm, configMaps, _, rfl, hpart, partly_refl _ _, nofun⟩
  | @placed _ _ _ applied hready hconfig hset =>
    obtain ⟨rfl, hresult⟩ := hlook hready
    obtain ⟨configMaps, rfl, hpart, hconfigs⟩ := exec_applyConfigMap hconfig
    obtain ⟨statefulSets, rfl, hset, hsets⟩ := exec_applyStatefulSet hset
    refine .inr ⟨(hresult _ rfl).symm, configMaps, statefulSets, rfl, hpart, hset, fun b hb => ?_⟩
    cases applied with
    | error e => cases hb
    | ok a => exact ⟨(Except.ok.inj hb).symm, hconfigs () rfl, hsets a rfl⟩

/-! ## The cluster itself -/

/-- The world but for the clusters and their clients. -/
def objects (w : PassWorld) : PassWorld := { w with clusters := {}, registry := {} }

theorem eq_of_objects (h : objects w' = objects w) :
    ∃ clusters registry, w' = { w with clusters, registry } :=
  ⟨w'.clusters, w'.registry, congrArg (fun v : PassWorld =>
    { v with clusters := w'.clusters, registry := w'.registry }) h⟩

/-- A kind of the objects that belong to a cluster. -/
class Part (K : Type) [Resource K] [Reachable K] extends Stocked K where
  stock_objects (w : PassWorld) : stock (objects w) = stock w

instance : Part ClusterRole := ⟨fun _ => rfl⟩
instance : Part ServiceAccount := ⟨fun _ => rfl⟩
instance : Part ClusterRoleBinding := ⟨fun _ => rfl⟩
instance : Part Service := ⟨fun _ => rfl⟩
instance : Part ConfigMap := ⟨fun _ => rfl⟩
instance : Part StatefulSet := ⟨fun _ => rfl⟩

theorem stock_congr {K : Type} [Resource K] [Reachable K] [Part K]
    (h : objects w' = objects w) : (Stocked.stock w' : MemoryStore K) = Stocked.stock w := by
  rw [← Part.stock_objects w', h, Part.stock_objects w]

theorem keeps_clusters (p : Pass (store Cluster) α) :
    Keeps (environment .unreliable o) objects (within p) := by
  intro w r w' h
  obtain ⟨s, -, rfl⟩ := exec_within.1 h
  rfl

theorem keeps_patchStatus (name : String) (patch : Json) :
    Keeps (environment .unreliable o) objects (ClusterPass.patchStatus name patch) := by
  intro w r w' h
  obtain ⟨clusters, rfl, -⟩ := exec_patchStatus h
  rfl

theorem keeps_refuseInvalid (c : Cluster) :
    Keeps (environment .unreliable o) objects c.refuseInvalid := by
  unfold Cluster.refuseInvalid
  cases c.check with
  | ok => exact keeps_pure ()
  | error e =>
    refine keeps_bind (keeps_patchStatus _ _) fun _ => ?_
    intro w r w' h
    rw [(exec_ofExcept.1 h).2]

theorem exec_client {r : Except Error Client}
    (h : Exec (environment .unreliable o) (ClusterPass.client c) w r w') :
    ∃ registry, w' = { w with registry } := by
  obtain ⟨client, -, hcall⟩ := exec_lift.1 h
  exact ⟨_, (Script.exec_call.1 hcall).2⟩

theorem exec_command {client : Client} {p : Pass management α} {r : Except Error α}
    (h : Exec (environment .unreliable o) (ClusterPass.command client p) w r w') : w' = w := by
  refine (exec_embed.1 h).preserves (P := (· = w)) ?_ rfl
  rintro call v a v' ⟨answer, hcall, -⟩ rfl
  exact hcall

/-- What settling does to the clusters when it succeeds: the status is patched, and the
specification is recorded if the cluster is running. -/
theorem exec_settle {services : List (Option Service)} {status : ClusterStatus}
    (hstatus : shownStatus o c w services = status) {r : Except Error Next}
    (h : Exec (environment .unreliable o) (c.settle services) w r w') :
    ∃ clusters registry, w' = { w with clusters, registry } ∧ ∀ n, r = .ok n →
      ∃ patched, w.clusters.Patched (Resource.anyName c) status.toJson patched ∧
        if status.phase = .running then ∃ a, Exec MemoryStore.unreliable
          (Store.annotate (Resource.anyName c) Names.lastSpecAnnotation c.specText) patched (.ok a)
          clusters
        else clusters = patched := by
  rcases exec_bind_cases h with ⟨e, rfl, hobserve⟩ | ⟨seen, v, hobserve, h₁⟩
  · obtain ⟨-, rfl, -⟩ := shows_observe services hobserve
    exact ⟨_, _, rfl, nofun⟩
  obtain ⟨-, rfl, hseen⟩ := shows_observe services hobserve
  obtain rfl := (hseen seen rfl).trans hstatus
  rcases exec_bind_cases h₁ with ⟨e, rfl, hpatch⟩ | ⟨_, v, hpatch, h₂⟩
  · obtain ⟨clusters, rfl, -⟩ := exec_patchStatus hpatch
    exact ⟨clusters, _, rfl, nofun⟩
  obtain ⟨patched, rfl, hpatched⟩ := exec_patchStatus hpatch
  have hpatched := hpatched () rfl
  rcases exec_bind_cases h₂ with ⟨e, rfl, hclient⟩ | ⟨client, v, hclient, h₃⟩
  · obtain ⟨registry, rfl⟩ := exec_client hclient
    exact ⟨patched, registry, rfl, nofun⟩
  obtain ⟨registry, rfl⟩ := exec_client hclient
  rcases exec_bind_cases h₃ with ⟨e, rfl, hstart⟩ | ⟨_, v, hstart, h₄⟩
  · obtain rfl := exec_command hstart
    exact ⟨patched, registry, rfl, nofun⟩
  obtain rfl := exec_command hstart
  rcases exec_bind_cases h₄ with ⟨e, rfl, hactive⟩ | ⟨_, v, hactive, h₅⟩
  · obtain rfl := exec_command hactive
    exact ⟨patched, registry, rfl, nofun⟩
  obtain rfl := exec_command hactive
  split at h₅
  · rename_i hrunning
    obtain ⟨applied, happlied, hok⟩ := exec_discard h₅
    obtain ⟨clusters, hannotate, rfl⟩ := exec_within.1 happlied
    refine ⟨clusters, registry, rfl, fun n hn => ⟨patched, hpatched, ?_⟩⟩
    obtain ⟨a, rfl⟩ := hok n hn
    rw [if_pos hrunning]
    exact ⟨a, hannotate⟩
  · rename_i hwaiting
    obtain ⟨-, rfl⟩ := exec_pure.1 h₅
    refine ⟨patched, registry, rfl, fun n hn => ⟨patched, hpatched, ?_⟩⟩
    rw [if_neg hwaiting]

theorem keeps_settle (c : Cluster) (services : List (Option Service)) :
    Keeps (environment .unreliable o) objects (c.settle services) := by
  intro w r w' h
  obtain ⟨clusters, registry, rfl, -⟩ := exec_settle rfl h
  rfl

end PassWorld

end GridOperator
