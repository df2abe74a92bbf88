import GridOperator.Proofs.Cluster.Status
import GridOperator.Proofs.Store.Goals

/-!
# All that a pass over a cluster works on

A `PassWorld` holds the objects of every kind that a pass writes, and the clients.
What passes only look at is an `Outlook`, which stays as it is. A `Manner` is how
the stores answer: reliably, or such that every call may fail, before or after it
takes effect.
-/

namespace GridOperator

open Kubernetes Pass
open Script (Environment)

/-! ## Patches of a status -/

/-- The cluster with a patch merged into its status, if the status can be read afterwards. -/
def Cluster.patched? (c : Cluster) (patch : Json) : Option Cluster :=
  (ClusterStatus.ofJson? ((ClusterStatus.document c.status).mergePatch patch)).map fun s =>
    { c with status := some s }

theorem Cluster.patched?_toJson (c : Cluster) (s : ClusterStatus) :
    c.patched? s.toJson = some { c with status := some s } := by
  unfold patched?
  rw [ClusterStatus.ofJson?_mergePatch_toJson, Option.map_some]

theorem Cluster.patched?_phasePatch (c : Cluster) (phase : Phase) (message : Option String) :
    c.patched? (phasePatch phase message) = some { c with status := some { c.status.getD {} with
      phase, message := message <|> c.status.bind (·.message) } } := by
  unfold patched?
  rw [ClusterStatus.ofJson?_mergePatch_phasePatch, Option.map_some]

namespace MemoryStore

/-- Answers a patch of a status. A cluster that it makes no difference to keeps its version. -/
def servePatch (name : String) (patch : Json) (s : MemoryStore Cluster) :
    Except Error Unit × MemoryStore Cluster :=
  match s.objects.get? name with
  | none => (.error (.api (some 404)), s)
  | some found =>
    match found.patched? patch with
    | none => (.error (.api none), s)
    | some patched => (.ok (), if patched = found then s else s.put name patched)

/-- What a patch may make of a store: where it makes no difference, the cluster may get a new
version all the same. -/
def Patched (name : String) (patch : Json) (s s' : MemoryStore Cluster) : Prop :=
  s' = (servePatch name patch s).2 ∨ ∃ found, s.objects.get? name = some found ∧
    found.patched? patch = some found ∧ s' = s.put name found

end MemoryStore

/-! ## The world -/

/-- What passes look at and leave alone. -/
structure Outlook where
  /-- The maps of the namespace. -/
  maps : List DataMap := []
  /-- The pods of the namespace that carry all the given labels. -/
  pods : TextMap → List Pod := fun _ => []
  /-- Whether the name of a host is known. -/
  resolves : String → Bool := fun _ => false
  /-- The mode that a member says the cluster is in. -/
  memberState : Endpoint → Except Error ClusterState := fun _ => .error (.http .unanswered)

/-- Whether an object is to be created or replaced. -/
def StoreCall.IsWrite {K : Type} : StoreCall K → Prop
  | create _ | update _ => True
  | get _ | delete _ => False

/-- How calls are answered. -/
structure Manner where
  call {K : Type} [Resource K] : Environment (store K) (MemoryStore K)
  patch (name : String) (patch : Json) (s : MemoryStore Cluster) (answer : Except Error Unit)
    (s' : MemoryStore Cluster) : Prop
  /-- The answers to a question about what is not in the stores. -/
  look {α : Type} (seen : α) (answer : Except Error α) : Prop

namespace Manner

/-- All calls are answered. -/
def reliable : Manner where
  call c s answer s' := (answer, s') = MemoryStore.serve c s
  patch name p s answer s' := answer = (s.servePatch name p).1 ∧ s.Patched name p s'
  look seen answer := answer = .ok seen

/-- All calls are answered, and a patch that makes no difference makes no version. -/
def plain : Manner :=
  { reliable with patch := fun name p s answer s' => (answer, s') = s.servePatch name p }

/-- Every call may fail, before or after it takes effect. -/
def unreliable : Manner where
  call := MemoryStore.unreliable
  patch name p s answer s' := (answer = (s.servePatch name p).1 ∧ s.Patched name p s') ∨
    ∃ e, answer = .error e ∧ (s' = s ∨ s.Patched name p s')
  look seen answer := answer = .ok seen ∨ ∃ e, answer = .error e

/-- Calls may fail, but nothing is created or replaced, and nothing changes but for the version of a
cluster. -/
def still : Manner where
  call c s answer s' := MemoryStore.unreliable c s answer s' ∧ ¬ c.IsWrite ∧ s' = s
  patch name p s answer s' := unreliable.patch name p s answer s' ∧ s'.SameContent s
  look := unreliable.look

end Manner

theorem Store.exec_call_reliable {K : Type} [Resource K] {s s' : MemoryStore K} {c : StoreCall K}
    {r : c.Answer} (h : Script.Exec Manner.reliable.call (Script.call (I := store K) c) s r s') :
    r = (MemoryStore.serve c s).1 ∧ s' = (MemoryStore.serve c s).2 :=
  Prod.mk.inj (Script.exec_call.1 h)

/-- The objects that a pass over a cluster works on, and the clients. -/
structure PassWorld where
  roles : MemoryStore ClusterRole := {}
  bindings : MemoryStore ClusterRoleBinding := {}
  accounts : MemoryStore ServiceAccount := {}
  services : MemoryStore Service := {}
  configMaps : MemoryStore ConfigMap := {}
  statefulSets : MemoryStore StatefulSet := {}
  clusters : MemoryStore Cluster := {}
  registry : Registry := {}

namespace PassWorld

/-- A world where stores answer in some manner. Commands to live clusters may come to anything. -/
def environment (m : Manner) (o : Outlook) : Environment clusterCalls PassWorld
  | .roles call, w, answer, w' => ∃ s, m.call call w.roles answer s ∧ w' = { w with roles := s }
  | .bindings call, w, answer, w' =>
    ∃ s, m.call call w.bindings answer s ∧ w' = { w with bindings := s }
  | .accounts call, w, answer, w' =>
    ∃ s, m.call call w.accounts answer s ∧ w' = { w with accounts := s }
  | .services call, w, answer, w' =>
    ∃ s, m.call call w.services answer s ∧ w' = { w with services := s }
  | .configMaps call, w, answer, w' =>
    ∃ s, m.call call w.configMaps answer s ∧ w' = { w with configMaps := s }
  | .statefulSets call, w, answer, w' =>
    ∃ s, m.call call w.statefulSets answer s ∧ w' = { w with statefulSets := s }
  | .clusters call, w, answer, w' =>
    ∃ s, m.call call w.clusters answer s ∧ w' = { w with clusters := s }
  | .patchStatus name patch, w, answer, w' =>
    ∃ s, m.patch name patch w.clusters answer s ∧ w' = { w with clusters := s }
  | .listMaps, w, answer, w' => m.look o.maps answer ∧ w' = w
  | .listPods labels, w, answer, w' => m.look (o.pods labels) answer ∧ w' = w
  | .resolves host, w, answer, w' => answer = o.resolves host ∧ w' = w
  | .memberState member, w, answer, w' => answer = o.memberState member ∧ w' = w
  | .client c, w, answer, w' => (answer, w'.registry) = w.registry.clientFor c ∧
    w' = { w with registry := w'.registry }
  | .manage _ _, w, _, w' => w' = w
  | .release key, w, answer, w' => (answer, w'.registry) = w.registry.release key ∧
    w' = { w with registry := w'.registry }

/-- Answers all calls; commands to live clusters succeed. -/
def serve (o : Outlook) : Script.Handler clusterCalls PassWorld
  | .roles call, w =>
    let (answer, s) := MemoryStore.serve call w.roles
    (answer, { w with roles := s })
  | .bindings call, w =>
    let (answer, s) := MemoryStore.serve call w.bindings
    (answer, { w with bindings := s })
  | .accounts call, w =>
    let (answer, s) := MemoryStore.serve call w.accounts
    (answer, { w with accounts := s })
  | .services call, w =>
    let (answer, s) := MemoryStore.serve call w.services
    (answer, { w with services := s })
  | .configMaps call, w =>
    let (answer, s) := MemoryStore.serve call w.configMaps
    (answer, { w with configMaps := s })
  | .statefulSets call, w =>
    let (answer, s) := MemoryStore.serve call w.statefulSets
    (answer, { w with statefulSets := s })
  | .clusters call, w =>
    let (answer, s) := MemoryStore.serve call w.clusters
    (answer, { w with clusters := s })
  | .patchStatus name patch, w =>
    let (answer, s) := w.clusters.servePatch name patch
    (answer, { w with clusters := s })
  | .listMaps, w => (.ok o.maps, w)
  | .listPods labels, w => (.ok (o.pods labels), w)
  | .resolves host, w => (o.resolves host, w)
  | .memberState member, w => (o.memberState member, w)
  | .client c, w =>
    let (client, registry) := w.registry.clientFor c
    (client, { w with registry })
  | .manage _ .getState, w => (.ok .active, w)
  | .manage _ (.changeState _), w => (.ok (), w)
  | .manage _ .forceStart, w => (.ok (), w)
  | .manage _ .hotBackup, w => (.ok (), w)
  | .release key, w =>
    let (held, registry) := w.registry.release key
    (held, { w with registry })

variable {m : Manner} {o : Outlook} {α : Type} {w w' : PassWorld}

theorem plain_serve (c : ClusterCall) (w : PassWorld) :
    environment .plain o c w (serve o c w).1 (serve o c w).2 := by
  cases c with
  | listMaps => exact ⟨rfl, rfl⟩
  | listPods labels => exact ⟨rfl, rfl⟩
  | resolves host => exact ⟨rfl, rfl⟩
  | memberState member => exact ⟨rfl, rfl⟩
  | client c => exact ⟨rfl, rfl⟩
  | release key => exact ⟨rfl, rfl⟩
  | manage client call => cases call <;> rfl
  | _ => exact ⟨_, rfl, rfl⟩

theorem reliable_serve (c : ClusterCall) (w : PassWorld) :
    environment .reliable o c w (serve o c w).1 (serve o c w).2 := by
  have hplain := plain_serve (o := o) c w
  cases c with
  | patchStatus name patch => exact ⟨_, ⟨rfl, .inl rfl⟩, rfl⟩
  | _ => exact hplain

theorem exec_serve (p : ClusterPass α) (w : PassWorld) :
    Exec (environment .reliable o) p w (p.run.run (serve o) w).1 (p.run.run (serve o) w).2 :=
  Script.exec_of_run reliable_serve p.run w

theorem exists_exec_of_isOk {p : ClusterPass α} (h : (p.run.run (serve o) w).1.isOk) :
    ∃ a w', Exec (environment .reliable o) p w (.ok a) w' := by
  have hexec := exec_serve (o := o) p w
  cases hresult : (p.run.run (serve o) w).1 with
  | error e =>
    rw [hresult] at h
    cases h
  | ok a => exact ⟨a, _, hresult ▸ hexec⟩

/-- A store that answers all calls is one that may fail. -/
theorem unreliable_of_reliable {c : ClusterCall} {a : c.Answer}
    (h : environment .reliable o c w a w') : environment .unreliable o c w a w' := by
  have hstore {K : Type} [Resource K] {call : StoreCall K} {s s' : MemoryStore K}
      {answer : call.Answer} (h : Manner.reliable.call call s answer s') :
      Manner.unreliable.call call s answer s' := .inl (Prod.mk.inj h)
  cases c with
  | patchStatus name patch =>
    obtain ⟨s, h, rfl⟩ := h
    exact ⟨s, .inl h, rfl⟩
  | listMaps => exact ⟨.inl h.1, h.2⟩
  | listPods labels => exact ⟨.inl h.1, h.2⟩
  | resolves host => exact h
  | memberState member => exact h
  | client c => exact h
  | release key => exact h
  | manage client call => exact h
  | _ =>
    obtain ⟨s, h, rfl⟩ := h
    exact ⟨s, hstore h, rfl⟩

theorem exec_of_reliable {p : ClusterPass α} {r : Except Error α}
    (h : Exec (environment .reliable o) p w r w') : Exec (environment .unreliable o) p w r w' :=
  (h.mono (P := fun _ => True) (fun _ _ _ _ _ h => ⟨unreliable_of_reliable h, trivial⟩) trivial).1

/-- A cluster of one member, as it is stored at first. -/
def single : Cluster where
  metadata := { name := some "hz", space := some "default", resourceVersion := some "1" }
  spec := { clusterSize := 1 }

def singleStored : PassWorld where
  clusters := { objects := [("hz", single)], version := 1 }

/-! ## Work on one of the stores -/

/-- A kind of objects of the world. -/
class Stocked (K : Type) [Resource K] [ClusterPass.Reachable K] where
  stock : PassWorld → MemoryStore K
  restock : PassWorld → MemoryStore K → PassWorld
  stock_restock (w : PassWorld) (s : MemoryStore K) : stock (restock w s) = s
  restock_restock (w : PassWorld) (s t : MemoryStore K) : restock (restock w s) t = restock w t
  restock_stock (w : PassWorld) : restock w (stock w) = w
  environment_route (m : Manner) (o : Outlook) (c : StoreCall K) (w : PassWorld)
    (answer : clusterCalls.Answer (ClusterPass.Reachable.route.call c)) (w' : PassWorld) :
    environment m o (ClusterPass.Reachable.route.call c) w answer w' ↔
      ∃ s, m.call c (stock w) (ClusterPass.Reachable.route.answer c answer) s ∧ w' = restock w s
  exists_answer (c : StoreCall K) (answer : c.Answer) :
    ∃ routed, ClusterPass.Reachable.route.answer c routed = answer

instance : Stocked ClusterRole where
  stock := roles
  restock w s := { w with roles := s }
  stock_restock _ _ := rfl
  restock_restock _ _ _ := rfl
  restock_stock _ := rfl
  environment_route _ _ _ _ _ _ := Iff.rfl
  exists_answer _ answer := ⟨answer, rfl⟩

instance : Stocked ClusterRoleBinding where
  stock := bindings
  restock w s := { w with bindings := s }
  stock_restock _ _ := rfl
  restock_restock _ _ _ := rfl
  restock_stock _ := rfl
  environment_route _ _ _ _ _ _ := Iff.rfl
  exists_answer _ answer := ⟨answer, rfl⟩

instance : Stocked ServiceAccount where
  stock := accounts
  restock w s := { w with accounts := s }
  stock_restock _ _ := rfl
  restock_restock _ _ _ := rfl
  restock_stock _ := rfl
  environment_route _ _ _ _ _ _ := Iff.rfl
  exists_answer _ answer := ⟨answer, rfl⟩

instance : Stocked Service where
  stock := services
  restock w s := { w with services := s }
  stock_restock _ _ := rfl
  restock_restock _ _ _ := rfl
  restock_stock _ := rfl
  environment_route _ _ _ _ _ _ := Iff.rfl
  exists_answer _ answer := ⟨answer, rfl⟩

instance : Stocked ConfigMap where
  stock := configMaps
  restock w s := { w with configMaps := s }
  stock_restock _ _ := rfl
  restock_restock _ _ _ := rfl
  restock_stock _ := rfl
  environment_route _ _ _ _ _ _ := Iff.rfl
  exists_answer _ answer := ⟨answer, rfl⟩

instance : Stocked StatefulSet where
  stock := statefulSets
  restock w s := { w with statefulSets := s }
  stock_restock _ _ := rfl
  restock_restock _ _ _ := rfl
  restock_stock _ := rfl
  environment_route _ _ _ _ _ _ := Iff.rfl
  exists_answer _ answer := ⟨answer, rfl⟩

instance : Stocked Cluster where
  stock := clusters
  restock w s := { w with clusters := s }
  stock_restock _ _ := rfl
  restock_restock _ _ _ := rfl
  restock_stock _ := rfl
  environment_route _ _ _ _ _ _ := Iff.rfl
  exists_answer _ answer := ⟨answer, rfl⟩

open ClusterPass (Reachable within)
open Stocked

variable {K : Type} [Resource K] [Reachable K] [Stocked K]

def Stocked.part (K : Type) [Resource K] [Reachable K] [Stocked K] (m : Manner) (o : Outlook) :
    Script.Part (environment m o) (Reachable.route (K := K)) m.call where
  get := stock
  put := restock
  get_put := stock_restock
  put_put := restock_restock
  put_get := restock_stock
  env_iff := environment_route m o
  exists_answer := Stocked.exists_answer

theorem exec_within {p : Pass (store K) α} {r : Except Error α} :
    Exec (environment m o) (within p) w r w' ↔
      ∃ s, Exec m.call p (stock w) r s ∧ w' = restock w s :=
  exec_part (Stocked.part K m o)

end PassWorld

end GridOperator
