import GridOperator.Proofs.Reconcile.Stores
import GridOperator.Proofs.Reconcile.Strictness

/-!
# The services and stateful sets that a pass works on

Both stores may fail in a `ClusterWorld`, and all other calls may be answered in
any way. Most of what a pass does is `Still`: its calls leave both stores alone.
-/

namespace GridOperator

open Kubernetes Pass
open Script (Environment)

/-- The services and stateful sets of a namespace. -/
structure ClusterWorld where
  services : MemoryStore Service := {}
  statefulSets : MemoryStore StatefulSet := {}

namespace ClusterWorld

/-- A world where the stores may fail and whatever is not stored in them may be in any state. -/
def unreliable : Environment clusterCalls ClusterWorld
  | .services call, w, answer, w' =>
    ∃ s, w.services.Answers call answer s ∧ w' = { w with services := s }
  | .statefulSets call, w, answer, w' =>
    ∃ s, w.statefulSets.Answers call answer s ∧ w' = { w with statefulSets := s }
  | _, w, _, w' => w' = w

/-- The answer of a store that takes whatever it is given and has nothing. -/
def nothingStored {K : Type} : (call : StoreCall K) → call.Answer
  | .get _ => .ok none
  | .create object | .update object => .ok object
  | .delete _ => .ok false

/-- Answers calls of a pass in a namespace where nothing else is there and nothing fails. -/
def serve : Script.Handler clusterCalls ClusterWorld
  | .services call, w =>
    let (answer, s) := MemoryStore.serve call w.services
    (answer, { w with services := s })
  | .statefulSets call, w =>
    let (answer, s) := MemoryStore.serve call w.statefulSets
    (answer, { w with statefulSets := s })
  | .roles call, w => (nothingStored call, w)
  | .bindings call, w => (nothingStored call, w)
  | .accounts call, w => (nothingStored call, w)
  | .configMaps call, w => (nothingStored call, w)
  | .clusters call, w => (nothingStored call, w)
  | .patchStatus _ _, w => (.ok (), w)
  | .listMaps, w => (.ok [], w)
  | .listPods _, w => (.ok [], w)
  | .resolves _, w => (true, w)
  | .memberState _, w => (.ok .active, w)
  | .client c, w => (⟨0, Endpoint.ofCluster c⟩, w)
  | .manage _ .getState, w => (.ok .active, w)
  | .manage _ (.changeState _), w => (.ok (), w)
  | .manage _ .forceStart, w => (.ok (), w)
  | .manage _ .hotBackup, w => (.ok (), w)
  | .release _, w => (false, w)

theorem unreliable_serve (c : ClusterCall) (w : ClusterWorld) :
    unreliable c w (serve c w).1 (serve c w).2 := by
  cases c with
  | services call => exact ⟨_, .inl ⟨rfl, rfl⟩, rfl⟩
  | statefulSets call => exact ⟨_, .inl ⟨rfl, rfl⟩, rfl⟩
  | manage client call => cases call <;> rfl
  | _ => rfl

variable {α β : Type} {w w' : ClusterWorld}

theorem exec_serve (p : ClusterPass α) (w : ClusterWorld) :
    Exec unreliable p w (p.run.run serve w).1 (p.run.run serve w).2 :=
  Script.exec_of_run unreliable_serve p.run w

theorem exec_serve_ok {p : ClusterPass α} {a : α} (h : (p.run.run serve w).1 = .ok a) :
    Exec unreliable p w (.ok a) (p.run.run serve w).2 :=
  h ▸ exec_serve p w

def servicesPart : Script.Part unreliable (ClusterPass.Reachable.route (K := Service))
    MemoryStore.unreliable where
  get := services
  put w s := { w with services := s }

def statefulSetsPart : Script.Part unreliable (ClusterPass.Reachable.route (K := StatefulSet))
    MemoryStore.unreliable where
  get := statefulSets
  put w s := { w with statefulSets := s }

theorem exec_services {p : Pass (store Service) α} {r : Except Error α} :
    Exec unreliable (ClusterPass.within p) w r w' ↔
      ∃ s, Exec MemoryStore.unreliable p w.services r s ∧ w' = { w with services := s } :=
  exec_part servicesPart

def stores : Stores unreliable where
  services := servicesPart
  statefulSets := statefulSetsPart

end ClusterWorld

/-! ## Work that leaves both stores alone -/

/-- Whether a call does not write services or stateful sets. -/
def ClusterCall.LeavesStores : ClusterCall → Prop
  | .services (.get _) | .statefulSets (.get _) => True
  | .services _ | .statefulSets _ => False
  | _ => True

namespace ClusterWorld

variable {α : Type} {w w' : ClusterWorld}

theorem eq_of_leavesStores {call : ClusterCall} (hcall : call.LeavesStores) {answer : call.Answer}
    (h : unreliable call w answer w') : w' = w := by
  cases call with
  | services call =>
    cases call with
    | get name =>
      obtain ⟨s, hs, rfl⟩ := h
      rw [hs.get.1]
    | _ => cases hcall
  | statefulSets call =>
    cases call with
    | get name =>
      obtain ⟨s, hs, rfl⟩ := h
      rw [hs.get.1]
    | _ => cases hcall
  | _ => exact h

/-- Whether services and stateful sets stay as they are whatever comes of a pass. -/
def Still (p : ClusterPass α) : Prop := Keeps unreliable id p

theorem still_of_strict {p : ClusterPass α}
    (h : Strict (I := clusterCalls) ClusterCall.LeavesStores p) : Still p :=
  h.keeps id fun _ _ _ _ hcall hc => eq_of_leavesStores hcall hc

variable (c : Cluster)

theorem still_patchStatus (name : String) (patch : Json) :
    Still (ClusterPass.patchStatus name patch) :=
  still_of_strict (ClusterPass.strict_patchStatus trivial)

theorem still_prepare (settings : Settings) : Still (c.prepare settings) :=
  still_of_strict <| Cluster.strict_prepare (fun _ => trivial) (fun _ _ => trivial)
    (fun _ => trivial) (fun _ => trivial) (fun _ => trivial) c

theorem still_perPodReady (perPod : List (Option Service)) :
    Still (c.perPodReady ClusterPass.resolves perPod) :=
  still_of_strict (Cluster.strict_perPodReady (fun _ => trivial) c perPod)

theorem still_applyConfigMap : Still c.applyConfigMap :=
  still_of_strict (Cluster.strict_applyConfigMap trivial (fun _ => trivial) c)

theorem still_settle (perPod : List (Option Service)) : Still (c.settle perPod) :=
  still_of_strict <| Cluster.strict_settle (fun _ => trivial) (fun _ => trivial) (fun _ => trivial)
    (fun _ _ => trivial) (fun _ => trivial) (fun _ _ => trivial) (fun _ => trivial) c perPod

/-- Calls that have nothing to do with both stores. -/
theorem still_embed {I : Interface} {e : Script.Embedding I clusterCalls}
    (he : ∀ call, (e.call call).LeavesStores) (p : Pass I α) : Still (p.embed e) := by
  intro w r w' h
  refine (exec_embed.1 h).preserves (P := fun v => id v = id w) ?_ rfl
  rintro call v a v' ⟨answer, hc, -⟩ hv
  exact (eq_of_leavesStores (he call) hc).trans hv

theorem still_finalize : Still c.finalize := by
  unfold Cluster.finalize
  split
  · exact keeps_pure _
  · have hteardown : Still (c.teardown.embed ClusterPass.teardownRoute) :=
      still_embed (fun call => by cases call <;> trivial) _
    have hremove : Still (ClusterPass.within (Store.removeFinalizer c)) :=
      still_embed (e := ClusterPass.Reachable.route (K := Cluster)) (fun _ => trivial) _
    exact keeps_bind (still_patchStatus _ _) fun _ => keeps_bind hteardown fun _ =>
      keeps_bind hremove fun _ => keeps_pure _

end ClusterWorld

end GridOperator
