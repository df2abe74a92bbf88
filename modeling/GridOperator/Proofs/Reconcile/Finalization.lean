import GridOperator.Proofs.Reconcile.PassWorld
import GridOperator.Proofs.Reconcile.Rights
import GridOperator.Proofs.Reconcile.Stages
import GridOperator.Proofs.Reconcile.Teardown

/-!
# Passes over a cluster that is on its way out

Such a pass says in the status that the cluster is terminating, cleans up, and takes
the finalizer off the cluster as it was at first. `reconcile_isDeleted` says when the
last step is refused, because the first one has given the cluster a new version.
-/

namespace GridOperator

open Kubernetes Pass
open ClusterPass (within)

namespace Cluster

variable {c : Cluster}

theorem finalize_eq (h : c.metadata.hasFinalizer) : c.finalize = (do
    ClusterPass.patchStatus (Resource.anyName c) (phasePatch .terminating none)
    c.cleanUp
    let _ ← within (Store.removeFinalizer c)
    return .onChange) := by
  unfold finalize
  rw [h]
  rfl

/-- Whether the status says that the cluster is terminating. -/
def isTerminating (c : Cluster) : Bool := c.status.any (·.phase = .terminating)

/-- The cluster with a status that says so. -/
def terminating (c : Cluster) : Cluster :=
  { c with status := some { c.status.getD {} with phase := .terminating } }

theorem patched?_terminating (c : Cluster) :
    c.patched? (phasePatch .terminating none) = some c.terminating := by
  rw [patched?_phasePatch]
  obtain ⟨metadata, spec, _ | status⟩ := c <;> rfl

/-- To say it makes no difference exactly if it has been said. -/
theorem terminating_eq_self_iff : c.terminating = c ↔ c.isTerminating := by
  obtain ⟨metadata, spec, _ | ⟨phase, readyMembers, message, members, restore, addresses⟩⟩ := c
  · simp [terminating, isTerminating]
  · simp [terminating, isTerminating, eq_comm]

end Cluster

namespace PassWorld

variable {o : Outlook} {c found : Cluster} {w w' : PassWorld}

/-! ## The steps -/

theorem exec_patchTerminating
    (hstored : w.clusters.objects.get? (Resource.anyName c) = some c) {r : Except Error Unit}
    (h : Exec (environment .plain o) (ClusterPass.patchStatus (Resource.anyName c)
      (Cluster.phasePatch .terminating none)) w r w') :
    r = .ok () ∧ w' = { w with
      clusters := if c.isTerminating then w.clusters
        else w.clusters.put (Resource.anyName c) c.terminating } := by
  obtain ⟨s, hs, rfl⟩ := Script.exec_call.1 h
  unfold Manner.plain MemoryStore.servePatch at hs
  dsimp only at hs
  rw [hstored] at hs
  dsimp only at hs
  rw [c.patched?_terminating] at hs
  simp only [Cluster.terminating_eq_self_iff, Prod.mk.injEq] at hs
  obtain ⟨rfl, rfl⟩ := hs
  exact ⟨rfl, rfl⟩

/-- What there is to clean up. -/
def remainsPart (o : Outlook) :
    Script.Part (environment .plain o) ClusterPass.teardownRoute Remains.reliable where
  get w := { roles := w.roles, bindings := w.bindings, registry := w.registry }
  put w t := { w with roles := t.roles, bindings := t.bindings, registry := t.registry }
  env_iff call w answer w' := by
    cases call with
    | roles call =>
      constructor
      · rintro ⟨s, hs, rfl⟩
        obtain ⟨rfl, rfl⟩ := Prod.mk.inj hs
        exact ⟨_, rfl, rfl⟩
      · rintro ⟨t, ht, rfl⟩
        obtain ⟨rfl, rfl⟩ := Prod.mk.inj ht
        exact ⟨_, rfl, rfl⟩
    | bindings call =>
      constructor
      · rintro ⟨s, hs, rfl⟩
        obtain ⟨rfl, rfl⟩ := Prod.mk.inj hs
        exact ⟨_, rfl, rfl⟩
      · rintro ⟨t, ht, rfl⟩
        obtain ⟨rfl, rfl⟩ := Prod.mk.inj ht
        exact ⟨_, rfl, rfl⟩
    | release key =>
      constructor
      · rintro ⟨hrelease, hw⟩
        obtain ⟨rfl, hregistry⟩ := Prod.mk.inj hrelease
        rw [hregistry] at hw
        exact ⟨_, rfl, hw⟩
      · rintro ⟨t, ht, rfl⟩
        obtain ⟨rfl, rfl⟩ := Prod.mk.inj ht
        exact ⟨rfl, rfl⟩
  exists_answer call answer := by cases call <;> exact ⟨answer, rfl⟩

/-- Cleaning up always gets through, and leaves the clusters alone. -/
theorem exec_cleanUp {r : Except Error Unit} (h : Exec (environment .plain o) c.cleanUp w r w') :
    r = .ok () ∧ w'.clusters = w.clusters ∧ w'.roles.objects.get? c.scopedName = none ∧
      w'.bindings.objects.get? c.scopedName = none ∧
      w'.registry.clients.get? (Resource.key c) = none := by
  obtain ⟨t, hteardown, rfl⟩ := (exec_part (remainsPart o)).1 h
  obtain ⟨rfl, hclear⟩ := Remains.exec_teardown hteardown
  exact ⟨rfl, rfl, hclear.role, hclear.binding, hclear.client⟩

/-- The finalizer comes off a cluster that has not got a new version in between. -/
theorem exec_removeFinalizer {s s' : MemoryStore Cluster} (hfinalizer : c.metadata.hasFinalizer)
    (hfound : s.objects.get? (Resource.anyName c) = some found) {r : Except Error Bool}
    (h : Exec Manner.plain.call (Store.removeFinalizer c) s r s') :
    if MemoryStore.isCurrent c found then
      r = .ok true ∧
        s' = s.put (Resource.anyName c) { c with metadata := c.metadata.removeFinalizer }
    else r = .error (.conflict (Resource.kind Cluster) (Resource.anyName c)) ∧ s' = s := by
  let changed : Cluster := Resource.mapMetadata (·.removeFinalizer) c
  have hskip : (!(Resource.metadata c).hasFinalizer) = false := by
    rw [show (Resource.metadata c).hasFinalizer = true from hfinalizer]
    rfl
  unfold Store.removeFinalizer at h
  rw [hskip] at h
  obtain ⟨a, v, hupdate, hrest⟩ := exec_bind.1 h
  obtain ⟨rfl, rfl⟩ := Store.exec_call_reliable hupdate
  split
  · rename_i hcurrent
    rw [show MemoryStore.serve (.update changed) s = _ from
      MemoryStore.serve_update_of_current hfound hcurrent] at hrest
    exact exec_pure.1 hrest
  · rename_i hstale
    rw [show MemoryStore.serve (.update changed) s = _ from
      MemoryStore.serve_update_of_stale hfound (eq_false_of_ne_true hstale)] at hrest
    exact hrest

/-! ## The pass -/

/-- A pass over a stored cluster that is on its way out, where all calls are answered and nobody
else writes. Role, binding and client are gone in any case. If the status has said before that the
cluster is terminating, the pass succeeds and the finalizer is gone too. Otherwise the pass is
refused, for the version that its own patch has made, and the finalizer is still there. -/
theorem reconcile_isDeleted (settings : Settings) (hdeleted : c.metadata.isDeleted)
    (hfinalizer : c.metadata.hasFinalizer)
    (hstored : w.clusters.objects.get? (Resource.anyName c) = some c)
    (hversion : ∃ v ≤ w.clusters.version, Resource.version? c = some (toString v)) :
    ∃ r w' d, (c.reconcile settings).run.run (serve o) w = (r, w') ∧
      w'.clusters.objects.get? (Resource.anyName c) = some d ∧
      (w'.roles.objects.get? c.scopedName = none ∧ w'.bindings.objects.get? c.scopedName = none ∧
        w'.registry.clients.get? (Resource.key c) = none) ∧
      if c.isTerminating then r = .ok .onChange ∧ d.metadata.hasFinalizer = false
      else r = .error (.conflict (Resource.kind Cluster) (Resource.anyName c)) ∧
        d.metadata.hasFinalizer := by
  have h := Script.exec_of_run (plain_serve (o := o)) (c.reconcile settings).run w
  generalize (c.reconcile settings).run.run (serve o) w = result at h ⊢
  obtain ⟨r, w'⟩ := result
  replace h : Exec (environment .plain o) (c.reconcile settings) w r w' := h
  rw [Cluster.reconcile_of_isDeleted hdeleted, Cluster.finalize_eq hfinalizer] at h
  obtain ⟨a, v, hpatch, h₁⟩ := exec_bind.1 h
  obtain ⟨rfl, rfl⟩ := exec_patchTerminating hstored hpatch
  obtain ⟨a, v, hcleanUp, h₂⟩ := exec_bind.1 h₁
  obtain ⟨rfl, hclusters, hgone⟩ := exec_cleanUp hcleanUp
  obtain ⟨a, u, hremove, h₃⟩ := exec_bind.1 h₂
  obtain ⟨s, hexec, rfl⟩ := exec_within.1 hremove
  replace hexec : Exec Manner.plain.call (Store.removeFinalizer c) v.clusters a s := hexec
  rw [hclusters] at hexec
  dsimp only at hexec
  cases hterminating : c.isTerminating with
  | true =>
    rw [hterminating] at hexec
    have hcurrent : MemoryStore.isCurrent c c := by
      obtain ⟨v, -, hv⟩ := hversion
      exact MemoryStore.isCurrent_iff.2 ⟨rfl, by rw [hv]; rfl⟩
    have hend := exec_removeFinalizer hfinalizer hstored hexec
    rw [if_pos hcurrent] at hend
    obtain ⟨rfl, rfl⟩ := hend
    obtain ⟨rfl, rfl⟩ := exec_pure.1 h₃
    exact ⟨_, _, _, rfl, MemoryStore.get?_put_self _ _ _, hgone, rfl,
      c.metadata.hasFinalizer_removeFinalizer⟩
  | false =>
    rw [hterminating] at hexec
    have hfound := MemoryStore.get?_put_self (Resource.anyName c) c.terminating w.clusters
    -- the patch has made a version above all earlier ones
    have hstale : ¬ MemoryStore.isCurrent c
        (Resource.withVersion c.terminating (w.clusters.version + 1)) := fun hcurrent =>
      Resource.version?_ne_withVersion hversion _ (MemoryStore.isCurrent_iff.1 hcurrent).1
    have hend := exec_removeFinalizer hfinalizer hfound hexec
    rw [if_neg hstale] at hend
    obtain ⟨rfl, rfl⟩ := hend
    obtain ⟨rfl, rfl⟩ := h₃
    exact ⟨_, _, _, rfl, hfound, hgone, rfl, hfinalizer⟩

/-- A cluster that is deleted while it is pending. -/
def doomed : Cluster :=
  { single with metadata := { single.metadata with
      deletionTimestamp := some "2026-01-01T00:00:00Z"
      finalizers := some [Names.finalizer] } }

def doomedStored : PassWorld where
  clusters := { objects := [("hz", doomed)], version := 1 }

/-- Nothing has been said in the status when it is deleted. -/
theorem reconcile_isDeleted_doomed : ∃ r w' d,
    (doomed.reconcile {}).run.run (serve {}) doomedStored = (r, w') ∧
    w'.clusters.objects.get? "hz" = some d ∧
    r = .error (.conflict "Hazelcast" "hz") ∧ d.metadata.hasFinalizer := by
  have hstored : doomedStored.clusters.objects.get? (Resource.anyName doomed) = some doomed := by
    rfl
  have hversion : Resource.version? doomed = some (toString 1) := by rfl
  obtain ⟨r, w', d, hrun, hd, -, hrefused⟩ := reconcile_isDeleted (o := {}) (c := doomed)
    (w := doomedStored) {} rfl rfl hstored ⟨1, Nat.le_refl 1, hversion⟩
  exact ⟨r, w', d, hrun, hd, hrefused⟩

end PassWorld

end GridOperator
