import GridOperator.Proofs.Store.Outcomes
import GridOperator.Proofs.Text.Joined
import GridOperator.Reconcile.Cluster

/-!
# The rights of several clusters

Roles and bindings of all clusters stand side by side, named after the name and
the namespace of their cluster. What is done for one cluster touches nothing that
has another name, but two clusters may come to the same name: `rights_kept_iff`
says which ones do.
-/

namespace GridOperator

open Kubernetes Pass
open Script (Environment)

namespace Cluster

/-- The namespace, empty where there is none. -/
def space (c : Cluster) : String := c.metadata.space.getD ""

/-- Whether what one of the clusters has at the end of its name and after a dash stands at the
beginning of the other one's namespace and before a dash, and all else is the same. -/
def SharesScopedName (c d : Cluster) : Prop :=
  (∃ m, c.name = d.name ++ "-" ++ m ∧ d.space = m ++ "-" ++ c.space) ∨
    ∃ m, d.name = c.name ++ "-" ++ m ∧ c.space = m ++ "-" ++ d.space

theorem scopedName_eq_iff {c d : Cluster} : c.scopedName = d.scopedName ↔
    (c.name = d.name ∧ c.space = d.space) ∨ c.SharesScopedName d :=
  Text.append_dash_eq_iff

/-- Cleaning up as a part of a pass over the cluster. -/
def cleanUp (c : Cluster) : ClusterPass Unit := c.teardown.embed ClusterPass.teardownRoute

theorem cleanUp_eq (c : Cluster) : c.cleanUp = (do
    let _ ← ClusterPass.within (Store.delete (K := ClusterRoleBinding) c.scopedName)
    let _ ← ClusterPass.within (Store.delete (K := ClusterRole) c.scopedName)
    let _ ← ExceptT.lift (Script.call (I := clusterCalls) (.release (Resource.key c)))) := by
  refine congrArg (Script.ask _) (funext fun binding => ?_)
  cases binding with
  | error => rfl
  | ok =>
    refine congrArg (Script.ask _) (funext fun role => ?_)
    cases role <;> rfl

end Cluster

/-- The roles and bindings of all clusters. -/
structure RightsWorld where
  roles : MemoryStore ClusterRole := {}
  bindings : MemoryStore ClusterRoleBinding := {}

namespace RightsWorld

/-- A world where both stores may fail and whatever is not stored in them may be in any state. -/
def unreliable : Environment clusterCalls RightsWorld
  | .roles call, w, answer, w' =>
    ∃ s, w.roles.Answers call answer s ∧ w' = { w with roles := s }
  | .bindings call, w, answer, w' =>
    ∃ s, w.bindings.Answers call answer s ∧ w' = { w with bindings := s }
  | _, w, _, w' => w' = w

/-- What stands under a name. -/
def under (name : String) (w : RightsWorld) : Option ClusterRole × Option ClusterRoleBinding :=
  (w.roles.objects.get? name, w.bindings.objects.get? name)

variable {α : Type} {w w' : RightsWorld} {name : String} {c d : Cluster}

/-! ## Work on one of the stores -/

def rolesPart : Script.Part unreliable (ClusterPass.Reachable.route (K := ClusterRole))
    MemoryStore.unreliable where
  get := roles
  put w s := { w with roles := s }

def bindingsPart : Script.Part unreliable (ClusterPass.Reachable.route (K := ClusterRoleBinding))
    MemoryStore.unreliable where
  get := bindings
  put w s := { w with bindings := s }

theorem exec_roles {p : Pass (store ClusterRole) α} {r : Except Error α} :
    Exec unreliable (ClusterPass.within p) w r w' ↔
      ∃ s, Exec MemoryStore.unreliable p w.roles r s ∧ w' = { w with roles := s } :=
  exec_part rolesPart

theorem exec_bindings {p : Pass (store ClusterRoleBinding) α} {r : Except Error α} :
    Exec unreliable (ClusterPass.within p) w r w' ↔
      ∃ s, Exec MemoryStore.unreliable p w.bindings r s ∧ w' = { w with bindings := s } :=
  exec_part bindingsPart

/-! ## What has another name -/

theorem keeps_roles {p : Pass (store ClusterRole) α}
    (hp : Keeps MemoryStore.unreliable (fun s => s.objects.get? name) p) :
    Keeps unreliable (under name) (ClusterPass.within p) := by
  intro w r w' h
  obtain ⟨s, hs, rfl⟩ := exec_roles.1 h
  exact Prod.ext (hp hs) rfl

theorem keeps_bindings {p : Pass (store ClusterRoleBinding) α}
    (hp : Keeps MemoryStore.unreliable (fun s => s.objects.get? name) p) :
    Keeps unreliable (under name) (ClusterPass.within p) := by
  intro w r w' h
  obtain ⟨s, hs, rfl⟩ := exec_bindings.1 h
  exact Prod.ext rfl (hp hs)

theorem keeps_accounts (p : Pass (store ServiceAccount) α) :
    Keeps unreliable (under name) (ClusterPass.within p) := by
  intro w r w' h
  refine (exec_embed.1 h).preserves (P := fun v => under name v = under name w) ?_ rfl
  rintro _ v _ v' ⟨_, rfl, -⟩ hv
  exact hv

theorem keeps_applyRbac (hn : name ≠ c.scopedName) (platform : Platform) :
    Keeps unreliable (under name) (c.applyRbac platform) :=
  keeps_bind (keeps_roles (Store.keeps_apply hn)) fun _ =>
    keeps_bind (keeps_accounts _) fun _ =>
      keeps_bind (keeps_bindings (Store.keeps_apply hn)) fun _ => keeps_pure ()

theorem keeps_cleanUp (hn : name ≠ c.scopedName) : Keeps unreliable (under name) c.cleanUp := by
  rw [Cluster.cleanUp_eq]
  refine keeps_bind (keeps_bindings (Store.keeps_delete hn)) fun _ =>
    keeps_bind (keeps_roles (Store.keeps_delete hn)) fun _ => keeps_bind (keeps_lift ?_) fun _ =>
      keeps_pure ()
  rintro w _ w' rfl
  rfl

/-! ## What has the same name -/

/-- Nothing is left of what stood under the name. -/
theorem exists_exec_cleanUp (c : Cluster) (w : RightsWorld) : ∃ w',
    Exec unreliable c.cleanUp w (.ok ()) w' ∧ under c.scopedName w' = (none, none) := by
  have hbinding := exec_bindings.2 ⟨_, Store.exec_delete_self w.bindings c.scopedName, rfl⟩
  have hrole (v : RightsWorld) :=
    exec_roles.2 ⟨_, Store.exec_delete_self v.roles c.scopedName, rfl⟩
  rw [Cluster.cleanUp_eq]
  refine ⟨_, exec_bind.2 ⟨_, _, hbinding, exec_bind.2 ⟨_, _, hrole _, exec_bind.2 ⟨_, _,
    exec_lift.2 ⟨false, rfl, Script.exec_call.2 rfl⟩, exec_pure.2 ⟨rfl, rfl⟩⟩⟩⟩, ?_⟩
  exact Prod.ext (Table.get?_erase_self _ _) (Table.get?_erase_self _ _)

/-- A role is made where there is none. -/
theorem exists_exec_applyRbac (c : Cluster) (platform : Platform) : ∃ r w',
    Exec unreliable (c.applyRbac platform) {} r w' ∧ (under c.scopedName w').1 ≠ none := by
  let role := c.clusterRole platform
  have hmade := Store.exec_apply_of_none
    (fun found => .ok { found with
      rules := role.rules
      metadata := { found.metadata with labels := role.metadata.labels } })
    (show ({} : MemoryStore ClusterRole).objects.get? (Resource.anyName role) = none from rfl)
    rfl rfl
  have hrole := (exec_roles (w := {})).2 ⟨_, hmade, rfl⟩
  -- the pass may end right after it
  have haccount (w : RightsWorld) : Exec unreliable (ClusterPass.within (Store.apply
      c.serviceAccount fun found => .ok { found with
        metadata := { found.metadata with labels := some c.labels } })) w
      (.error (.api none)) w :=
    exec_embed.2 (exec_bind.2 ⟨.error (.api none), w, Script.exec_call.2 ⟨_, rfl, rfl⟩, rfl, rfl⟩)
  refine ⟨_, _, exec_bind.2 ⟨_, _, hrole, exec_bind.2 ⟨_, _, haccount _, rfl, rfl⟩⟩, ?_⟩
  show Table.get? c.scopedName (MemoryStore.put c.scopedName _ _).objects ≠ none
  rw [MemoryStore.get?_put_self]
  exact Option.some_ne_none _

/-! ## Two clusters -/

/-- Two clusters come to the same name exactly if they share it. Whatever becomes of cleaning up
after the one, or of bringing its rights in line, a role and a binding under the other one's name
stay as they are in every state of both stores, unless the clusters share the name. -/
theorem rights_kept_iff (hne : c.name ≠ d.name ∨ c.space ≠ d.space) :
    (c.scopedName = d.scopedName ↔ c.SharesScopedName d) ∧
      (Keeps unreliable (under d.scopedName) c.cleanUp ↔ ¬ c.SharesScopedName d) ∧
      ∀ platform, Keeps unreliable (under d.scopedName) (c.applyRbac platform) ↔
        ¬ c.SharesScopedName d := by
  have hshares : c.scopedName = d.scopedName ↔ c.SharesScopedName d := by
    rw [Cluster.scopedName_eq_iff]
    refine or_iff_right ?_
    rintro ⟨hname, hspace⟩
    exact hne.elim (fun h => h hname) fun h => h hspace
  rw [← hshares]
  refine ⟨Iff.rfl, ⟨fun hkeeps hsame => ?_, fun hn => keeps_cleanUp (Ne.symm hn)⟩,
    fun platform => ⟨fun hkeeps hsame => ?_, fun hn => keeps_applyRbac (Ne.symm hn) platform⟩⟩
  · obtain ⟨w', hexec, hgone⟩ := exists_exec_cleanUp c
      { roles := .ofList [c.clusterRole .kubernetes] }
    have hkept := hkeeps hexec
    rw [← hsame, hgone] at hkept
    cases (MemoryStore.get?_put_self c.scopedName (c.clusterRole .kubernetes) {}).symm.trans
      (congrArg Prod.fst hkept.symm)
  · obtain ⟨r, w', hexec, hmade⟩ := exists_exec_applyRbac c platform
    have hkept := hkeeps hexec
    rw [← hsame] at hkept
    rw [hkept] at hmade
    exact hmade rfl

def named (name space : String) : Cluster where
  metadata := { name := some name, space := some space }
  spec := {}

/-- Dashes may stand in the name or in the namespace. -/
theorem rights_kept_iff_dashes :
    ((named "a-b" "c").name ≠ (named "a" "b-c").name ∨
      (named "a-b" "c").space ≠ (named "a" "b-c").space) ∧
    (named "a-b" "c").scopedName = (named "a" "b-c").scopedName ∧
    ¬ Keeps unreliable (under (named "a" "b-c").scopedName) (named "a-b" "c").cleanUp ∧
    ∀ platform, ¬ Keeps unreliable (under (named "a" "b-c").scopedName)
      ((named "a-b" "c").applyRbac platform) := by
  have hne : (named "a-b" "c").name ≠ (named "a" "b-c").name ∨
      (named "a-b" "c").space ≠ (named "a" "b-c").space := .inl (by decide)
  have hshares : (named "a-b" "c").SharesScopedName (named "a" "b-c") :=
    .inl ⟨"b", by decide, by decide⟩
  obtain ⟨hsame, hcleanUp, hrbac⟩ := rights_kept_iff hne
  exact ⟨hne, hsame.2 hshares, fun hkeeps => hcleanUp.1 hkeeps hshares,
    fun platform hkeeps => (hrbac platform).1 hkeeps hshares⟩

end RightsWorld

end GridOperator
