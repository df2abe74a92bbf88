import GridOperator.Proofs.Script.Execution
import GridOperator.Reconcile.Cluster

/-!
# The stages of a pass over a cluster

A pass over a live cluster prepares, brings the services in line, brings the
stateful set in line once all services are reachable, and settles what is left.
`reconcile_eq` puts the stages together. `PlaceCourse` and `PassCourse` have a case for
each way through, in any environment.
-/

namespace GridOperator.Cluster

open Kubernetes ClusterPass Pass
open Script (Environment)

/-- What a pass does before it comes to the services. -/
def prepare (c : Cluster) (settings : Settings) : ClusterPass Unit := do
  let _ ← within (Store.addFinalizer c)
  c.refuseInvalid
  c.applyRbac settings.platform

/-- Brings the stateful set in line if all services can be reached. Tells whether it did. -/
def place (c : Cluster) (settings : Settings) (perPod : List (Option Service)) :
    ClusterPass Bool := do
  if !(← c.perPodReady resolves perPod) then
    patchStatus (Resource.anyName c) (phasePatch .pending (some waitingMessage))
    return false
  c.applyConfigMap
  c.applyStatefulSet settings
  return true

/-- What a pass does after the stateful set is in line. -/
def settle (c : Cluster) (perPod : List (Option Service)) : ClusterPass Next := do
  let status ← c.observe perPod
  patchStatus (Resource.anyName c) status.toJson
  let observed := { c with status := some status }
  let client ← client observed
  let _ ← command client observed.checkForceStart
  let _ ← command client observed.ensureActive
  if status.phase = .running then
    let _ ← within <| Store.annotate (K := Cluster) (Resource.anyName c) Names.lastSpecAnnotation
      c.specText
    return .after 60
  else return .after 10

theorem reconcile_of_isDeleted {c : Cluster} (h : c.metadata.isDeleted) (settings : Settings) :
    c.reconcile settings = c.finalize := by
  unfold reconcile
  exact if_pos h

theorem reconcile_eq {c : Cluster} (hlive : c.metadata.isDeleted = false) (settings : Settings) :
    c.reconcile settings = (do
      c.prepare settings
      let perPod ← c.applyServices
      if ← c.place settings perPod then c.settle perPod else return .after 10) := by
  have hconverge : ∀ perPod, c.converge settings perPod = (do
      c.applyConfigMap
      c.applyStatefulSet settings
      c.settle perPod) := fun _ => rfl
  unfold reconcile prepare place
  simp only [hlive, hconverge, Bool.false_eq_true, if_false, bind_assoc]
  refine bind_congr fun _ => bind_congr fun _ => bind_congr fun _ => bind_congr fun perPod =>
    bind_congr fun ready => ?_
  cases ready <;> simp

/-! ## Courses -/

variable {σ : Type}

/-- What may come of the stage that comes to the stateful set. -/
inductive PlaceCourse (env : Environment clusterCalls σ) (c : Cluster) (settings : Settings)
    (perPod : List (Option Service)) (w : σ) : Except Error Bool → σ → Prop where
  | unseen {e : Error} {w' : σ}
      (hready : Exec env (c.perPodReady resolves perPod) w (.error e) w') :
      PlaceCourse env c settings perPod w (.error e) w'
  | waiting {v w' : σ} {patched : Except Error Unit}
      (hready : Exec env (c.perPodReady resolves perPod) w (.ok false) v)
      (hpatch : Exec env (patchStatus (Resource.anyName c)
        (phasePatch .pending (some waitingMessage))) v patched w') :
      PlaceCourse env c settings perPod w (patched.map fun _ => false) w'
  | unconfigured {e : Error} {v w' : σ}
      (hready : Exec env (c.perPodReady resolves perPod) w (.ok true) v)
      (hconfig : Exec env c.applyConfigMap v (.error e) w') :
      PlaceCourse env c settings perPod w (.error e) w'
  | placed {v u w' : σ} {applied : Except Error Unit}
      (hready : Exec env (c.perPodReady resolves perPod) w (.ok true) v)
      (hconfig : Exec env c.applyConfigMap v (.ok ()) u)
      (hset : Exec env (c.applyStatefulSet settings) u applied w') :
      PlaceCourse env c settings perPod w (applied.map fun _ => true) w'

/-- What may come of a pass. -/
inductive PassCourse (env : Environment clusterCalls σ) (c : Cluster) (settings : Settings)
    (w : σ) : Except Error Next → σ → Prop where
  | finalized {r : Except Error Next} {w' : σ} (hdeleted : c.metadata.isDeleted)
      (hfinalize : Exec env c.finalize w r w') : PassCourse env c settings w r w'
  | unprepared {e : Error} {w' : σ} (hlive : c.metadata.isDeleted = false)
      (hprepare : Exec env (c.prepare settings) w (.error e) w') :
      PassCourse env c settings w (.error e) w'
  | unserved {e : Error} {u w' : σ} (hlive : c.metadata.isDeleted = false)
      (hprepare : Exec env (c.prepare settings) w (.ok ()) u)
      (hservices : Exec env c.applyServices u (.error e) w') :
      PassCourse env c settings w (.error e) w'
  | unplaced {e : Error} {perPod : List (Option Service)} {u v w' : σ}
      (hlive : c.metadata.isDeleted = false)
      (hprepare : Exec env (c.prepare settings) w (.ok ()) u)
      (hservices : Exec env c.applyServices u (.ok perPod) v)
      (hplace : Exec env (c.place settings perPod) v (.error e) w') :
      PassCourse env c settings w (.error e) w'
  | waiting {perPod : List (Option Service)} {u v w' : σ} (hlive : c.metadata.isDeleted = false)
      (hprepare : Exec env (c.prepare settings) w (.ok ()) u)
      (hservices : Exec env c.applyServices u (.ok perPod) v)
      (hplace : Exec env (c.place settings perPod) v (.ok false) w') :
      PassCourse env c settings w (.ok (.after 10)) w'
  | settled {perPod : List (Option Service)} {u v x w' : σ} {r : Except Error Next}
      (hlive : c.metadata.isDeleted = false)
      (hprepare : Exec env (c.prepare settings) w (.ok ()) u)
      (hservices : Exec env c.applyServices u (.ok perPod) v)
      (hplace : Exec env (c.place settings perPod) v (.ok true) x)
      (hsettle : Exec env (c.settle perPod) x r w') : PassCourse env c settings w r w'

variable {env : Environment clusterCalls σ} {c : Cluster} {settings : Settings} {w w' : σ}

theorem placeCourse_of_exec {perPod : List (Option Service)} {r : Except Error Bool}
    (h : Exec env (c.place settings perPod) w r w') : PlaceCourse env c settings perPod w r w' := by
  rcases exec_bind_cases h with ⟨e, rfl, hready⟩ | ⟨ready, v, hready, h⟩
  · exact .unseen hready
  cases ready with
  | false =>
    obtain ⟨patched, hpatch, rfl⟩ := exec_bind_pure.1 h
    exact .waiting hready hpatch
  | true =>
    rcases exec_bind_cases h with ⟨e, rfl, hconfig⟩ | ⟨_, u, hconfig, h⟩
    · exact .unconfigured hready hconfig
    · obtain ⟨applied, hset, rfl⟩ := exec_bind_pure.1 h
      exact .placed hready hconfig hset

theorem passCourse_of_exec {r : Except Error Next} (h : Exec env (c.reconcile settings) w r w') :
    PassCourse env c settings w r w' := by
  cases hlive : c.metadata.isDeleted with
  | true =>
    rw [reconcile_of_isDeleted hlive] at h
    exact .finalized hlive h
  | false =>
    rw [reconcile_eq hlive] at h
    rcases exec_bind_cases h with ⟨e, rfl, hprepare⟩ | ⟨_, u, hprepare, h⟩
    · exact .unprepared hlive hprepare
    rcases exec_bind_cases h with ⟨e, rfl, hservices⟩ | ⟨perPod, v, hservices, h⟩
    · exact .unserved hlive hprepare hservices
    rcases exec_bind_cases h with ⟨e, rfl, hplace⟩ | ⟨placed, x, hplace, h⟩
    · exact .unplaced hlive hprepare hservices hplace
    cases placed with
    | true => exact .settled hlive hprepare hservices hplace h
    | false =>
      obtain ⟨rfl, rfl⟩ := exec_pure.1 h
      exact .waiting hlive hprepare hservices hplace

end GridOperator.Cluster
