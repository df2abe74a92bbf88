import GridOperator.Proofs.Reconcile.Stages
import GridOperator.Proofs.Script.Partway

/-!
# The calls of each step

Every step of a pass over a live cluster makes calls of a few kinds, and a pass ends
with the first call that fails (`Cluster.strict_reconcile`). Two answers are bad news
but no failures: a member that cannot be asked is one without a mode, and a mode that
is not known is not the passive one.
-/

namespace GridOperator

open Kubernetes Pass
open Script (Failing)
open ClusterPass (within Reachable)

/-! ## Failures -/

def failureOf {α : Type} : Except Error α → Option Error
  | .error e => some e
  | .ok _ => none

theorem eq_error_of_failureOf {α : Type} {r : Except Error α} {e : Error}
    (h : failureOf r = some e) : r = .error e := by
  cases r with
  | error e' => exact congrArg _ (Option.some.inj h)
  | ok a => cases h

def StoreCall.failure? {K : Type} : (c : StoreCall K) → c.Answer → Option Error
  | get _, answer => failureOf answer
  | create _, answer => failureOf answer
  | update _, answer => failureOf answer
  | delete _, answer => failureOf answer

def ManageCall.failure? : (c : ManageCall) → c.Answer → Option Error
  | getState, .error (.unexpectedState _) => none
  | getState, answer => failureOf answer
  | changeState _, answer => failureOf answer
  | forceStart, answer => failureOf answer
  | hotBackup, answer => failureOf answer

def ClusterCall.failure? : (c : ClusterCall) → c.Answer → Option Error
  | roles call, answer => call.failure? answer
  | bindings call, answer => call.failure? answer
  | accounts call, answer => call.failure? answer
  | services call, answer => call.failure? answer
  | configMaps call, answer => call.failure? answer
  | statefulSets call, answer => call.failure? answer
  | clusters call, answer => call.failure? answer
  | patchStatus _ _, answer => failureOf answer
  | listMaps, answer => failureOf answer
  | listPods _, answer => failureOf answer
  | manage _ call, answer => call.failure? answer
  | resolves _, _ | memberState _, _ | client _, _ | release _, _ => none

instance {K : Type} : Failing (store K) := ⟨StoreCall.failure?⟩
instance : Failing management := ⟨ManageCall.failure?⟩
instance : Failing clusterCalls := ⟨ClusterCall.failure?⟩

/-! ## Work on a store -/

namespace Store

variable {K : Type} {P : StoreCall K → Prop} {name : String} {object : K}

theorem strict_get (h : P (.get name)) : Strict (I := store K) P (get name) :=
  strict_ask h fun _ _ => eq_error_of_failureOf

theorem strict_create (h : P (.create object)) : Strict (I := store K) P (create object) :=
  strict_ask h fun _ _ => eq_error_of_failureOf

theorem strict_update (h : P (.update object)) : Strict (I := store K) P (update object) :=
  strict_ask h fun _ _ => eq_error_of_failureOf

theorem strict_delete (h : P (.delete name)) : Strict (I := store K) P (delete name) :=
  strict_ask h fun _ _ => eq_error_of_failureOf

variable [Resource K]

theorem strict_apply (h : ∀ call, P call) (template : K) (change : K → Except Error K) :
    Strict (I := store K) P (apply template change) := by
  refine strict_bind (strict_get (h _)) fun found => ?_
  cases found with
  | none =>
    exact strict_bind (strict_ofExcept _) fun made => strict_bind (strict_ofExcept _) fun _ =>
      strict_bind (strict_create (h _)) fun _ => strict_pure _
  | some found =>
    exact strict_bind (strict_ofExcept _) fun changed => strict_bind (strict_ofExcept _) fun _ =>
      strict_ite (strict_pure _) (strict_bind (strict_update (h _)) fun _ => strict_pure _)

theorem strict_addFinalizer
    (h : P (.update (Resource.mapMetadata (·.addFinalizer) object))) :
    Strict (I := store K) P (addFinalizer object) :=
  strict_ite (strict_pure _) (strict_bind (strict_update h) fun _ => strict_pure _)

theorem strict_annotate {key value : String} (hget : P (.get name))
    (hupdate : ∀ found, P (.update (Resource.mapMetadata (·.annotate key value) found))) :
    Strict (I := store K) P (annotate name key value) := by
  refine strict_bind (strict_get hget) fun found => ?_
  cases found with
  | none => exact strict_pure _
  | some found =>
    exact strict_ite (strict_pure _) (strict_bind (strict_update (hupdate _)) fun _ =>
      strict_pure _)

end Store

/-! ## Commands -/

namespace Management

variable {P : ManageCall → Prop}

theorem strict_isPassive (h : P .getState) : Strict (I := management) P isPassive := by
  refine ⟨h, fun answer => ?_⟩
  cases answer with
  | ok state => exact ⟨nofun, trivial⟩
  | error e =>
    cases e with
    | unexpectedState state => exact ⟨nofun, trivial⟩
    | _ =>
      refine ⟨fun _ he => ?_, trivial⟩
      obtain rfl := Option.some.inj he
      rfl

theorem strict_forceStart (h : P .forceStart) : Strict (I := management) P forceStart :=
  strict_ask h fun _ _ => eq_error_of_failureOf

theorem strict_changeState {state : ClusterState} (h : P (.changeState state)) :
    Strict (I := management) P (changeState state) :=
  strict_ask h fun _ _ => eq_error_of_failureOf

end Management

namespace Cluster

variable {P : ManageCall → Prop}

theorem strict_checkForceStart (h : ∀ call, P call) (c : Cluster) :
    Strict (I := management) P c.checkForceStart :=
  strict_ite (strict_pure _) <| strict_bind (Management.strict_isPassive (h _)) fun _ =>
    strict_ite (strict_pure _) <| strict_bind (Management.strict_forceStart (h _)) fun _ =>
      strict_pure _

theorem strict_ensureActive (h : ∀ call, P call) (c : Cluster) :
    Strict (I := management) P c.ensureActive :=
  strict_ite (strict_pure _) <| strict_bind (Management.strict_isPassive (h _)) fun _ =>
    strict_ite (strict_pure _) <| strict_bind (Management.strict_changeState (h _)) fun _ =>
      strict_pure _

end Cluster

/-! ## Calls of a pass -/

namespace ClusterPass

variable {P : ClusterCall → Prop} {α : Type}

theorem strict_patchStatus {name : String} {patch : Json} (h : P (.patchStatus name patch)) :
    Strict (I := clusterCalls) P (patchStatus name patch) :=
  strict_ask h fun _ _ => eq_error_of_failureOf

theorem strict_listMaps (h : P .listMaps) : Strict (I := clusterCalls) P listMaps :=
  strict_ask h fun _ _ => eq_error_of_failureOf

theorem strict_listPods {labels : TextMap} (h : P (.listPods labels)) :
    Strict (I := clusterCalls) P (listPods labels) :=
  strict_ask h fun _ _ => eq_error_of_failureOf

theorem strict_command {client : Client} {p : Pass management α}
    (h : Strict (I := management) (fun call => P (.manage client call)) p) :
    Strict (I := clusterCalls) P (command client p) :=
  strict_embed (fun _ _ => rfl) h

end ClusterPass

/-! ## The steps -/

namespace Cluster

open ClusterPass

variable {P : ClusterCall → Prop} {settings : Settings}

theorem strict_refuseInvalid (h : ∀ name patch, P (.patchStatus name patch)) (c : Cluster) :
    Strict (I := clusterCalls) P c.refuseInvalid := by
  unfold refuseInvalid
  cases c.check with
  | ok => exact strict_pure _
  | error e => exact strict_bind (strict_patchStatus (h _ _)) fun _ => strict_ofExcept _

theorem strict_applyRbac (hroles : ∀ call, P (.roles call)) (haccounts : ∀ call, P (.accounts call))
    (hbindings : ∀ call, P (.bindings call)) (c : Cluster) (platform : Platform) :
    Strict (I := clusterCalls) P (c.applyRbac platform) :=
  strict_bind (strict_embed (fun _ _ => rfl) (Store.strict_apply hroles _ _)) fun _ =>
    strict_bind (strict_embed (fun _ _ => rfl) (Store.strict_apply haccounts _ _)) fun _ =>
      strict_bind (strict_embed (fun _ _ => rfl) (Store.strict_apply hbindings _ _)) fun _ =>
        strict_pure _

theorem strict_prepare (hclusters : ∀ call, P (.clusters call))
    (hpatch : ∀ name patch, P (.patchStatus name patch)) (hroles : ∀ call, P (.roles call))
    (haccounts : ∀ call, P (.accounts call)) (hbindings : ∀ call, P (.bindings call))
    (c : Cluster) : Strict (I := clusterCalls) P (c.prepare settings) :=
  strict_bind (strict_embed (fun _ _ => rfl) (Store.strict_addFinalizer (hclusters _))) fun _ =>
    strict_bind (strict_refuseInvalid hpatch c) fun _ =>
      strict_applyRbac hroles haccounts hbindings c _

theorem strict_applyPerPodServices (h : ∀ call, P (.services call)) (desired : List Service) :
    Strict (I := clusterCalls) P (applyPerPodServices desired) := by
  induction desired with
  | nil => exact strict_pure _
  | cons d rest ih =>
    exact strict_bind (strict_embed (fun _ _ => rfl) (Store.strict_apply h _ _)) fun _ => ih

theorem strict_removePerPodServices (h : ∀ name, P (.services (.delete name))) (c : Cluster)
    (indices : List Nat) : Strict (I := clusterCalls) P (c.removePerPodServices indices) := by
  induction indices with
  | nil => exact strict_pure _
  | cons i rest ih =>
    exact strict_bind (strict_embed (fun _ _ => rfl) (Store.strict_delete (h _))) fun _ => ih

theorem strict_readServices (h : ∀ name, P (.services (.get name))) (desired : List Service) :
    Strict (I := clusterCalls) P (readServices desired) := by
  induction desired with
  | nil => exact strict_pure _
  | cons d rest ih =>
    exact strict_bind (strict_embed (fun _ _ => rfl) (Store.strict_get (h _))) fun _ =>
      strict_bind ih fun _ => strict_pure _

theorem strict_applyServices (hservices : ∀ call, P (.services call))
    (hsets : ∀ name, P (.statefulSets (.get name))) (c : Cluster) :
    Strict (I := clusterCalls) P c.applyServices :=
  strict_bind (strict_embed (fun _ _ => rfl) (Store.strict_apply hservices _ _)) fun _ =>
    strict_bind (strict_applyPerPodServices hservices _) fun _ =>
      strict_bind (strict_embed (fun _ _ => rfl) (Store.strict_get (hsets _))) fun _ =>
        strict_bind (strict_removePerPodServices (fun _ => hservices _) c _) fun _ =>
          strict_readServices (fun _ => hservices _) _

theorem strict_perPodReady (h : ∀ host, P (.resolves host)) (c : Cluster)
    (services : List (Option Service)) :
    Strict (I := clusterCalls) P (c.perPodReady resolves services) := by
  refine strict_ite (strict_allM (fun s => ?_) services) (strict_pure _)
  cases s with
  | none => exact strict_pure _
  | some s =>
    exact strict_ite (strict_ite (strict_pure _) (strict_allM (fun host =>
      strict_lift (h host) fun _ => rfl) _)) (strict_pure _)

theorem strict_applyConfigMap (hmaps : P .listMaps) (h : ∀ call, P (.configMaps call))
    (c : Cluster) : Strict (I := clusterCalls) P c.applyConfigMap :=
  strict_bind (strict_listMaps hmaps) fun _ =>
    strict_bind (strict_embed (fun _ _ => rfl) (Store.strict_apply h _ _)) fun _ => strict_pure _

theorem strict_applyStatefulSet (h : ∀ call, P (.statefulSets call)) (c : Cluster) :
    Strict (I := clusterCalls) P (c.applyStatefulSet settings) :=
  strict_bind (strict_ofExcept _) fun _ =>
    strict_bind (strict_embed (fun _ _ => rfl) (Store.strict_apply h _ _)) fun _ => strict_pure _

theorem strict_place (hhosts : ∀ host, P (.resolves host))
    (hpatch : ∀ name patch, P (.patchStatus name patch)) (hmaps : P .listMaps)
    (hconfig : ∀ call, P (.configMaps call)) (hsets : ∀ call, P (.statefulSets call)) (c : Cluster)
    (services : List (Option Service)) :
    Strict (I := clusterCalls) P (c.place settings services) :=
  strict_bind (strict_perPodReady hhosts c services) fun _ =>
    strict_ite (strict_bind (strict_patchStatus (hpatch _ _)) fun _ => strict_pure _) <|
      strict_bind (strict_applyConfigMap hmaps hconfig c) fun _ =>
        strict_bind (strict_applyStatefulSet hsets c) fun _ => strict_pure _

theorem strict_askMember (h : ∀ member, P (.memberState member)) (c : Cluster) (m : MemberStatus) :
    Strict (I := clusterCalls) P (c.askMember m) := by
  unfold askMember
  cases m.ip.filter fun _ => m.ready with
  | none => exact strict_pure _
  | some ip =>
    refine strict_bind (strict_lift (h _) fun _ => rfl) fun answer => ?_
    cases answer with
    | ok state => exact strict_pure _
    | error e => exact strict_pure _

theorem strict_askMembers (h : ∀ member, P (.memberState member)) (c : Cluster)
    (ms : List MemberStatus) : Strict (I := clusterCalls) P (c.askMembers ms) := by
  induction ms with
  | nil => exact strict_pure _
  | cons m rest ih =>
    exact strict_bind (strict_askMember h c m) fun _ => strict_bind ih fun _ => strict_pure _

theorem strict_observe (hpods : ∀ labels, P (.listPods labels))
    (hmembers : ∀ member, P (.memberState member)) (hservices : ∀ name, P (.services (.get name)))
    (c : Cluster) (services : List (Option Service)) :
    Strict (I := clusterCalls) P (c.observe services) :=
  strict_bind (strict_listPods (hpods _)) fun _ =>
    strict_bind (strict_askMembers hmembers c _) fun _ =>
      strict_bind (strict_embed (fun _ _ => rfl) (Store.strict_get (hservices _))) fun _ =>
        strict_pure _

theorem strict_settle (hpods : ∀ labels, P (.listPods labels))
    (hmembers : ∀ member, P (.memberState member)) (hservices : ∀ name, P (.services (.get name)))
    (hpatch : ∀ name patch, P (.patchStatus name patch)) (hclient : ∀ c, P (.client c))
    (hmanage : ∀ client call, P (.manage client call)) (hclusters : ∀ call, P (.clusters call))
    (c : Cluster) (services : List (Option Service)) :
    Strict (I := clusterCalls) P (c.settle services) :=
  strict_bind (strict_observe hpods hmembers hservices c services) fun _ =>
    strict_bind (strict_patchStatus (hpatch _ _)) fun _ =>
      strict_bind (strict_lift (hclient _) fun _ => rfl) fun client =>
        strict_bind (strict_command (strict_checkForceStart (hmanage client) _)) fun _ =>
          strict_bind (strict_command (strict_ensureActive (hmanage client) _)) fun _ =>
            strict_ite (strict_bind (strict_embed (fun _ _ => rfl)
              (Store.strict_annotate (hclusters _) fun _ => hclusters _)) fun _ => strict_pure _)
              (strict_pure _)

/-- A pass over a live cluster ends with the first call that fails. -/
theorem strict_reconcile {c : Cluster} (hlive : c.metadata.isDeleted = false)
    (settings : Settings) : Strict (I := clusterCalls) (fun _ => True) (c.reconcile settings) := by
  rw [reconcile_eq hlive]
  exact strict_bind (strict_prepare (fun _ => trivial) (fun _ _ => trivial) (fun _ => trivial)
      (fun _ => trivial) (fun _ => trivial) c) fun _ =>
    strict_bind (strict_applyServices (fun _ => trivial) (fun _ => trivial) c) fun services =>
      strict_bind (strict_place (fun _ => trivial) (fun _ _ => trivial) trivial (fun _ => trivial)
        (fun _ => trivial) c services) fun _ =>
        strict_ite (strict_settle (fun _ => trivial) (fun _ => trivial) (fun _ => trivial)
          (fun _ _ => trivial) (fun _ => trivial) (fun _ _ => trivial) (fun _ => trivial) c
          services) (strict_pure _)

end Cluster

end GridOperator
