import GridOperator.Proofs.Reconcile.FixedPoint
import GridOperator.Proofs.Reconcile.Reliability
import GridOperator.Proofs.Reconcile.Strictness
import GridOperator.Proofs.Table

/-!
# Specifications that are not accepted

A pass over a cluster whose specification is refused makes sure of the finalizer, says
in the status why it is refused, and ends. `reconcile_refused` says that this is all,
whatever the cluster and its objects are like: what an earlier specification has
brought about stays as it is.
-/

namespace GridOperator

open Kubernetes Pass
open ClusterPass (within)
open Script (Event Goes)

/-! ## Objections -/

/-- Whether all that may be wrong is what a specification says. -/
def OnlyObjects {α : Type} (r : Except Error α) : Prop :=
  ∀ e, r = .error e → ∃ objection, e = .invalid objection

section

variable {α β : Type}

theorem onlyObjects_ok (a : α) : OnlyObjects (.ok a : Except Error α) := nofun

theorem onlyObjects_invalid (objection : Objection) :
    OnlyObjects (.error (.invalid objection) : Except Error α) := by
  rintro e ⟨⟩
  exact ⟨objection, rfl⟩

theorem onlyObjects_bind {r : Except Error α} {f : α → Except Error β} (hr : OnlyObjects r)
    (hf : ∀ a, OnlyObjects (f a)) : OnlyObjects (r >>= f) := by
  cases r with
  | error e =>
    rintro e' ⟨⟩
    exact hr e rfl
  | ok a => exact hf a

theorem onlyObjects_ite {P : Prop} [Decidable P] {r r' : Except Error α} (h : OnlyObjects r)
    (h' : OnlyObjects r') : OnlyObjects (if P then r else r') := by
  split
  · exact h
  · exact h'

end

theorem RestoreProvider.onlyObjects_ofUri (uri : String) : OnlyObjects (ofUri uri) := by
  unfold ofUri
  split
  · exact onlyObjects_ok _
  · exact onlyObjects_ok _
  · exact onlyObjects_ok _
  · exact onlyObjects_invalid _

namespace Cluster

variable {c : Cluster} {e : Error}

theorem onlyObjects_check (c : Cluster) : OnlyObjects c.check := by
  have hexposure : OnlyObjects c.checkExposure := by
    unfold checkExposure
    cases c.spec.exposeExternally with
    | none => exact onlyObjects_ok _
    | some e => exact onlyObjects_ite (onlyObjects_invalid _) (onlyObjects_ok _)
  have hlicense : OnlyObjects c.checkLicense :=
    onlyObjects_ite (onlyObjects_invalid _) (onlyObjects_ok _)
  have hrestore : OnlyObjects c.checkRestore := by
    unfold checkRestore
    cases c.spec.restore with
    | none => exact onlyObjects_ok _
    | some r =>
      exact onlyObjects_bind (onlyObjects_ite (onlyObjects_invalid _)
        (RestoreProvider.onlyObjects_ofUri _)) fun _ => onlyObjects_ok _
  exact onlyObjects_bind hexposure fun _ => onlyObjects_bind hlicense fun _ => hrestore

/-- A specification that is refused is not tried again as it is. -/
theorem isRetryable_of_check (h : c.check = .error e) : e.isRetryable = false := by
  obtain ⟨objection, rfl⟩ := c.onlyObjects_check e h
  rfl

/-! ## The pass -/

/-- What a pass does about a specification that is refused for a reason. -/
def refuse (c : Cluster) (e : Error) : ClusterPass Next := do
  let _ ← within (Store.addFinalizer c)
  ClusterPass.patchStatus (Resource.anyName c) (phasePatch .pending (some e.message))
  Pass.ofExcept (.error e)

theorem reconcile_of_check (hlive : c.metadata.isDeleted = false) (h : c.check = .error e)
    (settings : Settings) : c.reconcile settings = c.refuse e := by
  rw [reconcile_eq hlive]
  unfold prepare refuseInvalid refuse
  rw [h]
  simp only [bind_assoc]
  rfl

/-- Whether a call is one that such a pass makes. -/
def Refuses (c : Cluster) (e : Error) : ClusterCall → Prop
  | .clusters (.update d) => d = Resource.mapMetadata (·.addFinalizer) c
  | .patchStatus name patch =>
    name = Resource.anyName c ∧ patch = phasePatch .pending (some e.message)
  | _ => False

theorem strict_refuse (c : Cluster) (e : Error) :
    Strict (I := clusterCalls) (c.Refuses e) (c.refuse e) :=
  strict_bind (strict_embed (fun _ _ => rfl) (Store.strict_addFinalizer rfl)) fun _ =>
    strict_bind (ClusterPass.strict_patchStatus ⟨rfl, rfl⟩) fun _ => strict_ofExcept _

/-- The cluster with the finalizer. -/
def held (c : Cluster) : Cluster :=
  if c.metadata.hasFinalizer then c else Resource.mapMetadata (·.addFinalizer) c

/-- The cluster with a status that says what it waits for. -/
def pending (c : Cluster) (message : String) : Cluster :=
  { c with status := some { c.status.getD {} with phase := .pending, message := some message } }

theorem patched?_pending (c : Cluster) (message : String) :
    c.patched? (phasePatch .pending (some message)) = some (c.pending message) :=
  c.patched?_phasePatch _ _

theorem unversioned_pending {d : Cluster} (h : Resource.unversioned d = Resource.unversioned c)
    (message : String) :
    Resource.unversioned (d.pending message) = Resource.unversioned (c.pending message) :=
  congrArg (fun c : Cluster => c.pending message) h

end Cluster

/-! ## What stays as it is -/

namespace MemoryStore

theorem Written.erase_eq {K : Type} [Resource K] {s s' : MemoryStore K} {object : K}
    (h : Written object s s') :
    s'.objects.erase (Resource.anyName object) = s.objects.erase (Resource.anyName object) := by
  obtain ⟨version, h⟩ := h
  rw [h, Table.erase_set]

theorem Patched.erase_eq {s s' : MemoryStore Cluster} {name : String} {patch : Json}
    (h : s.Patched name patch s') : s'.objects.erase name = s.objects.erase name := by
  -- whether or not a version is made, it is one of the cluster that is patched
  rcases h with rfl | ⟨found, -, -, rfl⟩
  · unfold servePatch
    split
    · rfl
    · split
      · rfl
      · dsimp only
        split
        · rfl
        · exact Table.erase_set _ _ _
  · exact Table.erase_set _ _ _

end MemoryStore

theorem Store.addFinalizer_of_hasFinalizer {K : Type} [Resource K] {object : K}
    (h : (Resource.metadata object).hasFinalizer) : addFinalizer object = pure false := by
  unfold addFinalizer
  dsimp only
  rw [h]
  rfl

namespace PassWorld

variable {o : Outlook} {c : Cluster} {e : Error} {settings : Settings} {w w' : PassWorld}

/-- The world but for one cluster. -/
def besides (name : String) (w : PassWorld) : PassWorld :=
  { w with clusters := { objects := w.clusters.objects.erase name } }

theorem besides_of_refuses {call : ClusterCall} (answer : clusterCalls.Answer call)
    (hcall : c.Refuses e call) (h : environment .unreliable o call w answer w') :
    besides (Resource.anyName c) w' = besides (Resource.anyName c) w := by
  have hclusters {s : MemoryStore Cluster}
      (hs : s.objects.erase (Resource.anyName c) =
        w.clusters.objects.erase (Resource.anyName c)) :
      besides (Resource.anyName c) { w with clusters := s } =
        besides (Resource.anyName c) w := by
    unfold besides
    rw [hs]
  cases call with
  | clusters call =>
    cases call with
    | update d =>
      obtain rfl := hcall
      obtain ⟨s, hs, rfl⟩ := h
      rcases hs.update with ⟨rfl, -⟩ | hwritten
      · rfl
      · exact hclusters hwritten.erase_eq
    | _ => exact hcall.elim
  | patchStatus name patch =>
    obtain ⟨rfl, rfl⟩ := hcall
    obtain ⟨s, hs, rfl⟩ := h
    rcases hs with ⟨-, hpatched⟩ | ⟨_, -, rfl | hpatched⟩
    · exact hclusters hpatched.erase_eq
    · rfl
    · exact hclusters hpatched.erase_eq
  | _ => exact hcall.elim

/-! ## What becomes of the cluster -/

theorem exec_addFinalizer_held (hlive : c.metadata.isDeleted = false)
    (hstored : w.clusters.objects.get? (Resource.anyName c) = some c) {added : Bool}
    (h : Exec (environment .unreliable o) (within (Store.addFinalizer c)) w (.ok added) w') :
    ∃ d, w'.clusters.objects.get? (Resource.anyName c) = some d ∧
      Resource.unversioned d = Resource.unversioned c.held := by
  obtain ⟨s, hs, rfl⟩ := exec_within.1 h
  unfold Cluster.held
  split
  · rename_i hfinalizer
    replace hs : Exec MemoryStore.unreliable (Store.addFinalizer c) w.clusters (.ok added) s := hs
    rw [Store.addFinalizer_of_hasFinalizer hfinalizer] at hs
    obtain ⟨-, rfl⟩ := exec_pure.1 hs
    exact ⟨c, hstored, rfl⟩
  · rename_i hfinalizer
    rcases Store.exec_addFinalizer_ok hlive hs with ⟨-, hskipped⟩ | hwritten
    · exact absurd hskipped hfinalizer
    · obtain ⟨version, hself⟩ := hwritten.get?_self
      exact ⟨_, hself, Resource.unversioned_withVersion _ _⟩

/-- Nothing keeps a patch from being made where the cluster is stored. -/
theorem exec_patchStatus_reliable {d patched : Cluster} {name : String} {patch : Json}
    {r : Except Error Unit} (hd : w.clusters.objects.get? name = some d)
    (hpatched : d.patched? patch = some patched)
    (h : Exec (environment .reliable o) (ClusterPass.patchStatus name patch) w r w') :
    r = .ok () ∧ ∃ d', w'.clusters.objects.get? name = some d' ∧
      Resource.unversioned d' = Resource.unversioned patched := by
  obtain ⟨s, ⟨rfl, hs⟩, rfl⟩ := Script.exec_call.1 h
  refine ⟨?_, MemoryStore.exists_of_content_eq (hs.content_eq hd hpatched)⟩
  unfold MemoryStore.servePatch
  rw [hd]
  dsimp only
  rw [hpatched]

theorem exec_refuse (hlive : c.metadata.isDeleted = false)
    (hstored : w.clusters.objects.get? (Resource.anyName c) = some c)
    (hversion : (Resource.version? c).isSome) {r : Except Error Next}
    (h : Exec (environment .reliable o) (c.refuse e) w r w') :
    r = .error e ∧ ∃ d, w'.clusters.objects.get? (Resource.anyName c) = some d ∧
      Resource.unversioned d = Resource.unversioned (c.held.pending e.message) := by
  obtain ⟨a, v, hfinalizer, h₁⟩ := exec_bind.1 h
  obtain ⟨added, rfl⟩ := exec_addFinalizer_reliable hstored hversion hfinalizer
  obtain ⟨d, hd, hheld⟩ := exec_addFinalizer_held hlive hstored (exec_of_reliable hfinalizer)
  obtain ⟨a, u, hpatch, h₂⟩ := exec_bind.1 h₁
  obtain ⟨rfl, d', hd', hsame⟩ := exec_patchStatus_reliable hd (d.patched?_pending _) hpatch
  obtain ⟨rfl, rfl⟩ := exec_ofExcept.1 h₂
  exact ⟨rfl, d', hd', hsame.trans (Cluster.unversioned_pending hheld _)⟩

/-- A pass over a stored cluster whose specification is refused, where all calls are answered. It
ends with the objection, which is not tried again. On its way it only makes sure of the finalizer
and patches the status, so that all but the cluster is as it was; in the end the cluster has the
finalizer, is pending, and says why. -/
theorem reconcile_refused (settings : Settings) (hlive : c.metadata.isDeleted = false)
    (hstored : w.clusters.objects.get? (Resource.anyName c) = some c)
    (hversion : (Resource.version? c).isSome) (hcheck : c.check = .error e) :
    e.isRetryable = false ∧
    (∃ events v, Goes (environment .reliable o) (c.reconcile settings).run w events
      (.done (.error e)) v) ∧
    ∀ events rest v, Goes (environment .reliable o) (c.reconcile settings).run w events rest v →
      (∀ event ∈ events, c.Refuses e event.call) ∧
      besides (Resource.anyName c) v = besides (Resource.anyName c) w ∧
      ∀ r, rest = .done r → r = .error e ∧
        ∃ d, v.clusters.objects.get? (Resource.anyName c) = some d ∧
          Resource.unversioned d = Resource.unversioned (c.held.pending e.message) := by
  rw [Cluster.reconcile_of_check hlive hcheck]
  refine ⟨c.isRetryable_of_check hcheck, ?_, fun events rest v h => ?_⟩
  · -- a world that answers all calls takes the pass to its end
    have hexec := exec_serve (o := o) (c.refuse e) w
    obtain ⟨hresult, -⟩ := exec_refuse hlive hstored hversion hexec
    obtain ⟨events, hgoes⟩ := Script.Exec.exists_goes hexec
    exact ⟨events, _, hresult ▸ hgoes⟩
  · have hstrict := c.strict_refuse e
    refine ⟨(h.follows.strict hstrict).2, h.keeps hstrict (besides (Resource.anyName c))
      fun _ _ answer _ hcall hstep =>
        besides_of_refuses answer hcall (unreliable_of_reliable hstep),
      ?_⟩
    rintro r rfl
    exact exec_refuse hlive hstored hversion h.exec_done

/-- A running cluster whose members are to be reached one by one, and as one. -/
def misfit : Cluster :=
  { single with
    spec := { single.spec with exposeExternally := some {
      type := .unisocket, memberAccess := some .nodePortExternalIP } }
    status := some { phase := .running, readyMembers := "1/1" } }

def misfitStored : PassWorld where
  clusters := { objects := [("hz", misfit)], version := 1 }
  statefulSets := { objects := [("hz", { metadata := { name := some "hz" } })], version := 1 }

/-- The cluster gets to be pending, and its stateful set stays. -/
theorem reconcile_refused_misfit : ∃ events v d,
    Goes (environment .reliable {}) (misfit.reconcile {}).run misfitStored events
      (.done (.error (.invalid .unisocketMemberAccess))) v ∧
    v.statefulSets = misfitStored.statefulSets ∧
    v.clusters.objects.get? "hz" = some d ∧ d.metadata.hasFinalizer ∧
    d.status = some { phase := .pending, readyMembers := "1/1"
                      message := some (Error.invalid .unisocketMemberAccess).message } := by
  have hstored : misfitStored.clusters.objects.get? (Resource.anyName misfit) = some misfit := by
    rfl
  obtain ⟨-, ⟨events, v, hgoes⟩, hall⟩ := reconcile_refused (o := {}) (c := misfit)
    (w := misfitStored) {} rfl hstored rfl rfl
  obtain ⟨-, hrest, hend⟩ := hall _ _ _ hgoes
  obtain ⟨-, d, hd, hsame⟩ := hend _ rfl
  exact ⟨events, v, d, hgoes, congrArg (·.statefulSets) hrest, hd,
    congrArg (·.metadata.hasFinalizer) hsame, congrArg Cluster.status hsame⟩

end PassWorld

end GridOperator
