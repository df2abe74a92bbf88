import GridOperator.Proofs.Reconcile.Resumption

/-!
# Passes that nothing interferes with

Where all calls are answered, the stages of a pass succeed, as far as the
specification of the cluster lets them: what is to be written goes out from what is
stored. `retried_sameObjects` compares such a pass with one that has been cut off and
begun anew.
-/

namespace GridOperator

open Kubernetes Pass
open ClusterPass (within Reachable)
open MemoryStore (Wholly)

/-! ## Success -/

namespace Pass

variable {I : Interface} {α β σ : Type} {env : Script.Environment I σ} {P : σ → Prop}

/-- Whether a pass succeeds wherever `P` holds, which is kept. -/
def Succeeds (env : Script.Environment I σ) (P : σ → Prop) (p : Pass I α) : Prop :=
  ∀ ⦃w : σ⦄ ⦃r : Except Error α⦄ ⦃w' : σ⦄, Exec env p w r w' → P w → (∃ a, r = .ok a) ∧ P w'

theorem succeeds_pure (a : α) : Succeeds env P (pure a) := by
  intro w r w' h hw
  obtain ⟨rfl, rfl⟩ := exec_pure.1 h
  exact ⟨⟨a, rfl⟩, hw⟩

theorem succeeds_bind {p : Pass I α} {f : α → Pass I β} (hp : Succeeds env P p)
    (hf : ∀ a, Succeeds env P (f a)) : Succeeds env P (p >>= f) := by
  intro w r w' h hw
  obtain ⟨a, v, hfirst, hrest⟩ := exec_bind.1 h
  obtain ⟨⟨a, rfl⟩, hv⟩ := hp hfirst hw
  exact hf a hrest hv

theorem succeeds_ite {cond : Prop} [Decidable cond] {p q : Pass I α} (hp : Succeeds env P p)
    (hq : Succeeds env P q) : Succeeds env P (if cond then p else q) := by
  split
  · exact hp
  · exact hq

theorem succeeds_allM {p : α → Pass I Bool} (hp : ∀ a, Succeeds env P (p a)) (l : List α) :
    Succeeds env P (l.allM p) := by
  induction l with
  | nil => exact succeeds_pure true
  | cons a l ih =>
    refine succeeds_bind (hp a) fun holds => ?_
    cases holds with
    | true => exact ih
    | false => exact succeeds_pure false

theorem succeeds_lift {c : I.Call} (hc : ∀ w a w', env c w a w' → P w → P w') :
    Succeeds env P (ExceptT.lift (Script.call c)) := by
  intro w r w' h hw
  obtain ⟨answer, rfl, hcall⟩ := exec_lift.1 h
  exact ⟨⟨answer, rfl⟩, hc w answer w' (Script.exec_call.1 hcall) hw⟩

end Pass

/-! ## Stores -/

namespace MemoryStore

variable {K : Type} [Resource K] {s s' : MemoryStore K}

/-- Whether each object is stored under its own name and has a version. -/
def Sound (s : MemoryStore K) : Prop := ∀ name o, s.objects.get? name = some o →
  Resource.anyName o = name ∧ (Resource.version? o).isSome

theorem sound_empty : ({} : MemoryStore K).Sound := fun _ _ h => by cases h

theorem Sound.put [LawfulResource K] (h : s.Sound) (object : K) :
    (s.put (Resource.anyName object) object).Sound := by
  intro name o ho
  by_cases hn : name = Resource.anyName object
  · rw [hn, get?_put_self] at ho
    obtain rfl := Option.some.inj ho
    rw [Resource.anyName_withVersion, Resource.version?_withVersion]
    exact ⟨hn.symm, rfl⟩
  · rw [get?_put_of_ne hn] at ho
    exact h name o ho

theorem Sound.erase (h : s.Sound) (name : String) :
    ({ s with objects := s.objects.erase name } : MemoryStore K).Sound := by
  intro other o ho
  by_cases hn : other = name
  · rw [hn, Table.get?_erase_self] at ho
    cases ho
  · exact h other o (by rwa [Table.get?_erase_of_ne hn] at ho)

end MemoryStore

namespace Store

variable {K : Type} [Resource K] {s s' : MemoryStore K}

/-- Whether a change can always be made, and leaves name and version as they are. -/
def Admissible (change : K → Except Error K) : Prop := ∀ object, ∃ changed,
  change object = .ok changed ∧ Resource.anyName changed = Resource.anyName object ∧
    Resource.version? changed = Resource.version? object

theorem succeeds_get (name : String) :
    Succeeds Manner.reliable.call (MemoryStore.Sound (K := K)) (get name) := by
  intro s r s' h hs
  obtain ⟨rfl, rfl⟩ := exec_call_reliable h
  exact ⟨⟨_, rfl⟩, hs⟩

theorem succeeds_delete (name : String) :
    Succeeds Manner.reliable.call (MemoryStore.Sound (K := K)) (delete name) := by
  intro s r s' h hs
  obtain ⟨rfl, rfl⟩ := exec_call_reliable h
  exact ⟨⟨_, rfl⟩, hs.erase name⟩

theorem exec_create_reliable {object : K} {r : Except Error K}
    (h : Exec Manner.reliable.call (create object) s r s')
    (hnone : s.objects.get? (Resource.anyName object) = none) :
    (∃ a, r = .ok a) ∧ s' = s.put (Resource.anyName object) object := by
  obtain ⟨rfl, rfl⟩ := exec_call_reliable h
  rw [MemoryStore.serve_create_of_none hnone]
  exact ⟨⟨_, rfl⟩, rfl⟩

theorem exec_update_reliable {object found : K} {r : Except Error K}
    (h : Exec Manner.reliable.call (update object) s r s')
    (hfound : s.objects.get? (Resource.anyName object) = some found)
    (hcurrent : MemoryStore.isCurrent object found) :
    (∃ a, r = .ok a) ∧ s' = s.put (Resource.anyName object) object := by
  obtain ⟨rfl, rfl⟩ := exec_call_reliable h
  rw [MemoryStore.serve_update_of_current hfound hcurrent]
  exact ⟨⟨_, rfl⟩, rfl⟩

variable [LawfulResource K]

/-- An object that is changed in an admissible way goes out from what is stored. -/
theorem succeeds_apply {template : K} {change : K → Except Error K} (hchange : Admissible change) :
    Succeeds Manner.reliable.call MemoryStore.Sound (apply template change) := by
  intro s r s' h hs
  rcases exec_bind_cases h with ⟨e, rfl, hget⟩ | ⟨found, v, hget, hrest⟩
  · cases (exec_call_reliable hget).1
  obtain ⟨hfound, rfl⟩ := exec_call_reliable hget
  replace hfound := Except.ok.inj hfound
  cases found with
  | none =>
    obtain ⟨made, hmade, hname, -⟩ := hchange template
    dsimp only at hrest
    rw [hmade] at hrest
    replace hrest := exec_ok_bind.1 hrest
    rw [checkName, if_pos hname] at hrest
    obtain ⟨a, u, hcreate, hpure⟩ := exec_bind.1 (exec_ok_bind.1 hrest)
    obtain ⟨⟨_, rfl⟩, rfl⟩ := exec_create_reliable hcreate (hname ▸ hfound.symm)
    obtain ⟨rfl, rfl⟩ := exec_pure.1 hpure
    exact ⟨⟨_, rfl⟩, hs.put made⟩
  | some found =>
    obtain ⟨changed, hchanged, hsame, hversion⟩ := hchange found
    have hname : Resource.anyName changed = Resource.anyName template :=
      hsame.trans (hs _ _ hfound.symm).1
    dsimp only at hrest
    rw [hchanged] at hrest
    replace hrest := exec_ok_bind.1 hrest
    rw [checkName, if_pos hname] at hrest
    replace hrest := exec_ok_bind.1 hrest
    split at hrest
    · obtain ⟨rfl, rfl⟩ := exec_pure.1 hrest
      exact ⟨⟨_, rfl⟩, hs⟩
    · obtain ⟨a, u, hupdate, hpure⟩ := exec_bind.1 hrest
      obtain ⟨⟨_, rfl⟩, rfl⟩ := exec_update_reliable hupdate (hname ▸ hfound.symm)
        (MemoryStore.isCurrent_iff.2 ⟨hversion, (hs _ _ hfound.symm).2⟩)
      obtain ⟨rfl, rfl⟩ := exec_pure.1 hpure
      exact ⟨⟨_, rfl⟩, hs.put changed⟩

end Store

/-! ## Stages of a pass -/

namespace PassWorld

/-- Whether the objects of all kinds but the clusters themselves are under their own names and have
versions. -/
structure Sound (w : PassWorld) : Prop where
  roles : w.roles.Sound
  accounts : w.accounts.Sound
  bindings : w.bindings.Sound
  services : w.services.Sound
  configMaps : w.configMaps.Sound
  statefulSets : w.statefulSets.Sound

/-- A kind of objects that are sound in a sound world. -/
class SoundPart (K : Type) [Resource K] [Reachable K] extends Part K, LawfulResource K where
  sound_stock {w : PassWorld} : w.Sound → (stock w).Sound
  sound_restock {w : PassWorld} {s : MemoryStore K} : w.Sound → s.Sound → (restock w s).Sound

instance : SoundPart ClusterRole := ⟨fun h => h.roles, fun h hs => { h with roles := hs }⟩
instance : SoundPart ServiceAccount := ⟨fun h => h.accounts, fun h hs => { h with accounts := hs }⟩
instance : SoundPart ClusterRoleBinding :=
  ⟨fun h => h.bindings, fun h hs => { h with bindings := hs }⟩
instance : SoundPart Service := ⟨fun h => h.services, fun h hs => { h with services := hs }⟩
instance : SoundPart ConfigMap := ⟨fun h => h.configMaps, fun h hs => { h with configMaps := hs }⟩
instance : SoundPart StatefulSet :=
  ⟨fun h => h.statefulSets, fun h hs => { h with statefulSets := hs }⟩

variable {o : Outlook} {c : Cluster} {settings : Settings} {w w' : PassWorld} {α : Type}

theorem succeeds_within {K : Type} [Resource K] [Reachable K] [SoundPart K] {p : Pass (store K) α}
    (hp : Succeeds Manner.reliable.call MemoryStore.Sound p) :
    Succeeds (environment .reliable o) Sound (within p) := by
  intro w r w' h hw
  obtain ⟨s, hs, rfl⟩ := exec_within.1 h
  obtain ⟨hok, hsound⟩ := hp hs (SoundPart.sound_stock hw)
  exact ⟨hok, SoundPart.sound_restock hw hsound⟩

theorem succeeds_applyRbac (c : Cluster) (platform : Platform) :
    Succeeds (environment .reliable o) Sound (c.applyRbac platform) :=
  succeeds_bind (succeeds_within (Store.succeeds_apply fun _ => ⟨_, rfl, rfl, rfl⟩)) fun _ =>
    succeeds_bind (succeeds_within (Store.succeeds_apply fun _ => ⟨_, rfl, rfl, rfl⟩)) fun _ =>
      succeeds_bind (succeeds_within (Store.succeeds_apply fun _ => ⟨_, rfl, rfl, rfl⟩)) fun _ =>
        succeeds_pure ()

theorem succeeds_applyPerPodServices (desired : List Service) :
    Succeeds (environment .reliable o) Sound (Cluster.applyPerPodServices desired) := by
  induction desired with
  | nil => exact succeeds_pure ()
  | cons d rest ih =>
    exact succeeds_bind (succeeds_within (Store.succeeds_apply fun _ => ⟨_, rfl, rfl, rfl⟩))
      fun _ => ih

theorem succeeds_removePerPodServices (c : Cluster) (indices : List Nat) :
    Succeeds (environment .reliable o) Sound (c.removePerPodServices indices) := by
  induction indices with
  | nil => exact succeeds_pure ()
  | cons i rest ih => exact succeeds_bind (succeeds_within (Store.succeeds_delete _)) fun _ => ih

theorem succeeds_readServices (desired : List Service) :
    Succeeds (environment .reliable o) Sound (Cluster.readServices desired) := by
  induction desired with
  | nil => exact succeeds_pure []
  | cons d rest ih =>
    exact succeeds_bind (succeeds_within (Store.succeeds_get _)) fun _ =>
      succeeds_bind ih fun _ => succeeds_pure _

theorem succeeds_applyServices (c : Cluster) :
    Succeeds (environment .reliable o) Sound c.applyServices :=
  succeeds_bind (succeeds_within (Store.succeeds_apply fun _ => ⟨_, rfl, rfl, rfl⟩)) fun _ =>
    succeeds_bind (succeeds_applyPerPodServices _) fun _ =>
      succeeds_bind (succeeds_within (Store.succeeds_get _)) fun _ =>
        succeeds_bind (succeeds_removePerPodServices c _) fun _ => succeeds_readServices _

theorem succeeds_perPodReady (c : Cluster) (services : List (Option Service)) :
    Succeeds (environment .reliable o) Sound (c.perPodReady ClusterPass.resolves services) := by
  have hresolves (host : String) :
      Succeeds (environment .reliable o) Sound (ClusterPass.resolves host) :=
    succeeds_lift fun _ _ _ h hw => h.2 ▸ hw
  refine succeeds_ite (succeeds_allM (fun s => ?_) services) (succeeds_pure true)
  cases s with
  | none => exact succeeds_pure false
  | some s =>
    exact succeeds_ite (succeeds_ite (succeeds_pure false) (succeeds_allM hresolves _))
      (succeeds_pure true)

theorem succeeds_applyConfigMap (c : Cluster) :
    Succeeds (environment .reliable o) Sound c.applyConfigMap := by
  refine succeeds_bind (fun w r w' h hw => ?_) fun _ => succeeds_bind
    (succeeds_within (Store.succeeds_apply fun _ => ⟨_, rfl, rfl, rfl⟩)) fun _ => succeeds_pure ()
  obtain ⟨rfl, rfl⟩ := Script.exec_call.1 h
  exact ⟨⟨_, rfl⟩, hw⟩

theorem succeeds_applyStatefulSet {desired : StatefulSet}
    (h : c.newStatefulSet? settings = .ok desired) :
    Succeeds (environment .reliable o) Sound (c.applyStatefulSet settings) := by
  unfold Cluster.applyStatefulSet
  rw [h]
  have happly : Succeeds (environment .reliable o) Sound (within <| Store.apply desired
      fun found => .ok (found.sync c settings)) :=
    succeeds_within (Store.succeeds_apply fun _ => ⟨_, rfl, rfl, rfl⟩)
  exact fun w r w' hexec => succeeds_bind happly (fun _ => succeeds_pure ()) (exec_ok_bind.1 hexec)

theorem Sound.congr (h : w.Sound) (hobjects : objects w' = objects w) : w'.Sound := by
  obtain ⟨_, _, rfl⟩ := eq_of_objects hobjects
  exact ⟨h.roles, h.accounts, h.bindings, h.services, h.configMaps, h.statefulSets⟩

/-- The finalizer goes out from the stored cluster. -/
theorem exec_addFinalizer_reliable
    (hstored : w.clusters.objects.get? (Resource.anyName c) = some c)
    (hversion : (Resource.version? c).isSome) {r : Except Error Bool}
    (h : Exec (environment .reliable o) (within (Store.addFinalizer c)) w r w') :
    ∃ a, r = .ok a := by
  obtain ⟨s, hs, -⟩ := exec_within.1 h
  unfold Store.addFinalizer at hs
  dsimp only at hs
  split at hs
  · exact ⟨_, (exec_pure.1 hs).1⟩
  · obtain ⟨a, v, hupdate, hpure⟩ := exec_bind.1 hs
    obtain ⟨⟨_, rfl⟩, -⟩ := Store.exec_update_reliable hupdate hstored
      (MemoryStore.isCurrent_iff.2 ⟨rfl, hversion⟩)
    exact ⟨_, (exec_pure.1 hpure).1⟩

theorem succeeds_prepare (hstored : w.clusters.objects.get? (Resource.anyName c) = some c)
    (hversion : (Resource.version? c).isSome) (hcheck : c.check = .ok ()) (hw : w.Sound)
    {r : Except Error Unit}
    (h : Exec (environment .reliable o) (c.prepare settings) w r w') :
    r = .ok () ∧ w'.Sound := by
  obtain ⟨a, v, hfinalizer, hrest⟩ := exec_bind.1 h
  obtain ⟨a, rfl⟩ := exec_addFinalizer_reliable hstored hversion hfinalizer
  have hv := hw.congr (keeps_clusters _ (exec_of_reliable hfinalizer))
  unfold Cluster.refuseInvalid at hrest
  rw [hcheck] at hrest
  exact (succeeds_applyRbac c settings.platform hrest hv).imp_left fun ⟨_, h⟩ => h

/-- The stateful set comes in line if the services can be reached, and if one can be made. -/
theorem exec_place_reliable {services : List (Option Service)} (hw : w.Sound)
    (hset : reachable o c services = true → ∃ desired, c.newStatefulSet? settings = .ok desired)
    {r : Except Error Bool}
    (h : Exec (environment .reliable o) (c.place settings services) w r w') :
    if reachable o c services then r = .ok true else objects w' = objects w := by
  have hlook {ready : Except Error Bool} {v : PassWorld}
      (hready : Exec (environment .reliable o) (c.perPodReady ClusterPass.resolves services) w
        ready v) : v = w ∧ ready = .ok (reachable o c services) := by
    obtain ⟨⟨b, rfl⟩, -⟩ := succeeds_perPodReady c services hready hw
    obtain ⟨-, rfl, hshown⟩ := shows_perPodReady services (exec_of_reliable hready)
    exact ⟨rfl, congrArg _ (hshown b rfl)⟩
  cases Cluster.placeCourse_of_exec h with
  | unseen hready => cases (hlook hready).2
  | waiting hready hpatch =>
    obtain ⟨rfl, hresult⟩ := hlook hready
    rw [← Except.ok.inj hresult, if_neg Bool.false_ne_true]
    exact keeps_patchStatus _ _ (exec_of_reliable hpatch)
  | unconfigured hready hconfig =>
    obtain ⟨rfl, -⟩ := hlook hready
    obtain ⟨⟨_, hok⟩, -⟩ := succeeds_applyConfigMap c hconfig hw
    cases hok
  | placed hready hconfig happly =>
    obtain ⟨rfl, hresult⟩ := hlook hready
    have hreachable : reachable o c services = true := (Except.ok.inj hresult).symm
    obtain ⟨-, hu⟩ := succeeds_applyConfigMap c hconfig hw
    obtain ⟨desired, hdesired⟩ := hset hreachable
    obtain ⟨⟨_, rfl⟩, -⟩ := succeeds_applyStatefulSet hdesired happly hu
    rw [if_pos hreachable]
    rfl

/-- A pass over a valid cluster that nothing interferes with gets through to the stateful set, if
one can be made where it is to be. -/
theorem completed_of_reliable (hlive : c.metadata.isDeleted = false)
    (hstored : w.clusters.objects.get? (Resource.anyName c) = some c)
    (hversion : (Resource.version? c).isSome) (hcheck : c.check = .ok ()) (hw : w.Sound)
    (hset : ∀ v, Wholly (c.serviceGoals (w.stale c)) w.services v.services → Ready o c v →
      ∃ desired, c.newStatefulSet? settings = .ok desired) {r : Except Error Next}
    (h : Exec (environment .reliable o) (c.reconcile settings) w r w') :
    Completed o c settings w w' := by
  cases Cluster.passCourse_of_exec h with
  | finalized hdeleted => exact absurd hdeleted (ne_true_of_eq_false hlive)
  | unprepared _ hprepare => cases (succeeds_prepare hstored hversion hcheck hw hprepare).1
  | unserved _ hprepare hservices =>
    have hu := (succeeds_prepare hstored hversion hcheck hw hprepare).2
    obtain ⟨⟨_, hok⟩, -⟩ := succeeds_applyServices c hservices hu
    cases hok
  | @unplaced _ _ _ v _ _ hprepare hservices hplace =>
    have hu := (succeeds_prepare hstored hversion hcheck hw hprepare).2
    obtain ⟨-, hv⟩ := succeeds_applyServices c hservices hu
    obtain ⟨-, hequipped, rfl⟩ :=
      equipped_of_exec (exec_of_reliable hprepare) (exec_of_reliable hservices)
    have hend := exec_place_reliable hv (hset v hequipped.services) hplace
    split at hend
    · cases hend
    · rename_i hwaiting
      obtain ⟨_, _, rfl⟩ := eq_of_objects hend
      exact ⟨hequipped.roles, hequipped.accounts, hequipped.bindings, hequipped.services,
        fun _ => ⟨hequipped.configMaps, hequipped.statefulSets⟩,
        fun hready => absurd hready hwaiting⟩
  | waiting _ hprepare hservices hplace =>
    obtain ⟨-, hequipped, rfl⟩ :=
      equipped_of_exec (exec_of_reliable hprepare) (exec_of_reliable hservices)
    exact (hequipped.place (exec_of_reliable hplace)).2 _ rfl
  | settled _ hprepare hservices hplace hsettle =>
    obtain ⟨-, hequipped, rfl⟩ :=
      equipped_of_exec (exec_of_reliable hprepare) (exec_of_reliable hservices)
    exact ((hequipped.place (exec_of_reliable hplace)).2 _ rfl).of_objects
      (keeps_settle c _ (exec_of_reliable hsettle))

/-! ## Retries -/

/-- A pass may be cut off at any call, by a failure before or after the call takes effect. A later
pass for the same specification that gets through then leaves the same objects, up to their
versions, as a single pass does that nothing interferes with. -/
theorem retried_sameObjects (hname : c.metadata.name = some c.name)
    (hlive : c.metadata.isDeleted = false)
    (hstored : w.clusters.objects.get? (Resource.anyName c) = some c)
    (hversion : (Resource.version? c).isSome) (hw : w.Sound) {w₁ w₂ : PassWorld}
    {r r' : Except Error Next} {n : Next} {d : Cluster}
    (hcut : Exec (environment .unreliable o) (c.reconcile settings) w r w₁)
    (hsame : d.identity = c.identity)
    (hretry : Exec (environment .unreliable o) (d.reconcile settings) w₁ (.ok n) w₂)
    (hwhole : Exec (environment .reliable o) (c.reconcile settings) w r' w') :
    SameObjects w₂ w' := by
  have hlive' := (Cluster.isDeleted_congr hsame).trans hlive
  obtain ⟨hcheck, hretried⟩ := (exec_reconcile hlive' hretry).2 n rfl
  have hretried := hretried.congr hsame
  have hadvanced := (exec_reconcile hlive hcut).1
  refine hadvanced.resumed hname hretried (completed_of_reliable hlive hstored hversion
    ((Cluster.check_congr hsame).symm.trans hcheck) hw (fun v hv hready => ?_) hwhole)
  have hservices := hadvanced.services_resumed hname hretried.services hv
  exact (hretried.placed ((ready_congr hservices).2 hready)).2.2

theorem sound_singleStored : singleStored.Sound := by
  constructor <;> exact MemoryStore.sound_empty

/-- Answers calls but for the creation of configurations, which fails. -/
def interrupted : Script.Handler clusterCalls PassWorld
  | .configMaps (.create _), w => (.error (.api none), w)
  | call, w => serve {} call w

theorem unreliable_interrupted (call : ClusterCall) (w : PassWorld) :
    environment .unreliable {} call w (interrupted call w).1 (interrupted call w).2 := by
  cases call with
  | configMaps call =>
    cases call with
    | create => exact ⟨w.configMaps, .inr ⟨_, rfl, .inl rfl⟩, rfl⟩
    | _ => exact unreliable_of_reliable (reliable_serve _ w)
  | _ => exact unreliable_of_reliable (reliable_serve _ w)

/-- What is left when a pass cannot create the configuration. -/
def cutOff : PassWorld := ((single.reconcile {}).run.run interrupted singleStored).2

/-- The cluster as it is stored then. -/
def singleAgain : Cluster := (cutOff.clusters.objects.get? "hz").getD single

theorem exec_cutOff : ∃ r, Exec (environment .unreliable {}) (single.reconcile {}) singleStored r
    cutOff ∧ r = .error (.api none) :=
  ⟨_, Script.exec_of_run unreliable_interrupted (single.reconcile {}).run singleStored, by rfl⟩

/-- A pass that is cut off at the configuration and begun anew. -/
theorem retried_sameObjects_single : ∃ (e : Error) (n : Next) (r' : Except Error Next)
    (w₂ w' : PassWorld),
    Exec (environment .unreliable {}) (single.reconcile {}) singleStored (.error e) cutOff ∧
    Exec (environment .unreliable {}) (singleAgain.reconcile {}) cutOff (.ok n) w₂ ∧
    Exec (environment .reliable {}) (single.reconcile {}) singleStored r' w' ∧
    SameObjects w₂ w' := by
  have hidentity : singleAgain.identity = single.identity := by rfl
  have hstored : singleStored.clusters.objects.get? (Resource.anyName single) = some single := by
    rfl
  obtain ⟨_, hcut, rfl⟩ := exec_cutOff
  obtain ⟨n, w₂, hretry⟩ : ∃ n w₂, Exec (environment .reliable {}) (singleAgain.reconcile {})
    cutOff (.ok n) w₂ := exists_exec_of_isOk (by decide +kernel)
  have hwhole := exec_serve (o := {}) (single.reconcile {}) singleStored
  have hretry := exec_of_reliable hretry
  exact ⟨_, n, _, w₂, _, hcut, hretry, hwhole,
    retried_sameObjects (c := single) (d := singleAgain) (w := singleStored) rfl rfl hstored rfl
      sound_singleStored hcut hidentity hretry hwhole⟩

end PassWorld

end GridOperator
