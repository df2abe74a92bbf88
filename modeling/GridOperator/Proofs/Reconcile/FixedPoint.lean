import GridOperator.Proofs.Reconcile.Resumption

/-!
# Passes that have nothing left to do

A pass that succeeds leaves nothing to do: all objects are in line, and the cluster
carries the finalizer, the status that a pass would write, and the specification as it
would be recorded. `reconcile_still` says that a second pass is one in which nothing is
written.
-/

namespace GridOperator

open Kubernetes Pass
open ClusterPass (within Reachable)
open MemoryStore (SameContent Partly Wholly Settled)

/-! ## The cluster after a pass -/

namespace Store

variable {K : Type} [Resource K] {s s' : MemoryStore K} {object found : K} {name : String}

theorem exec_addFinalizer_ok {added : Bool} (hlive : (Resource.metadata object).isDeleted = false)
    (h : Exec MemoryStore.unreliable (addFinalizer object) s (.ok added) s') :
    (s' = s ∧ (Resource.metadata object).hasFinalizer) ∨
      MemoryStore.Written (Resource.mapMetadata (·.addFinalizer) object) s s' := by
  unfold addFinalizer at h
  dsimp only at h
  split at h
  · rename_i hskip
    rw [hlive, Bool.or_false] at hskip
    exact .inl ⟨(exec_pure.1 h).2, hskip⟩
  · rcases exec_write exec_update h with ⟨-, e, he⟩ | hwritten
    · cases he
    · exact .inr hwritten

theorem exec_annotate_ok {key value : String} {a : Applied}
    (hfound : s.objects.get? name = some found)
    (h : Exec MemoryStore.unreliable (annotate name key value) s (.ok a) s') :
    (s' = s ∧ (Resource.metadata found).annotation? key = some value) ∨
      MemoryStore.Written (Resource.mapMetadata (·.annotate key value) found) s s' := by
  obtain ⟨answer, v, hget, hrest⟩ := exec_bind_ok h
  obtain ⟨rfl, hanswer⟩ := exec_get hget
  obtain rfl := (hanswer answer rfl).trans hfound
  dsimp only at hrest
  split at hrest
  · rename_i hsame
    exact .inl ⟨(exec_pure.1 hrest).2, hsame⟩
  · rcases exec_write exec_update hrest with ⟨-, e, he⟩ | hwritten
    · cases he
    · exact .inr hwritten

end Store

namespace MemoryStore

variable {s s' : MemoryStore Cluster} {name : String} {patch : Json} {found patched : Cluster}

/-- The cluster is as the patch makes it, as some version. -/
theorem Patched.content_eq (h : s.Patched name patch s') (hfound : s.objects.get? name = some found)
    (hpatched : found.patched? patch = some patched) :
    s'.content name = some (Resource.unversioned patched) := by
  rcases h with rfl | ⟨found', hfound', hsame, rfl⟩
  · unfold servePatch content
    rw [hfound]
    dsimp only
    rw [hpatched]
    dsimp only
    split
    · rename_i heq
      rw [hfound, heq, Option.map_some]
    · rw [get?_put_self, Option.map_some, Resource.unversioned_withVersion]
  · obtain rfl := Option.some.inj (hfound.symm.trans hfound')
    obtain rfl := Option.some.inj (hpatched.symm.trans hsame)
    unfold content
    rw [get?_put_self, Option.map_some, Resource.unversioned_withVersion]

/-- A patch that makes no difference leaves the content as it is. -/
theorem Patched.sameContent (h : s.Patched name patch s')
    (hfound : s.objects.get? name = some found)
    (hpatched : found.patched? patch = some found) : s'.SameContent s := by
  rcases h with rfl | ⟨found', hfound', -, rfl⟩
  · unfold servePatch
    rw [hfound]
    dsimp only
    rw [hpatched]
    dsimp only
    rw [if_pos rfl]
    exact .refl _
  · obtain rfl := Option.some.inj (hfound.symm.trans hfound')
    exact sameContent_put hfound

theorem exists_of_content_eq {K : Type} [Resource K] {s : MemoryStore K} {name : String} {o : K}
    (h : s.content name = some (Resource.unversioned o)) :
    ∃ d, s.objects.get? name = some d ∧ Resource.unversioned d = Resource.unversioned o :=
  Option.map_eq_some_iff.1 h

end MemoryStore

namespace Cluster

variable {c d : Cluster}

theorem patched?_toJson_self {s : ClusterStatus} (h : c.status = some s) :
    c.patched? s.toJson = some c := by
  rw [patched?_toJson, ← h]

theorem patched?_phasePatch_self {s : ClusterStatus} {phase : Phase} {message : String}
    (hstatus : c.status = some s) (hphase : s.phase = phase) (hmessage : s.message = some message) :
    c.patched? (phasePatch phase (some message)) = some c := by
  obtain ⟨metadata, spec, status⟩ := c
  obtain ⟨_, _, _, _, _, _⟩ := s
  subst hstatus hphase hmessage
  exact patched?_phasePatch _ _ _

theorem patched?_self_congr {patch : Json} (hstatus : d.status = c.status)
    (h : c.patched? patch = some c) : d.patched? patch = some d := by
  unfold patched? at h ⊢
  obtain ⟨s, hs, hc⟩ := Option.map_eq_some_iff.1 h
  have hsome : d.status = some s := hstatus.trans (congrArg status hc).symm
  rw [hstatus, hs, Option.map_some, ← hsome]

end Cluster

namespace PassWorld

variable {o : Outlook} {c d : Cluster} {settings : Settings} {w w' v v' : PassWorld} {α β : Type}

/-- What a pass that succeeds has made of the cluster itself. -/
structure Rested (o : Outlook) (c : Cluster) (w : PassWorld) (d : Cluster) : Prop where
  identity : d.identity = c.identity
  finalizer : d.metadata.hasFinalizer
  waiting : ¬ Ready o c w → ∃ s, d.status = some s ∧ s.phase = .pending ∧
    s.message = some Cluster.waitingMessage
  shown : Ready o c w → d.status = some (shownStatus o c w (w.perPod c))
  recorded : Ready o c w → (shownStatus o c w (w.perPod c)).phase = .running →
    d.metadata.annotation? Names.lastSpecAnnotation = some c.specText

theorem exec_addFinalizer (hlive : c.metadata.isDeleted = false)
    (hstored : w.clusters.objects.get? (Resource.anyName c) = some c) {added : Bool}
    (h : Exec (environment .unreliable o) (within (Store.addFinalizer c)) w (.ok added) w') :
    ∃ d, w'.clusters.objects.get? (Resource.anyName c) = some d ∧ d.identity = c.identity ∧
      d.metadata.hasFinalizer := by
  obtain ⟨s, hs, rfl⟩ := exec_within.1 h
  rcases Store.exec_addFinalizer_ok hlive hs with ⟨rfl, hfinalizer⟩ | hwritten
  · exact ⟨c, hstored, rfl, hfinalizer⟩
  · obtain ⟨version, hself⟩ := hwritten.get?_self
    exact ⟨_, hself, rfl, c.metadata.hasFinalizer_addFinalizer⟩

/-- A cluster whose status has been patched is the same but for the status. -/
theorem exists_patched {s : MemoryStore Cluster} {name : String} {patch : Json}
    {status : ClusterStatus} (hd : w.clusters.objects.get? name = some d)
    (h : w.clusters.Patched name patch s)
    (hpatched : d.patched? patch = some { d with status := some status }) :
    ∃ e, s.objects.get? name = some e ∧ e.identity = d.identity ∧
      e.metadata.hasFinalizer = d.metadata.hasFinalizer ∧ e.status = some status := by
  obtain ⟨e, he, hsame⟩ := MemoryStore.exists_of_content_eq (h.content_eq hd hpatched)
  have hidentity := congrArg Cluster.identity hsame
  have hfinalizer := congrArg (fun c : Cluster => c.metadata.hasFinalizer) hsame
  have hstatus := congrArg Cluster.status hsame
  exact ⟨e, he, hidentity, hfinalizer, hstatus⟩

/-- A pass that settles leaves the status that it has seen, and the specification on record if the
cluster is running. -/
theorem exec_settle_cluster {services : List (Option Service)} {n : Next}
    (h : Exec (environment .unreliable o) (c.settle services) w (.ok n) w')
    (hd : w.clusters.objects.get? (Resource.anyName c) = some d)
    (hidentity : d.identity = c.identity) :
    ∃ e, w'.clusters.objects.get? (Resource.anyName c) = some e ∧ e.identity = d.identity ∧
      e.metadata.hasFinalizer = d.metadata.hasFinalizer ∧
      e.status = some (shownStatus o c w services) ∧
      ((shownStatus o c w services).phase = .running →
        e.metadata.annotation? Names.lastSpecAnnotation = some c.specText) := by
  obtain ⟨clusters, registry, rfl, hsettled⟩ := exec_settle rfl h
  obtain ⟨patched, hpatched, hrecorded⟩ := hsettled n rfl
  obtain ⟨e, he, hsame, hfinalizer, hstatus⟩ := exists_patched hd hpatched (d.patched?_toJson _)
  split at hrecorded
  · obtain ⟨a, hannotate⟩ := hrecorded
    rcases Store.exec_annotate_ok he hannotate with ⟨rfl, hannotation⟩ | hwritten
    · exact ⟨e, he, hsame, hfinalizer, hstatus, fun _ => hannotation⟩
    · obtain ⟨version, hself⟩ := hwritten.get?_self
      have hanyName : Resource.anyName (Resource.mapMetadata
          (·.annotate Names.lastSpecAnnotation c.specText) e) = Resource.anyName c :=
        Cluster.congr_of_identity (f := Resource.anyName) (fun _ => rfl) (hsame.trans hidentity)
      rw [hanyName] at hself
      exact ⟨_, hself, hsame, hfinalizer, hstatus,
        fun _ => e.metadata.annotation?_annotate _ _⟩
  · rename_i hphase
    subst hrecorded
    exact ⟨e, he, hsame, hfinalizer, hstatus, fun hrunning => absurd hrunning hphase⟩

/-- When the services are in line the cluster carries the finalizer. -/
theorem exists_held (hlive : c.metadata.isDeleted = false)
    (hstored : w.clusters.objects.get? (Resource.anyName c) = some c)
    {perPod : List (Option Service)} {u : PassWorld}
    (hprepare : Exec (environment .unreliable o) (c.prepare settings) w (.ok ()) u)
    (hservices : Exec (environment .unreliable o) c.applyServices u (.ok perPod) v) :
    ∃ d, v.clusters.objects.get? (Resource.anyName c) = some d ∧ d.identity = c.identity ∧
      d.metadata.hasFinalizer := by
  rcases exec_prepare hprepare with ⟨-, e, he⟩ | ⟨-, _, x, hfinalizer, hrights⟩
  · cases he
  obtain ⟨d, hd, hheld⟩ := exec_addFinalizer hlive hstored hfinalizer
  obtain ⟨roles, accounts, bindings, rfl, -⟩ := exec_applyRbac hrights
  obtain ⟨services, rfl, -⟩ := exec_applyServices hservices
  exact ⟨d, hd, hheld⟩

theorem exec_reconcile_cluster (hlive : c.metadata.isDeleted = false)
    (hstored : w.clusters.objects.get? (Resource.anyName c) = some c) {n : Next}
    (h : Exec (environment .unreliable o) (c.reconcile settings) w (.ok n) w') :
    ∃ d, w'.clusters.objects.get? (Resource.anyName c) = some d ∧ Rested o c w' d := by
  cases Cluster.passCourse_of_exec h with
  | finalized hdeleted => exact absurd hdeleted (ne_true_of_eq_false hlive)
  | waiting _ hprepare hservices hplace =>
    obtain ⟨d, hd, hidentity, hfinalizer⟩ := exists_held hlive hstored hprepare hservices
    obtain ⟨-, -, rfl⟩ := equipped_of_exec hprepare hservices
    rcases exec_place hplace with ⟨clusters, rfl, hwaiting⟩ | ⟨-, _, _, -, -, -, hall⟩
    · obtain ⟨-, hunready, hpatched⟩ := hwaiting false rfl
      obtain ⟨e, he, hsame, hkept, hstatus⟩ :=
        exists_patched hd hpatched (d.patched?_phasePatch _ _)
      have hunready : ∀ {P : Prop}, reachable o c _ = true → P := fun hready =>
        Bool.noConfusion (hready.symm.trans hunready)
      exact ⟨e, he, hsame.trans hidentity, hkept.trans hfinalizer,
        fun _ => ⟨_, hstatus, rfl, rfl⟩, hunready, hunready⟩
    · cases (hall false rfl).1
  | settled _ hprepare hservices hplace hsettle =>
    obtain ⟨d, hd, hidentity, hfinalizer⟩ := exists_held hlive hstored hprepare hservices
    obtain ⟨-, -, rfl⟩ := equipped_of_exec hprepare hservices
    rcases exec_place hplace with ⟨_, rfl, hwaiting⟩ | ⟨hready, _, _, rfl, -⟩
    · cases (hwaiting true rfl).1
    · obtain ⟨e, he, hsame, hkept, hstatus, hrecorded⟩ := exec_settle_cluster hsettle hd hidentity
      obtain ⟨_, _, rfl, -⟩ := exec_settle rfl hsettle
      exact ⟨e, he, hsame.trans hidentity, hkept.trans hfinalizer,
        fun hwaiting => absurd hready hwaiting, fun _ => hstatus, fun _ => hrecorded⟩

/-! ## Work that writes nothing -/

/-- Whether the objects are the same, and those of the clusters are but for their versions. -/
def Alike (w v : PassWorld) : Prop := objects v = objects w ∧ v.clusters.SameContent w.clusters

theorem Alike.refl (w : PassWorld) : Alike w w := ⟨rfl, .refl _⟩

theorem Alike.exists_get? (h : Alike w v) {name : String}
    (hd : w.clusters.objects.get? name = some d) :
    ∃ found, v.clusters.objects.get? name = some found ∧
      Resource.unversioned found = Resource.unversioned d := by
  refine MemoryStore.exists_of_content_eq ((h.2 name).trans ?_)
  rw [MemoryStore.content, hd, Option.map_some]

/-- Where nothing is written all objects stay as they are. -/
theorem alike_of_still {p : ClusterPass α} {r : Except Error α}
    (h : Exec (environment .still o) p v r v') (hv : Alike w v) : Alike w v' := by
  refine h.preserves (P := Alike w) ?_ hv
  rintro call u answer u' hcall ⟨hobjects, hclusters⟩
  cases call with
  | patchStatus name patch =>
    obtain ⟨s, ⟨-, hs⟩, rfl⟩ := hcall
    exact ⟨hobjects, hs.trans hclusters⟩
  | listMaps | listPods | resolves | memberState =>
    obtain ⟨-, rfl⟩ := hcall
    exact ⟨hobjects, hclusters⟩
  | client | release =>
    rw [hcall.2]
    exact ⟨hobjects, hclusters⟩
  | manage =>
    rw [show u' = u from hcall]
    exact ⟨hobjects, hclusters⟩
  | _ =>
    obtain ⟨s, ⟨-, -, rfl⟩, rfl⟩ := hcall
    exact ⟨hobjects, hclusters⟩

/-- Whether a pass writes nothing, wherever it starts that is alike, and a result is as `Q` says. -/
def Rests (o : Outlook) (w : PassWorld) (p : ClusterPass α) (Q : α → Prop) : Prop :=
  ∀ ⦃v : PassWorld⦄ ⦃r : Except Error α⦄ ⦃v' : PassWorld⦄, Alike w v →
    Exec (environment .unreliable o) p v r v' →
      Exec (environment .still o) p v r v' ∧ ∀ a, r = .ok a → Q a

variable {Q : α → Prop} {R : β → Prop}

theorem rests_pure {a : α} (ha : Q a) : Rests o w (pure a) Q := by
  intro v r v' _ h
  obtain ⟨rfl, rfl⟩ := exec_pure.1 h
  exact ⟨exec_pure.2 ⟨rfl, rfl⟩, fun b hb => Except.ok.inj hb ▸ ha⟩

theorem rests_bind {p : ClusterPass α} {f : α → ClusterPass β} (hp : Rests o w p Q)
    (hf : ∀ a, Q a → Rests o w (f a) R) : Rests o w (p >>= f) R := by
  intro v r v' hv h
  rcases exec_bind_cases h with ⟨e, rfl, hfirst⟩ | ⟨a, u, hfirst, hrest⟩
  · obtain ⟨hstill, -⟩ := hp hv hfirst
    exact ⟨exec_bind.2 ⟨_, _, hstill, rfl, rfl⟩, nofun⟩
  · obtain ⟨hstill, ha⟩ := hp hv hfirst
    obtain ⟨hrest, hr⟩ := hf a (ha a rfl) (alike_of_still hstill hv) hrest
    exact ⟨exec_bind.2 ⟨_, _, hstill, hrest⟩, hr⟩

theorem rests_of_shows {p : ClusterPass α} {a : α} (h : ∀ v, Alike w v → Shows o v p a) :
    Rests o w p (· = a) := fun v _ _ hv hexec =>
  have hshows := h v hv hexec
  ⟨hshows.1, hshows.2.2⟩

theorem rests_discard {p : ClusterPass α} {b : β} (hp : Rests o w p fun _ => True) (hb : R b) :
    Rests o w (p >>= fun _ => pure b) R :=
  rests_bind hp fun _ _ => rests_pure hb

end PassWorld

/-- Whether all that is brought in line has been so before, where stores answer in this manner. -/
def Manner.FindsInLine (m : Manner) : Prop :=
  ∀ ⦃K : Type⦄ [Resource K] ⦃template : K⦄ ⦃change : K → Except Error K⦄ ⦃s : MemoryStore K⦄
    ⦃a : Applied⦄ ⦃s' : MemoryStore K⦄,
    Exec m.call (Store.apply template change) s (.ok a) s' → a = .unchanged

namespace Store

variable {K : Type} [Resource K] {s s' : MemoryStore K}

theorem still_get {name : String} {r : Except Error (Option K)}
    (h : Exec MemoryStore.unreliable (get name) s r s') :
    Exec Manner.still.call (get name) s r s' :=
  Script.exec_call.2 ⟨Script.exec_call.1 h, nofun, (exec_get h).1⟩

/-- An object in line is not written. -/
theorem still_apply {template : K} {change : K → Except Error K}
    (hreached : (Goal.bring template change).Reached (s.objects.get? (Resource.anyName template)))
    {r : Except Error Applied}
    (h : Exec MemoryStore.unreliable (apply template change) s r s') :
    Exec Manner.still.call (apply template change) s r s' := by
  obtain ⟨found, changed, hfound, hchanged, hsame⟩ := hreached
  rcases exec_bind_cases h with ⟨e, rfl, hget⟩ | ⟨answer, v, hget, hrest⟩
  · exact exec_bind.2 ⟨_, _, still_get hget, rfl, rfl⟩
  · refine exec_bind.2 ⟨_, _, still_get hget, ?_⟩
    obtain ⟨rfl, hanswer⟩ := exec_get hget
    obtain rfl := (hanswer answer rfl).trans hfound
    dsimp only at hrest ⊢
    rw [hchanged] at hrest ⊢
    replace hrest := exec_ok_bind.1 hrest
    refine exec_ok_bind.2 ?_
    cases hname : checkName (Resource.anyName template) changed with
    | error e =>
      rw [hname] at hrest
      exact hrest
    | ok =>
      rw [hname, if_pos hsame] at hrest
      rw [if_pos hsame]
      exact hrest

/-- Where nothing is written, what is brought in line has been so before. -/
theorem findsInLine_still : Manner.still.FindsInLine := by
  intro K _ template change s a s' h
  obtain ⟨found, v, -, h₁⟩ := exec_bind_ok h
  cases found with
  | none =>
    obtain ⟨made, _, -, h₂⟩ := exec_bind_ok h₁
    obtain ⟨_, _, -, h₃⟩ := exec_bind_ok h₂
    obtain ⟨_, _, hcreate, -⟩ := exec_bind_ok h₃
    exact absurd trivial (Script.exec_call.1 hcreate).2.1
  | some found =>
    obtain ⟨changed, _, -, h₂⟩ := exec_bind_ok h₁
    obtain ⟨_, _, -, h₃⟩ := exec_bind_ok h₂
    split at h₃
    · exact Except.ok.inj (exec_pure.1 h₃).1
    · obtain ⟨_, _, hupdate, -⟩ := exec_bind_ok h₃
      exact absurd trivial (Script.exec_call.1 hupdate).2.1

/-- A name that is not there is deleted without a difference. -/
theorem still_delete {name : String} (hnone : s.objects.get? name = none) {r : Except Error Bool}
    (h : Exec MemoryStore.unreliable (delete (K := K) name) s r s') :
    Exec Manner.still.call (delete (K := K) name) s r s' := by
  have hcall := Script.exec_call.1 h
  refine Script.exec_call.2 ⟨hcall, nofun, ?_⟩
  have herase : ({ s with objects := s.objects.erase name } : MemoryStore K) = s := by
    rw [Table.erase_of_get?_eq_none hnone]
  rcases hcall with ⟨-, rfl⟩ | ⟨e, -, rfl | rfl⟩
  · exact herase
  · rfl
  · exact herase

theorem still_annotate {name key value : String}
    (h : ∀ found, s.objects.get? name = some found →
      (Resource.metadata found).annotation? key = some value) {r : Except Error Applied}
    (hexec : Exec MemoryStore.unreliable (annotate (K := K) name key value) s r s') :
    Exec Manner.still.call (annotate (K := K) name key value) s r s' := by
  rcases exec_bind_cases hexec with ⟨e, rfl, hget⟩ | ⟨answer, v, hget, hrest⟩
  · exact exec_bind.2 ⟨_, _, still_get hget, rfl, rfl⟩
  · refine exec_bind.2 ⟨_, _, still_get hget, ?_⟩
    obtain ⟨rfl, hanswer⟩ := exec_get hget
    cases answer with
    | none => exact hrest
    | some found =>
      dsimp only at hrest ⊢
      have hsame := h found (hanswer _ rfl).symm
      rw [if_pos hsame] at hrest ⊢
      exact hrest

end Store

/-! ## A second pass -/

namespace PassWorld

variable {o : Outlook} {c d : Cluster} {settings : Settings} {w w' v v' : PassWorld} {α β : Type}

section

variable {K : Type} [Resource K] [Reachable K] [Part K]

theorem rests_apply {template : K} {change : K → Except Error K}
    (hreached : (Goal.bring template change).Reached
      ((Stocked.stock w).objects.get? (Resource.anyName template))) :
    Rests o w (within (Store.apply template change)) fun _ => True := by
  intro v r v' hv h
  obtain ⟨s, hs, rfl⟩ := exec_within.1 h
  refine ⟨exec_within.2 ⟨s, Store.still_apply ?_ hs, rfl⟩, fun _ _ => trivial⟩
  rwa [stock_congr hv.1]

theorem rests_delete {name : String}
    (hnone : (Stocked.stock w : MemoryStore K).objects.get? name = none) :
    Rests o w (within (Store.delete (K := K) name)) fun _ => True := by
  intro v r v' hv h
  obtain ⟨s, hs, rfl⟩ := exec_within.1 h
  refine ⟨exec_within.2 ⟨s, Store.still_delete ?_ hs, rfl⟩, fun _ _ => trivial⟩
  rwa [stock_congr hv.1]

theorem rests_get (name : String) : Rests o w (within (Store.get (K := K) name))
    (· = (Stocked.stock w).objects.get? name) :=
  rests_of_shows fun v hv => by
    rw [← stock_congr hv.1]
    exact shows_get name

end

theorem rests_inLine {K : Type} [Resource K] [Reachable K] [Part K] {template : K}
    {change : K → Except Error K}
    (h : Settled [Goal.inLine template change] (Stocked.stock w)) :
    Rests o w (within (Store.apply template change)) fun _ => True :=
  rests_apply (h.reached (List.nodup_singleton _) (List.mem_singleton_self _))

theorem rests_applyRbac (hroles : Settled (c.roleGoals settings.platform) w.roles)
    (haccounts : Settled c.accountGoals w.accounts)
    (hbindings : Settled c.bindingGoals w.bindings) :
    Rests o w (c.applyRbac settings.platform) fun _ => True :=
  rests_bind (rests_inLine hroles) fun _ _ => rests_bind (rests_inLine haccounts) fun _ _ =>
    rests_discard (rests_inLine hbindings) trivial

theorem rests_applyPerPodServices {desired : List Service}
    (h : ∀ s ∈ desired, (Goal.bring s fun found => .ok (found.syncPerPod s)).Reached
      (w.services.objects.get? (Resource.anyName s))) :
    Rests o w (Cluster.applyPerPodServices desired) fun _ => True := by
  induction desired with
  | nil => exact rests_pure trivial
  | cons s rest ih =>
    obtain ⟨hs, hrest⟩ := List.forall_mem_cons.1 h
    exact rests_bind (rests_apply hs) fun _ _ => ih hrest

theorem rests_removePerPodServices {indices : List Nat}
    (h : ∀ i ∈ indices, w.services.objects.get? (c.podName i) = none) :
    Rests o w (c.removePerPodServices indices) fun _ => True := by
  induction indices with
  | nil => exact rests_pure trivial
  | cons i rest ih =>
    obtain ⟨hi, hrest⟩ := List.forall_mem_cons.1 h
    exact rests_bind (rests_delete hi) fun _ _ => ih hrest

theorem rests_readServices (c : Cluster) :
    Rests o w (Cluster.readServices c.perPodServices) (· = w.perPod c) :=
  rests_of_shows fun v hv => by
    have hservices : v.services = w.services := stock_congr (K := Service) hv.1
    unfold perPod
    rw [← hservices]
    exact shows_readServices _

theorem rests_applyServices (h : Settled (c.serviceGoals (w.stale c)) w.services) :
    Rests o w c.applyServices (· = w.perPod c) := by
  have hnodup := c.nodup_serviceGoals_stale w.statefulSets
  have hdiscovery := h.reached hnodup (c.discovery_mem_serviceGoals _)
  have hmembers : ∀ s ∈ c.perPodServices,
      (Goal.bring s fun found => .ok (found.syncPerPod s)).Reached
        (w.services.objects.get? (Resource.anyName s)) := fun s hs =>
    h.reached hnodup (List.mem_append_right _ (List.mem_append_left _
      (List.mem_map_of_mem (f := fun d => Goal.inLine d fun found => .ok (found.syncPerPod d)) hs)))
  have hstale : ∀ i ∈ w.stale c, w.services.objects.get? (c.podName i) = none := fun i hi =>
    h.reached hnodup (Cluster.remove_mem_serviceGoals hi)
  refine rests_bind (rests_apply hdiscovery) fun _ _ =>
    rests_bind (rests_applyPerPodServices hmembers) fun _ _ =>
      rests_bind (rests_get _) fun found hfound => ?_
  subst hfound
  exact rests_bind (rests_removePerPodServices hstale) fun _ _ => rests_readServices c

theorem rests_patchStatus {patch : Json} {name : String}
    (hstored : w.clusters.objects.get? name = some d) (h : d.patched? patch = some d) :
    Rests o w (ClusterPass.patchStatus name patch) fun _ => True := by
  intro v r v' hv hexec
  obtain ⟨s, hs, rfl⟩ := Script.exec_call.1 hexec
  refine ⟨Script.exec_call.2 ⟨s, ⟨hs, ?_⟩, rfl⟩, fun _ _ => trivial⟩
  obtain ⟨found, hfound, hsame⟩ := hv.exists_get? hstored
  have hstatus := congrArg Cluster.status hsame
  have hpatched := Cluster.patched?_self_congr (c := d) (d := found) hstatus h
  rcases hs with ⟨-, hs⟩ | ⟨e, -, rfl | hs⟩
  · exact hs.sameContent hfound hpatched
  · exact .refl _
  · exact hs.sameContent hfound hpatched

theorem rests_annotate {name key value : String}
    (hstored : w.clusters.objects.get? name = some d)
    (h : d.metadata.annotation? key = some value) :
    Rests o w (within (Store.annotate (K := Cluster) name key value)) fun _ => True := by
  intro v r v' hv hexec
  obtain ⟨s, hs, rfl⟩ := exec_within.1 hexec
  obtain ⟨found, hfound, hsame⟩ := hv.exists_get? hstored
  refine ⟨exec_within.2 ⟨s, Store.still_annotate (fun other hother => ?_) hs, rfl⟩,
    fun _ _ => trivial⟩
  obtain rfl := Option.some.inj (hfound.symm.trans hother)
  exact (congrArg (fun d : Cluster => d.metadata.annotation? key) hsame).trans h

theorem rests_addFinalizer (h : d.metadata.hasFinalizer) :
    Rests o w (within (Store.addFinalizer d)) (· = false) := by
  have hpure : Store.addFinalizer d = pure false := if_pos (by rw [Bool.or_eq_true]; exact .inl h)
  rw [hpure]
  exact rests_pure rfl

theorem rests_prepare (hcheck : d.check = .ok ()) (hfinalizer : d.metadata.hasFinalizer)
    (hroles : Settled (d.roleGoals settings.platform) w.roles)
    (haccounts : Settled d.accountGoals w.accounts)
    (hbindings : Settled d.bindingGoals w.bindings) :
    Rests o w (d.prepare settings) fun _ => True := by
  refine rests_bind (rests_addFinalizer hfinalizer) fun _ _ => rests_bind (Q := fun _ => True) ?_
    fun _ _ => rests_applyRbac hroles haccounts hbindings
  unfold Cluster.refuseInvalid
  rw [hcheck]
  exact rests_pure trivial

theorem rests_applyConfigMap (h : Settled (d.configGoals o.maps) w.configMaps) :
    Rests o w d.applyConfigMap fun _ => True := by
  refine rests_bind (rests_of_shows fun _ _ => shows_listMaps) fun maps hmaps => ?_
  subst hmaps
  exact rests_discard (rests_inLine h) trivial

theorem rests_applyStatefulSet {desired : StatefulSet}
    (hdesired : d.newStatefulSet? settings = .ok desired)
    (h : Settled (d.statefulSetGoals settings) w.statefulSets) :
    Rests o w (d.applyStatefulSet settings) fun _ => True := by
  rw [Cluster.statefulSetGoals_of_ok hdesired] at h
  have hrests := rests_discard (o := o) (R := fun _ : Unit => True) (b := ()) (rests_inLine h)
    trivial
  unfold Cluster.applyStatefulSet
  rw [hdesired]
  exact hrests

theorem rests_place {services : List (Option Service)}
    (hwaiting : reachable o d services = false → ∃ s, d.status = some s ∧ s.phase = .pending ∧
      s.message = some Cluster.waitingMessage)
    (hstored : w.clusters.objects.get? (Resource.anyName d) = some d)
    (hplaced : reachable o d services = true → Settled (d.configGoals o.maps) w.configMaps ∧
      Settled (d.statefulSetGoals settings) w.statefulSets ∧
      ∃ desired, d.newStatefulSet? settings = .ok desired) :
    Rests o w (d.place settings services) (· = reachable o d services) := by
  refine rests_bind (rests_of_shows fun _ _ => shows_perPodReady services) fun ready hready => ?_
  subst hready
  cases hreachable : reachable o d services with
  | false =>
    obtain ⟨s, hstatus, hphase, hmessage⟩ := hwaiting hreachable
    exact rests_discard
      (rests_patchStatus hstored (Cluster.patched?_phasePatch_self hstatus hphase hmessage)) rfl
  | true =>
    obtain ⟨hconfig, hset, desired, hdesired⟩ := hplaced hreachable
    exact rests_bind (rests_applyConfigMap hconfig) fun _ _ =>
      rests_discard (rests_applyStatefulSet hdesired hset) rfl

theorem rests_observe (services : List (Option Service)) :
    Rests o w (d.observe services) (· = shownStatus o d w services) :=
  rests_of_shows fun v hv => by
    have hservices : v.services = w.services := stock_congr (K := Service) hv.1
    unfold shownStatus
    rw [← hservices]
    exact shows_observe services

theorem rests_client (c : Cluster) : Rests o w (ClusterPass.client c) fun _ => True :=
  fun _ _ _ _ h => ⟨h, fun _ _ => trivial⟩

theorem rests_command {client : Client} (p : Pass management α) :
    Rests o w (ClusterPass.command client p) fun _ => True :=
  fun _ _ _ _ h =>
    have hstill := (exec_embed.1 h).mono (P := fun _ => True)
      (fun _ _ _ _ _ hcall => ⟨hcall, trivial⟩) trivial
    ⟨exec_embed.2 hstill.1, fun _ _ => trivial⟩

theorem rests_settle {services : List (Option Service)}
    (hstored : w.clusters.objects.get? (Resource.anyName d) = some d)
    (hstatus : d.status = some (shownStatus o d w services))
    (hrecorded : (shownStatus o d w services).phase = .running →
      d.metadata.annotation? Names.lastSpecAnnotation = some d.specText) :
    Rests o w (d.settle services) fun _ => True := by
  refine rests_bind (rests_observe services) fun status hseen => ?_
  subst hseen
  refine rests_bind (rests_patchStatus hstored (Cluster.patched?_toJson_self hstatus)) fun _ _ =>
    rests_bind (rests_client _) fun client _ => rests_bind (rests_command _) fun _ _ =>
      rests_bind (rests_command _) fun _ _ => ?_
  split
  · rename_i hrunning
    exact rests_discard (rests_annotate hstored (hrecorded hrunning)) trivial
  · exact rests_pure trivial

/-! ## The end of a pass -/

theorem rested_identity : Rested o c.identity w d ↔ Rested o c w d :=
  ⟨fun h => ⟨h.identity, h.finalizer, h.waiting, h.shown, h.recorded⟩,
    fun h => ⟨h.identity, h.finalizer, h.waiting, h.shown, h.recorded⟩⟩

theorem Rested.self (h : Rested o c w d) : Rested o d w d :=
  rested_identity.1 (h.identity ▸ rested_identity.2 h)

theorem Completed.settled_services (h : Completed o c settings w w')
    (hname : c.metadata.name = some c.name) :
    Settled (c.serviceGoals (w'.stale c)) w'.services := by
  have hpart : Partly (c.statefulSetGoals settings) w.statefulSets w'.statefulSets := by
    by_cases hready : Ready o c w'
    · exact (h.placed hready).2.1.partly
    · rw [(h.waiting hready).2]
      exact MemoryStore.partly_refl _ _
  exact PassWorld.settled_services hname h.services hpart

/-- Nothing is written where a pass over the cluster has got through before. -/
theorem rests_reconcile (hname : d.metadata.name = some d.name)
    (hlive : d.metadata.isDeleted = false) (hcheck : d.check = .ok ())
    (hstored : w'.clusters.objects.get? (Resource.anyName d) = some d)
    (h : Completed o d settings w w') (hd : Rested o d w' d) :
    Rests o w' (d.reconcile settings) fun _ => True := by
  rw [Cluster.reconcile_eq hlive]
  refine rests_bind (rests_prepare hcheck hd.finalizer
    (h.roles.settled (d.lasting_roleGoals _)) (h.accounts.settled d.lasting_accountGoals)
    (h.bindings.settled d.lasting_bindingGoals)) fun _ _ =>
      rests_bind (rests_applyServices (h.settled_services hname)) fun perPod hperPod => ?_
  subst hperPod
  refine rests_bind (rests_place (fun hwaiting => hd.waiting fun hready =>
    Bool.noConfusion (hready.symm.trans hwaiting)) hstored fun hready => ?_)
      fun placed hplaced => ?_
  · obtain ⟨hconfig, hset, hdesired⟩ := h.placed hready
    exact ⟨hconfig.settled (d.lasting_configGoals _), hset.settled (d.lasting_statefulSetGoals _),
      hdesired⟩
  · split
    · rename_i hready
      rw [hplaced] at hready
      exact rests_settle hstored (hd.shown hready) (hd.recorded hready)
    · exact rests_pure trivial

/-- After a pass that succeeds, while nothing else changes, a pass over the cluster as it is stored
then creates and replaces nothing, finds all that it brings in line as it is to be, and leaves all
objects as they are, but for a version of the cluster. -/
theorem reconcile_still (hname : c.metadata.name = some c.name)
    (hlive : c.metadata.isDeleted = false)
    (hstored : w.clusters.objects.get? (Resource.anyName c) = some c) {n : Next}
    (h : Exec (environment .unreliable o) (c.reconcile settings) w (.ok n) w') :
    Manner.still.FindsInLine ∧ ∃ d, w'.clusters.objects.get? (Resource.anyName c) = some d ∧
      ∀ r v, Exec (environment .unreliable o) (d.reconcile settings) w' r v →
        Exec (environment .still o) (d.reconcile settings) w' r v ∧ Alike w' v := by
  obtain ⟨d, hd, hrested⟩ := exec_reconcile_cluster hlive hstored h
  obtain ⟨hcheck, hcompleted⟩ := (exec_reconcile hlive h).2 n rfl
  have hidentity := hrested.identity
  have hanyName : Resource.anyName d = Resource.anyName c :=
    Cluster.congr_of_identity (f := Resource.anyName) (fun _ => rfl) hidentity
  have hrests := rests_reconcile (Cluster.named_of_identity hname hidentity)
    ((Cluster.isDeleted_congr hidentity).trans hlive) ((Cluster.check_congr hidentity).trans hcheck)
    (hanyName ▸ hd) (hcompleted.congr hidentity.symm) hrested.self
  refine ⟨Store.findsInLine_still, d, hd, fun r v hagain => ?_⟩
  have hstill := (hrests (.refl w') hagain).1
  exact ⟨hstill, alike_of_still hstill (.refl w')⟩

/-- The pass after the first one over a cluster. -/
theorem reconcile_still_single : ∃ n w' d,
    Exec (environment .unreliable {}) (single.reconcile {}) singleStored (.ok n) w' ∧
    w'.clusters.objects.get? "hz" = some d ∧
    ∃ r v, Exec (environment .still {}) (d.reconcile {}) w' r v ∧ Alike w' v := by
  have hstored : singleStored.clusters.objects.get? (Resource.anyName single) = some single := by
    rfl
  obtain ⟨n, w', h⟩ : ∃ n w', Exec (environment .reliable {}) (single.reconcile {}) singleStored
    (.ok n) w' := exists_exec_of_isOk (by decide +kernel)
  have h := exec_of_reliable h
  obtain ⟨-, d, hd, hagain⟩ := reconcile_still (c := single) (w := singleStored) rfl rfl hstored h
  exact ⟨n, w', d, h, hd, _, _, hagain _ _ (exec_of_reliable (exec_serve (d.reconcile {}) w'))⟩

end PassWorld

end GridOperator
