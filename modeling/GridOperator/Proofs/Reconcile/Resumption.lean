import GridOperator.Proofs.Reconcile.Placement
import GridOperator.Proofs.Reconcile.Progress

/-!
# Passes that are begun anew

A pass comes to the configuration and to the stateful set only after all services,
and only if these can be reached: `Advanced` is what holds wherever it ends, and
`Completed` what holds when it has got through. The stateful set tells of the services
that are left over, but once it is written none are.
-/

namespace GridOperator

open Kubernetes Pass
open ClusterPass (within Reachable)
open MemoryStore (SameContent Partly Wholly Settled partly_refl)

namespace PassWorld

variable {o : Outlook} {c d : Cluster} {settings : Settings} {w w₁ w₂ w' : PassWorld} {α β : Type}

/-- Whether the services of the members can be reached. -/
def Ready (o : Outlook) (c : Cluster) (w : PassWorld) : Prop := reachable o c (w.perPod c) = true

/-- What holds wherever a pass ends. -/
structure Advanced (o : Outlook) (c : Cluster) (settings : Settings) (w w' : PassWorld) :
    Prop where
  roles : Partly (c.roleGoals settings.platform) w.roles w'.roles
  accounts : Partly c.accountGoals w.accounts w'.accounts
  bindings : Partly c.bindingGoals w.bindings w'.bindings
  services : Partly (c.serviceGoals (w.stale c)) w.services w'.services
  placed : (w'.configMaps = w.configMaps ∧ w'.statefulSets = w.statefulSets) ∨
    (Wholly (c.serviceGoals (w.stale c)) w.services w'.services ∧ Ready o c w' ∧
      Partly (c.configGoals o.maps) w.configMaps w'.configMaps ∧
      Partly (c.statefulSetGoals settings) w.statefulSets w'.statefulSets)

/-- What holds when a pass has got through. -/
structure Completed (o : Outlook) (c : Cluster) (settings : Settings) (w w' : PassWorld) :
    Prop where
  roles : Wholly (c.roleGoals settings.platform) w.roles w'.roles
  accounts : Wholly c.accountGoals w.accounts w'.accounts
  bindings : Wholly c.bindingGoals w.bindings w'.bindings
  services : Wholly (c.serviceGoals (w.stale c)) w.services w'.services
  waiting : ¬ Ready o c w' → w'.configMaps = w.configMaps ∧ w'.statefulSets = w.statefulSets
  placed : Ready o c w' → Wholly (c.configGoals o.maps) w.configMaps w'.configMaps ∧
    Wholly (c.statefulSetGoals settings) w.statefulSets w'.statefulSets ∧
    ∃ desired, c.newStatefulSet? settings = .ok desired

/-! ## Where a pass may end -/

theorem exec_refuseInvalid {r : Except Error Unit}
    (h : Exec (environment .unreliable o) c.refuseInvalid w r w') :
    objects w' = objects w ∧ (r = .ok () → c.check = .ok () ∧ w' = w) := by
  refine ⟨keeps_refuseInvalid c h, ?_⟩
  rintro rfl
  unfold Cluster.refuseInvalid at h
  cases hcheck : c.check with
  | ok => exact ⟨rfl, (exec_pure.1 (hcheck ▸ h)).2⟩
  | error e =>
    rw [hcheck] at h
    obtain ⟨_, v, -, hrefuse⟩ := exec_bind_ok h
    cases (exec_ofExcept.1 hrefuse).1

/-- A pass may end before it comes to the rights. -/
theorem exec_prepare {r : Except Error Unit}
    (h : Exec (environment .unreliable o) (c.prepare settings) w r w') :
    (objects w' = objects w ∧ ∃ e, r = .error e) ∨ c.check = .ok () ∧ ∃ added v,
      Exec (environment .unreliable o) (within (Store.addFinalizer c)) w (.ok added) v ∧
      Exec (environment .unreliable o) (c.applyRbac settings.platform) v r w' := by
  rcases exec_bind_cases h with ⟨e, rfl, hfinalizer⟩ | ⟨_, v, hfinalizer, h₁⟩
  · exact .inl ⟨keeps_clusters _ hfinalizer, e, rfl⟩
  rcases exec_bind_cases h₁ with ⟨e, rfl, hrefuse⟩ | ⟨_, u, hrefuse, h₂⟩
  · exact .inl ⟨(exec_refuseInvalid hrefuse).1.trans (keeps_clusters _ hfinalizer), e, rfl⟩
  · obtain ⟨hcheck, rfl⟩ := (exec_refuseInvalid hrefuse).2 rfl
    exact .inr ⟨hcheck, _, u, hfinalizer, h₂⟩

/-- What holds when the services are in line. -/
structure Equipped (c : Cluster) (settings : Settings) (w w' : PassWorld) : Prop where
  roles : Wholly (c.roleGoals settings.platform) w.roles w'.roles
  accounts : Wholly c.accountGoals w.accounts w'.accounts
  bindings : Wholly c.bindingGoals w.bindings w'.bindings
  services : Wholly (c.serviceGoals (w.stale c)) w.services w'.services
  configMaps : w'.configMaps = w.configMaps
  statefulSets : w'.statefulSets = w.statefulSets

/-- A pass that has prepared has seen to the rights. -/
theorem exec_prepare_ok (h : Exec (environment .unreliable o) (c.prepare settings) w (.ok ()) w') :
    c.check = .ok () ∧ ∃ roles accounts bindings clusters registry,
      w' = { w with roles, accounts, bindings, clusters, registry } ∧
      Wholly (c.roleGoals settings.platform) w.roles roles ∧
      Wholly c.accountGoals w.accounts accounts ∧ Wholly c.bindingGoals w.bindings bindings := by
  rcases exec_prepare h with ⟨-, e, he⟩ | ⟨hcheck, _, u, hfinalizer, hrights⟩
  · cases he
  obtain ⟨clusters, registry, rfl⟩ := eq_of_objects (keeps_clusters _ hfinalizer)
  obtain ⟨roles, accounts, bindings, rfl, -, hall⟩ := exec_applyRbac hrights
  exact ⟨hcheck, roles, accounts, bindings, clusters, registry, rfl, hall () rfl⟩

theorem equipped_of_exec {perPod : List (Option Service)} {u : PassWorld}
    (hprepare : Exec (environment .unreliable o) (c.prepare settings) w (.ok ()) u)
    (hservices : Exec (environment .unreliable o) c.applyServices u (.ok perPod) w') :
    c.check = .ok () ∧ Equipped c settings w w' ∧ perPod = w'.perPod c := by
  obtain ⟨hcheck, _, _, _, _, _, rfl, hroles, haccounts, hbindings⟩ := exec_prepare_ok hprepare
  obtain ⟨services, rfl, -, hall⟩ := exec_applyServices hservices
  obtain ⟨hperPod, hservices⟩ := hall perPod rfl
  exact ⟨hcheck, ⟨hroles, haccounts, hbindings, hservices, rfl, rfl⟩, hperPod⟩

/-- After the services only the configuration and the stateful set are written. -/
theorem Equipped.place {u : PassWorld} (h : Equipped c settings w u) {r : Except Error Bool}
    (hplace : Exec (environment .unreliable o) (c.place settings (u.perPod c)) u r w') :
    Advanced o c settings w w' ∧ ∀ b, r = .ok b → Completed o c settings w w' := by
  have hpart := h.services.partly
  rcases exec_place hplace with ⟨clusters, rfl, hwaiting⟩ |
    ⟨hready, configMaps, statefulSets, rfl, hconfig, hset, hall⟩
  · refine ⟨⟨h.roles.partly, h.accounts.partly, h.bindings.partly, hpart,
      .inl ⟨h.configMaps, h.statefulSets⟩⟩, fun b hb => ?_⟩
    exact ⟨h.roles, h.accounts, h.bindings, h.services, fun _ => ⟨h.configMaps, h.statefulSets⟩,
      fun hready => Bool.noConfusion (hready.symm.trans (hwaiting b hb).2.1)⟩
  · rw [h.configMaps] at hconfig hall
    rw [h.statefulSets] at hset hall
    refine ⟨⟨h.roles.partly, h.accounts.partly, h.bindings.partly, hpart,
      .inr ⟨h.services, hready, hconfig, hset⟩⟩, fun b hb => ?_⟩
    exact ⟨h.roles, h.accounts, h.bindings, h.services, fun hwaiting => absurd hready hwaiting,
      fun _ => (hall b hb).2⟩

/-- What a pass does to the cluster itself at its end is of no account. -/
theorem Advanced.of_objects {v : PassWorld} (h : Advanced o c settings w v)
    (hobjects : objects w' = objects v) : Advanced o c settings w w' := by
  obtain ⟨_, _, rfl⟩ := eq_of_objects hobjects
  exact ⟨h.roles, h.accounts, h.bindings, h.services, h.placed⟩

theorem Completed.of_objects {v : PassWorld} (h : Completed o c settings w v)
    (hobjects : objects w' = objects v) : Completed o c settings w w' := by
  obtain ⟨_, _, rfl⟩ := eq_of_objects hobjects
  exact ⟨h.roles, h.accounts, h.bindings, h.services, h.waiting, h.placed⟩

/-- Wherever a pass ends it has advanced, and it has completed if it succeeds. -/
theorem exec_reconcile (hlive : c.metadata.isDeleted = false) {r : Except Error Next}
    (h : Exec (environment .unreliable o) (c.reconcile settings) w r w') :
    Advanced o c settings w w' ∧
      ∀ n, r = .ok n → c.check = .ok () ∧ Completed o c settings w w' := by
  cases Cluster.passCourse_of_exec h with
  | finalized hdeleted => exact absurd hdeleted (ne_true_of_eq_false hlive)
  | unprepared _ hprepare =>
    refine ⟨?_, nofun⟩
    rcases exec_prepare hprepare with ⟨hobjects, -⟩ | ⟨-, _, u, hfinalizer, hrights⟩
    · obtain ⟨_, _, rfl⟩ := eq_of_objects hobjects
      exact ⟨partly_refl _ _, partly_refl _ _, partly_refl _ _, partly_refl _ _, .inl ⟨rfl, rfl⟩⟩
    · obtain ⟨_, _, rfl⟩ := eq_of_objects (keeps_clusters _ hfinalizer)
      obtain ⟨roles, accounts, bindings, rfl, ⟨hroles, haccounts, hbindings⟩, -⟩ :=
        exec_applyRbac hrights
      exact ⟨hroles, haccounts, hbindings, partly_refl _ _, .inl ⟨rfl, rfl⟩⟩
  | unserved _ hprepare hservices =>
    obtain ⟨-, _, _, _, _, _, rfl, hroles, haccounts, hbindings⟩ := exec_prepare_ok hprepare
    obtain ⟨services, rfl, hpart, -⟩ := exec_applyServices hservices
    exact ⟨⟨hroles.partly, haccounts.partly, hbindings.partly, hpart, .inl ⟨rfl, rfl⟩⟩, nofun⟩
  | unplaced _ hprepare hservices hplace =>
    obtain ⟨-, hequipped, rfl⟩ := equipped_of_exec hprepare hservices
    exact ⟨(hequipped.place hplace).1, nofun⟩
  | waiting _ hprepare hservices hplace =>
    obtain ⟨hcheck, hequipped, rfl⟩ := equipped_of_exec hprepare hservices
    obtain ⟨hadvanced, hcompleted⟩ := hequipped.place hplace
    exact ⟨hadvanced, fun _ _ => ⟨hcheck, hcompleted _ rfl⟩⟩
  | settled _ hprepare hservices hplace hsettle =>
    obtain ⟨hcheck, hequipped, rfl⟩ := equipped_of_exec hprepare hservices
    obtain ⟨hadvanced, hcompleted⟩ := hequipped.place hplace
    have hobjects := keeps_settle c _ hsettle
    exact ⟨hadvanced.of_objects hobjects,
      fun _ _ => ⟨hcheck, (hcompleted _ rfl).of_objects hobjects⟩⟩

/-! ## What a pass finds that is begun anew -/

theorem reachable_map (services : List (Option Service)) :
    reachable o c (services.map (·.map Resource.unversioned)) = reachable o c services := by
  have hall : ∀ {p : Option Service → Id Bool}, (∀ s, p (s.map Resource.unversioned) = p s) →
      (services.map (·.map Resource.unversioned)).allM p = services.allM p := fun {p} hp => by
    induction services with
    | nil => rfl
    | cons s rest ih => rw [List.map_cons, List.allM, List.allM, hp, ih]
  unfold reachable Cluster.perPodReady
  split
  · refine congrArg Id.run (hall fun s => ?_)
    cases s <;> rfl
  · rfl

/-- Whether services can be reached does not depend on their versions. -/
theorem ready_congr (h : w.services.SameContent w'.services) : Ready o c w ↔ Ready o c w' := by
  have hperPod : (w.perPod c).map (·.map Resource.unversioned) =
      (w'.perPod c).map (·.map Resource.unversioned) := by
    unfold perPod
    rw [List.map_map, List.map_map]
    exact List.map_congr_left fun d _ => h (Resource.anyName d)
  unfold Ready
  rw [← reachable_map, hperPod, reachable_map]

theorem stale_of_get? {s : StatefulSet}
    (hs : w.statefulSets.objects.get? (Resource.anyName c) = some s)
    (hnote : Topology.ofStatefulSet? s = some (Topology.desired c)) : w.stale c = [] := by
  unfold stale Cluster.stale
  rw [hs, Option.bind_some, hnote, Option.getD_some]
  refine List.eq_nil_iff_forall_not_mem.2 fun i hi => ?_
  have hbounds := Topology.mem_staleIndices.1 hi
  rw [Topology.toInt_perPodCount_desired] at hbounds
  omega

/-- The stateful set is as before, or it has been brought in line and has a new version. -/
theorem get?_statefulSet_of_partly (hname : c.metadata.name = some c.name)
    {sets sets' : MemoryStore StatefulSet} (h : Partly (c.statefulSetGoals settings) sets sets') :
    sets'.objects.get? c.name = sets.objects.get? c.name ∨
      ∃ desired version, c.newStatefulSet? settings = .ok desired ∧
        sets'.objects.get? c.name = some (Resource.withVersion
          (((sets.objects.get? c.name).getD desired).sync c settings) version) := by
  rcases Cluster.met_of_partly hname h with hsame | ⟨desired, hdesired, changed, hchanged, hmet⟩
  · exact .inl hsame
  obtain rfl := Except.ok.inj hchanged
  split at hmet
  · exact .inl hmet
  · obtain ⟨version, hstored⟩ := hmet
    exact .inr ⟨desired, version, hdesired, hstored⟩

/-- A stateful set that has been written tells that no services are left over. -/
theorem stale_of_partly (hname : c.metadata.name = some c.name)
    (h : Partly (c.statefulSetGoals settings) w.statefulSets w'.statefulSets) :
    w'.stale c = w.stale c ∨ w'.stale c = [] := by
  have hanyName : Resource.anyName c = c.name := ObjectMeta.anyName_of_name hname
  have hkept := get?_statefulSet_of_partly hname h
  rw [← hanyName] at hkept
  rcases hkept with hsame | ⟨_, version, -, hstored⟩
  · left
    unfold stale Cluster.stale
    rw [hsame]
  · exact .inr (stale_of_get? hstored
      ((Topology.ofStatefulSet?_congr rfl).trans (Topology.ofStatefulSet?_sync c settings _)))

/-- Once all services have been in line, nothing is left to do about them, whether or not the
stateful set has been written since. -/
theorem settled_services (hname : c.metadata.name = some c.name)
    (hservices : Wholly (c.serviceGoals (w.stale c)) w.services w'.services)
    (hset : Partly (c.statefulSetGoals settings) w.statefulSets w'.statefulSets) :
    Settled (c.serviceGoals (w'.stale c)) w'.services := by
  have hall := hservices.settled (c.lasting_serviceGoals _)
  rcases stale_of_partly hname hset with hstale | hstale <;> rw [hstale]
  · exact hall
  · rw [Cluster.serviceGoals, ← List.append_assoc] at hall
    unfold Cluster.serviceGoals Cluster.staleGoals
    rw [List.map_nil, List.append_nil]
    exact hall.left

/-- The services come to the same whether or not the stateful set has been written before they are
seen to again. -/
theorem Advanced.services_resumed (h : Advanced o c settings w w₁)
    (hname : c.metadata.name = some c.name)
    (h₂ : Wholly (c.serviceGoals (w₁.stale c)) w₁.services w₂.services)
    (h' : Wholly (c.serviceGoals (w.stale c)) w.services w'.services) :
    w₂.services.SameContent w'.services := by
  have hlasting := c.lasting_serviceGoals (w.stale c)
  rcases h.placed with ⟨-, hsets⟩ | ⟨hservices, -, -, hset⟩
  · have hstale : w₁.stale c = w.stale c := by
      unfold stale
      rw [hsets]
    exact h'.resumed hlasting h.services (hstale ▸ h₂)
  · have hkept : w₂.services.SameContent w₁.services := fun name => by
      unfold MemoryStore.content
      rw [h₂.partly.eq_of_settled (settled_services hname hservices hset) name]
    exact hkept.trans (h'.resumed hlasting (partly_refl _ _) hservices)

theorem completed_identity :
    Completed o c.identity settings w w' ↔ Completed o c settings w w' :=
  ⟨fun h => ⟨h.roles, h.accounts, h.bindings, h.services, h.waiting, h.placed⟩,
    fun h => ⟨h.roles, h.accounts, h.bindings, h.services, h.waiting, h.placed⟩⟩

theorem Completed.congr (h : Completed o c settings w w') (hid : c.identity = d.identity) :
    Completed o d settings w w' :=
  completed_identity.1 (hid ▸ completed_identity.2 h)

/-- Whether the objects are the same, up to their versions. -/
structure SameObjects (w w' : PassWorld) : Prop where
  roles : w.roles.SameContent w'.roles
  accounts : w.accounts.SameContent w'.accounts
  bindings : w.bindings.SameContent w'.bindings
  services : w.services.SameContent w'.services
  configMaps : w.configMaps.SameContent w'.configMaps
  statefulSets : w.statefulSets.SameContent w'.statefulSets

/-- A pass that gets through from where another one has ended comes to what a pass comes to that
gets through at once. -/
theorem Advanced.resumed (h : Advanced o c settings w w₁) (hname : c.metadata.name = some c.name)
    (h₂ : Completed o c settings w₁ w₂) (h' : Completed o c settings w w') :
    SameObjects w₂ w' := by
  have hservices := h.services_resumed hname h₂.services h'.services
  have hplaced : w₂.configMaps.SameContent w'.configMaps ∧
      w₂.statefulSets.SameContent w'.statefulSets := by
    by_cases hready : Ready o c w₂
    · obtain ⟨hconfig₂, hset₂, -⟩ := h₂.placed hready
      obtain ⟨hconfig', hset', -⟩ := h'.placed ((ready_congr hservices).1 hready)
      rcases h.placed with ⟨hconfig, hset⟩ | ⟨-, -, hconfig, hset⟩
      · rw [hconfig] at hconfig₂
        rw [hset] at hset₂
        exact ⟨hconfig'.resumed (c.lasting_configGoals _) (partly_refl _ _) hconfig₂,
          hset'.resumed (c.lasting_statefulSetGoals _) (partly_refl _ _) hset₂⟩
      · exact ⟨hconfig'.resumed (c.lasting_configGoals _) hconfig hconfig₂,
          hset'.resumed (c.lasting_statefulSetGoals _) hset hset₂⟩
    · obtain ⟨hconfig₂, hset₂⟩ := h₂.waiting hready
      obtain ⟨hconfig', hset'⟩ := h'.waiting ((ready_congr hservices).not.1 hready)
      rcases h.placed with ⟨hconfig, hset⟩ | ⟨hreached, hready₁, -⟩
      · rw [hconfig₂, hset₂, hconfig', hset', hconfig, hset]
        exact ⟨.refl _, .refl _⟩
      · have hsame := h'.services.resumed (c.lasting_serviceGoals _) (partly_refl _ _) hreached
        exact absurd ((ready_congr (hsame.trans hservices.symm)).1 hready₁) hready
  exact {
    roles := h'.roles.resumed (c.lasting_roleGoals _) h.roles h₂.roles
    accounts := h'.accounts.resumed c.lasting_accountGoals h.accounts h₂.accounts
    bindings := h'.bindings.resumed c.lasting_bindingGoals h.bindings h₂.bindings
    services := hservices
    configMaps := hplaced.1
    statefulSets := hplaced.2 }

end PassWorld

end GridOperator
