import GridOperator.Proofs.Desired.ConfigFile
import GridOperator.Proofs.Reconcile.DataDirectory
import GridOperator.Proofs.Table

/-!
# How the objects of a cluster refer to each other

The objects are built one by one and refer to each other by names and labels.
`Cluster.FitTogether` says that each of these leads where it should. It is shown
stage by stage, as the pods are put together: a stage brings the volumes that its
containers mount.
-/

namespace GridOperator

open Kubernetes

/-! ## Names and what they refer to -/

namespace Kubernetes

def Container.mounted (k : Container) : List String := (k.volumeMounts.getD []).map (·.name)

def Container.portNames (k : Container) : List String := (k.ports.getD []).filterMap (·.name)

namespace PodSpec

/-- The containers and those that run before them. -/
def allContainers (p : PodSpec) : List Container := p.containers ++ p.initContainers.getD []

def portNames (p : PodSpec) : List String := p.allContainers.flatMap (·.portNames)

def volumeNames (p : PodSpec) : List String := (p.volumes.getD []).map (·.name)

/-- Whether each name that a container mounts is that of exactly one volume or claim. -/
structure Supplied (claimed : List String) (p : PodSpec) : Prop where
  distinct : (p.volumeNames ++ claimed).Nodup
  mounted_subset : ∀ k ∈ p.allContainers, k.mounted ⊆ p.volumeNames ++ claimed

end PodSpec

namespace StatefulSetSpec

def claimNames (set : StatefulSetSpec) : List String :=
  (set.volumeClaimTemplates.getD []).map (·.metadata.anyName)

def podLabels (set : StatefulSetSpec) : TextMap := (set.template.metadata.bind (·.labels)).getD []

end StatefulSetSpec

namespace Service

def selector? (s : Service) : Option TextMap := s.spec.bind (·.selector)

/-- The ports of pods that the service leads to by their names. -/
def targets (s : Service) : List String :=
  ((s.spec.bind (·.ports)).getD []).filterMap fun port =>
    match port.targetPort with
    | some (.text name) => some name
    | _ => none

end Service

end Kubernetes

namespace Cluster

variable {c : Cluster} {settings : Settings} {platform : Platform} {p : Persistence}
  {pod pod' : PodSpec} {ports : List String}

def claimNames (c : Cluster) : List String := (c.claims.getD []).map (·.metadata.anyName)

/-- Whether the objects of a cluster fit together, with a stateful set and the pods it makes. -/
structure FitTogether (c : Cluster) (s : StatefulSet) (set : StatefulSetSpec) (pod : PodSpec) :
    Prop where
  spec_eq : s.spec = some set
  template_eq : set.template.spec = some pod
  /-- What is mounted is there. -/
  supplied : pod.Supplied set.claimNames
  nodup_portNames : pod.portNames.Nodup
  /-- What services lead to is there. -/
  targets_subset : ∀ service ∈ c.services, service.targets ⊆ pod.portNames
  includes_selector : set.selector.matchLabels.any set.podLabels.includes
  includes_discovery : c.discoveryService.selector?.any set.podLabels.includes
  /-- The name of the pod is all that the service of a member asks for besides. -/
  selector_perPod : ∀ (i : Nat) (service : Service), c.perPodServices[i]? = some service →
    set.podLabels.get? Names.podNameLabel = none ∧
      service.selector? =
        some (set.podLabels.set Names.podNameLabel (c.name ++ "-" ++ toString i))
  config_mem : ∀ maps, ∃ v ∈ pod.volumes.getD [], v.name = Names.configVolume ∧
    v.configMap = some (Resource.anyName (c.configMap maps))
  roleRef_eq : ∀ platform, c.clusterRoleBinding.roleRef.kind = Resource.kind ClusterRole ∧
    c.clusterRoleBinding.roleRef.name = Resource.anyName (c.clusterRole platform)
  subjects_eq : c.clusterRoleBinding.subjects = some [{
    kind := Resource.kind ServiceAccount
    name := Resource.anyName c.serviceAccount
    space := (Resource.metadata c.serviceAccount).space }]
  account_eq : pod.serviceAccountName = some (Resource.anyName c.serviceAccount)
  /-- The file, which its text tells, has members keep their data where the volume for it is
  mounted, and else nowhere. -/
  persistentDir?_eq : ∀ maps, (c.configMap maps).Holds (c.memberConfig maps).toYaml ∧
    (c.memberConfig maps).toYaml.persistentDir? = s.mountedDir?

/-! ## Pods, stage by stage -/

/-- Whether pods have what their containers need, and have ports of the given names. -/
structure Equips (c : Cluster) (ports : List String) (pod : PodSpec) : Prop where
  supplied : pod.Supplied c.claimNames
  portNames_perm : pod.portNames.Perm ports
  config_mem : c.configVolume ∈ pod.volumes.getD []
  account_eq : pod.serviceAccountName = some c.name

theorem mounted_memberContainer (c : Cluster) : c.memberContainer.mounted =
    Names.configVolume :: (c.spec.enabledPersistence.map fun _ => Names.dataVolume).toList := by
  show c.memberMounts.map (·.name) = _
  unfold memberMounts
  cases c.spec.enabledPersistence <;> rfl

theorem equips_basicPodSpec (h : c.spec.enabledPersistence = none) :
    c.Equips [Names.member] c.basicPodSpec where
  supplied := by
    have hclaims : c.claimNames = [] := by
      unfold claimNames claims
      rw [h]
      rfl
    have hmounted : c.memberContainer.mounted = [Names.configVolume] := by
      rw [mounted_memberContainer, h]
      rfl
    rw [hclaims]
    refine ⟨List.nodup_singleton _, List.forall_mem_singleton.2 ?_⟩
    rw [hmounted]
    exact List.Subset.refl _
  portNames_perm := .refl _
  config_mem := List.mem_singleton_self _
  account_eq := rfl

/-- The volume for data is on the node or claimed. -/
theorem sources_withHostPath (platform : Platform) (h : c.spec.enabledPersistence = some p) :
    (withHostPath platform p c.basicPodSpec).volumeNames ++ c.claimNames =
      [Names.configVolume, Names.dataVolume] := by
  unfold withHostPath claimNames claims
  rw [h, Option.filter_some]
  cases p.usesHostPath <;> rfl

theorem equips_withHostPath (platform : Platform) (h : c.spec.enabledPersistence = some p) :
    c.Equips [Names.member] (withHostPath platform p c.basicPodSpec) where
  supplied := by
    have hmounted : c.memberContainer.mounted = [Names.configVolume, Names.dataVolume] := by
      rw [mounted_memberContainer, h]
      rfl
    refine ⟨?_, ?_⟩ <;> rw [sources_withHostPath platform h]
    · decide
    · rw [← hmounted]
      unfold withHostPath
      cases p.usesHostPath <;> exact List.forall_mem_singleton.2 (List.Subset.refl _)
  portNames_perm := by
    unfold withHostPath
    cases p.usesHostPath <;> rfl
  config_mem := by
    unfold withHostPath
    cases p.usesHostPath <;> exact List.mem_cons_self
  account_eq := by
    unfold withHostPath
    cases p.usesHostPath <;> rfl

theorem volumeNames_withBackupAgent :
    (c.withBackupAgent p pod).volumeNames = pod.volumeNames := by
  unfold withBackupAgent
  cases p.isExternal <;> rfl

/-- The backup agent mounts the volume for data. -/
theorem Equips.withBackupAgent (h : c.Equips ports pod)
    (hdata : Names.dataVolume ∈ pod.volumeNames ++ c.claimNames) :
    c.Equips (ports ++ if p.isExternal then [Names.backupAgent] else [])
      (c.withBackupAgent p pod) := by
  unfold Cluster.withBackupAgent
  cases p.isExternal with
  | false => simpa using h
  | true =>
    refine ⟨⟨h.supplied.distinct, fun k hk => ?_⟩, ?_, h.config_mem, h.account_eq⟩
    · rcases List.mem_append.1 hk with hk | hk
      · rcases List.mem_append.1 hk with hk | hk
        · exact h.supplied.mounted_subset k (List.mem_append_left _ hk)
        · obtain rfl := List.mem_singleton.1 hk
          exact List.cons_subset.2 ⟨hdata, List.nil_subset _⟩
      · exact h.supplied.mounted_subset k (List.mem_append_right _ hk)
    · have hagent : (c.backupAgentContainer p).portNames = [Names.backupAgent] := rfl
      have hports := h.portNames_perm
      unfold PodSpec.portNames PodSpec.allContainers at hports ⊢
      rw [List.flatMap_append] at hports
      simp only [List.flatMap_append, List.flatMap_singleton, hagent, if_true]
      refine .trans ?_ (hports.append_right _)
      rw [List.append_assoc, List.append_assoc]
      exact List.perm_append_comm.append_left _

/-- A provider brings the volumes that it mounts, and no other one has their names. -/
theorem volumeNames_provider (provider : RestoreProvider) (secret : String) :
    (provider.volumes secret).map (·.name) = provider.mounts.map (·.name) ∧
      (provider.mounts.map (·.name)).Nodup ∧
      provider.mounts.map (·.name) ⊆ [RestoreProvider.credentialsVolume] := by
  cases provider <;> exact ⟨rfl, by decide, by decide⟩

/-- The restore agent mounts the volume for data and those that its provider brings. -/
theorem Equips.withRestoreAgent? (h : c.Equips ports pod)
    (hdata : Names.dataVolume ∈ pod.volumeNames ++ c.claimNames)
    (hfree : RestoreProvider.credentialsVolume ∉ pod.volumeNames ++ c.claimNames)
    (hrestore : c.withRestoreAgent? p pod = .ok pod') : c.Equips ports pod' := by
  unfold Cluster.withRestoreAgent? at hrestore
  split at hrestore
  · obtain rfl := Except.ok.inj hrestore
    exact h
  · rename_i r _
    cases hprovider : r.provider with
    | error e =>
      rw [hprovider] at hrestore
      cases hrestore
    | ok provider =>
      rw [hprovider] at hrestore
      obtain rfl := Except.ok.inj hrestore
      obtain ⟨hvolumes, hdistinct, hbrought⟩ := volumeNames_provider provider r.secret
      have hsources : (((pod.volumes.getD [] ++ provider.volumes r.secret).map (·.name)) ++
          c.claimNames).Perm
            ((pod.volumeNames ++ c.claimNames) ++ provider.mounts.map (·.name)) := by
        rw [List.map_append, hvolumes, List.append_assoc, List.append_assoc]
        exact List.perm_append_comm.append_left _
      refine ⟨⟨?_, fun k hk name hname => ?_⟩, ?_, List.mem_append_left _ h.config_mem,
        h.account_eq⟩
      · refine hsources.nodup_iff.2 (List.Nodup.append h.supplied.distinct hdistinct ?_)
        intro name hname hmount
        exact hfree (List.mem_singleton.1 (hbrought hmount) ▸ hname)
      · refine hsources.mem_iff.2 ?_
        rcases List.mem_append.1 hk with hk | hk
        · exact List.mem_append_left _
            (h.supplied.mounted_subset k (List.mem_append_left _ hk) hname)
        · rcases List.mem_cons.1 hk with rfl | hk
          · rcases List.mem_cons.1 hname with rfl | hname
            · exact List.mem_append_left _ hdata
            · exact List.mem_append_right _ hname
          · exact List.mem_append_left _
              (h.supplied.mounted_subset k (List.mem_append_right _ hk) hname)
      · have hagent : (c.restoreAgentContainer p r provider).portNames = [] := rfl
        have hports := h.portNames_perm
        unfold PodSpec.portNames PodSpec.allContainers at hports ⊢
        rw [List.flatMap_append] at hports
        rw [Option.getD_some, List.flatMap_append, List.flatMap_cons, hagent, List.nil_append]
        exact hports

/-- The names of the ports of pods. -/
def podPorts (c : Cluster) : List String :=
  Names.member :: if c.spec.persistenceExternal then [Names.backupAgent] else []

theorem persistenceExternal_eq (c : Cluster) :
    c.spec.persistenceExternal = c.spec.enabledPersistence.any (·.isExternal) := by
  unfold ClusterSpec.persistenceExternal ClusterSpec.enabledPersistence
  cases c.spec.persistence with
  | none => rfl
  | some p =>
    rw [Option.filter_some]
    cases hp : p.isEnabled <;> simp [Persistence.isExternal, hp]

theorem equips_of_podSpec? (h : c.podSpec? platform = .ok pod) : c.Equips c.podPorts pod := by
  unfold podSpec? at h
  unfold podPorts
  rw [persistenceExternal_eq]
  cases hp : c.spec.enabledPersistence with
  | none =>
    rw [hp] at h
    obtain rfl := Except.ok.inj h
    exact equips_basicPodSpec hp
  | some p =>
    rw [hp] at h
    have hsources := sources_withHostPath platform hp
    have hbacked := (equips_withHostPath platform hp).withBackupAgent (p := p)
      (hsources ▸ by decide)
    rw [← volumeNames_withBackupAgent (c := c) (p := p)] at hsources
    exact hbacked.withRestoreAgent? (hsources ▸ by decide) (hsources ▸ by decide) h

/-- What may change later leaves volumes, mounts and ports as they are. -/
theorem Equips.sync (h : c.Equips ports pod) (hcontainers : pod.containers ≠ []) :
    c.Equips ports (pod.sync c settings) := by
  obtain ⟨m, ms, hpod⟩ := List.exists_cons_of_ne_nil hcontainers
  have hall : pod.allContainers = m :: (ms ++ pod.initContainers.getD []) := by
    rw [PodSpec.allContainers, hpod, List.cons_append]
  have hsync : (pod.sync c settings).allContainers =
      m.sync c settings :: (ms ++ pod.initContainers.getD []) := by
    simp only [PodSpec.allContainers, PodSpec.sync, hpod, List.cons_append]
  refine ⟨⟨h.supplied.distinct, ?_⟩, ?_, h.config_mem, h.account_eq⟩
  · have hmounted := h.supplied.mounted_subset
    rw [hall, List.forall_mem_cons] at hmounted
    rw [hsync, List.forall_mem_cons]
    exact hmounted
  · have hports := h.portNames_perm
    rw [PodSpec.portNames, hall] at hports
    rw [PodSpec.portNames, hsync]
    exact hports

/-! ## The directory in the file -/

theorem persistentDir?_memberConfig (c : Cluster) (maps : List DataMap) :
    (c.memberConfig maps).toYaml.persistentDir? = c.dataDir? := by
  have hfield : (c.memberConfig maps).toYaml.field? "persistence" =
      c.spec.enabledPersistence.map fun p => (Storage.ofPersistence p).toYaml := by
    unfold MemberConfig.toYaml
    rw [Yaml.field?_ofSome (by simp)]
    exact Option.map_map _ _ _
  unfold Yaml.persistentDir? dataDir?
  rw [hfield]
  cases c.spec.enabledPersistence <;> rfl

/-! ## All objects -/

variable {s : StatefulSet}

theorem includes_labels (c : Cluster) : c.labels.includes c.labels :=
  TextMap.includes_self (Table.ordered_ofEntries _)

theorem get?_podNameLabel_labels (c : Cluster) : c.labels.get? Names.podNameLabel = none := by
  have happlication : Names.podNameLabel ≠ Names.applicationLabel := by decide
  have hinstance : Names.podNameLabel ≠ Names.instanceLabel := by decide
  have hmanagedBy : Names.podNameLabel ≠ Names.managedByLabel := by decide
  unfold labels Table.ofEntries
  simp only [List.foldl_cons, List.foldl_nil]
  rw [Table.get?_set_of_ne hmanagedBy, Table.get?_set_of_ne hinstance,
    Table.get?_set_of_ne happlication, Table.get?_nil]

theorem exists_of_mem_perPodServices {i : Nat} {service : Service}
    (h : c.perPodServices[i]? = some service) : ∃ e, service = c.perPodService e i := by
  unfold perPodServices at h
  split at h
  · rename_i e _
    rw [List.getElem?_map] at h
    obtain ⟨j, hj, rfl⟩ := Option.map_eq_some_iff.1 h
    obtain ⟨_, rfl⟩ := List.getElem?_eq_some_iff.1 hj
    exact ⟨e, by rw [List.getElem_range]⟩
  · cases h

theorem targets_subset_podPorts {service : Service} (h : service ∈ c.services) :
    service.targets ⊆ c.podPorts := by
  rcases List.mem_cons.1 h with rfl | h
  · have htargets : c.discoveryService.targets = c.podPorts := by
      unfold Service.targets discoveryService podPorts
      cases c.spec.persistenceExternal <;> rfl
    rw [htargets]
    exact List.Subset.refl _
  · obtain ⟨i, hi⟩ := List.mem_iff_getElem?.1 h
    obtain ⟨e, rfl⟩ := exists_of_mem_perPodServices hi
    exact List.cons_subset.2 ⟨List.mem_cons_self, List.nil_subset _⟩

theorem nodup_podPorts (c : Cluster) : c.podPorts.Nodup := by
  unfold podPorts
  cases c.spec.persistenceExternal <;> decide

theorem fitTogether_of_newStatefulSet? (h : c.newStatefulSet? settings = .ok s) :
    ∃ set pod, c.FitTogether s set pod := by
  have hdirs := StatefulSet.mountedDir?_of_mounts? (mounts?_of_newStatefulSet? h)
  unfold newStatefulSet? at h
  cases hpod : c.podSpec? settings.platform with
  | error e =>
    rw [hpod] at h
    cases h
  | ok pod =>
    rw [hpod] at h
    obtain rfl := Except.ok.inj h
    -- a pod without containers would not have the mounts of the member
    have hcontainers : pod.containers ≠ [] := by
      intro hnone
      have hmounts := mounts?_of_podSpec? hpod
      rw [PodSpec.mounts?, hnone] at hmounts
      cases hmounts
    have hequips : c.Equips c.podPorts (pod.sync c settings) :=
      (equips_of_podSpec? hpod).sync hcontainers
    exact ⟨_, pod.sync c settings, {
      spec_eq := rfl
      template_eq := rfl
      supplied := hequips.supplied
      nodup_portNames := hequips.portNames_perm.nodup_iff.2 c.nodup_podPorts
      targets_subset := fun service hservice =>
        List.Subset.trans (targets_subset_podPorts hservice) hequips.portNames_perm.symm.subset
      includes_selector := c.includes_labels
      includes_discovery := c.includes_labels
      selector_perPod := fun i service hservice => by
        obtain ⟨e, rfl⟩ := exists_of_mem_perPodServices hservice
        exact ⟨c.get?_podNameLabel_labels, rfl⟩
      config_mem := fun _ =>
        ⟨_, hequips.config_mem, rfl, congrArg some c.anyName_ownedMetadata.symm⟩
      roleRef_eq := fun _ => ⟨rfl, rfl⟩
      subjects_eq := by
        have hname : Resource.anyName c.serviceAccount = c.name := c.anyName_ownedMetadata
        rw [hname]
        rfl
      account_eq := hequips.account_eq.trans (congrArg some c.anyName_ownedMetadata.symm)
      persistentDir?_eq := fun maps => ⟨c.holds_configMap maps,
        (c.persistentDir?_memberConfig maps).trans hdirs.symm⟩ }⟩

/-- A cluster whose members have services of their own and are restored from a bucket. -/
def restoring : Cluster where
  metadata := { name := some "hz", space := some "default" }
  spec := {
    clusterSize := 2
    exposeExternally := some {}
    persistence := some {
      baseDir := "/data/hot-restart"
      backupType := .external
      restore := some { bucketURI := "gs://backups", secret := "credentials" } } }

theorem fitTogether_of_newStatefulSet?_restoring : ∃ s set pod,
    restoring.newStatefulSet? {} = .ok s ∧ restoring.FitTogether s set pod ∧
      s.mountedDir? = some "/data/hot-restart" := by
  have hdir : (restoring.newStatefulSet? {}).toOption.bind (·.mountedDir?) =
      some "/data/hot-restart" := by decide +kernel
  cases hmade : restoring.newStatefulSet? {} with
  | error e =>
    rw [hmade] at hdir
    cases hdir
  | ok s =>
    obtain ⟨set, pod, hfit⟩ := fitTogether_of_newStatefulSet? hmade
    rw [hmade] at hdir
    exact ⟨s, set, pod, rfl, hfit, hdir⟩

end Cluster

end GridOperator
