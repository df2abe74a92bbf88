import GridOperator.Proofs.Desired.Restores

/-!
# Where volumes are mounted

The platform takes no container with two volumes at one place. Members find their
configuration at a place that is always the same, and an agent that restores data from
cloud storage finds its credentials at another one. The place for data is up to the
users, and nothing keeps it apart from these two: `newStatefulSet?_mountsApart_iff` says
which of the specifications that are accepted can be carried out as far as that goes.
-/

namespace GridOperator

open Kubernetes

namespace Kubernetes

/-- The places where a container finds its volumes. -/
def Container.mountPaths (k : Container) : List String := (k.volumeMounts.getD []).map (·.mountPath)

namespace PodSpec

/-- The places of each container, and of each one that runs before these. -/
def mountPaths (p : PodSpec) : List (List String) := p.allContainers.map (·.mountPaths)

/-- Whether no container has two volumes at one place. -/
def MountsApart (p : PodSpec) : Prop := ∀ k ∈ p.allContainers, k.mountPaths.Nodup

theorem mountsApart_iff {p : PodSpec} : p.MountsApart ↔ ∀ paths ∈ p.mountPaths, paths.Nodup :=
  List.forall_mem_map.symm

/-- What may change later leaves the places as they are. -/
theorem mountPaths_sync {p : PodSpec} (h : p.containers ≠ []) (c : Cluster) (settings : Settings) :
    (p.sync c settings).mountPaths = p.mountPaths := by
  obtain ⟨m, ms, hpod⟩ := List.exists_cons_of_ne_nil h
  simp only [mountPaths, allContainers, sync, hpod]
  rfl

end PodSpec

end Kubernetes

/-- Whether data has a place of its own: it is not where the configuration is, nor where the
credentials are for a restore that needs them. -/
structure ClusterSpec.KeepsApart (s : ClusterSpec) : Prop where
  config : ∀ p, s.persistence = some p → p.baseDir ≠ Names.configDir
  credentials : ∀ p r, s.Asks p r → r.InCloudStorage → p.baseDir ≠ RestoreProvider.credentialsDir

namespace ClusterSpec

variable {s : ClusterSpec} {p : Persistence}

theorem keepsApart_of_none (h : s.enabledPersistence = none) : s.KeepsApart where
  config p hp hdir := by
    have henabled : s.enabledPersistence = some p :=
      Option.filter_eq_some_iff.2 ⟨hp, by rw [Persistence.isEnabled, hdir]; decide⟩
    rw [h] at henabled
    cases henabled
  credentials p r hasks := by
    rw [(asks_iff.1 hasks).1] at h
    cases h

theorem keepsApart_iff (h : s.enabledPersistence = some p) :
    s.KeepsApart ↔ p.baseDir ≠ Names.configDir ∧ ∀ r, p.restore = some r → r.InCloudStorage →
      p.baseDir ≠ RestoreProvider.credentialsDir := by
  have hp := (Option.filter_eq_some_iff.1 h).1
  constructor
  · intro hs
    exact ⟨hs.config p hp, fun r hr => hs.credentials p r (asks_iff.2 ⟨h, hr⟩)⟩
  · rintro ⟨hconfig, hcredentials⟩
    refine ⟨fun q hq => ?_, fun q r hasks => ?_⟩
    · obtain rfl := Option.some.inj (hp.symm.trans hq)
      exact hconfig
    · obtain ⟨hq, hr⟩ := asks_iff.1 hasks
      obtain rfl := Option.some.inj (h.symm.trans hq)
      exact hcredentials r hr

end ClusterSpec

namespace Cluster

variable {c : Cluster} {settings : Settings} {platform : Platform} {p : Persistence} {r : Restore}
  {provider : RestoreProvider} {pod : PodSpec}

/-! ## Pods, stage by stage -/

theorem mountPaths_memberContainer (c : Cluster) : c.memberContainer.mountPaths =
    Names.configDir :: (c.spec.enabledPersistence.map (·.baseDir)).toList := by
  show c.memberMounts.map (·.mountPath) = _
  unfold memberMounts
  cases c.spec.enabledPersistence <;> rfl

/-- The backup agent has the data where the member has it. -/
theorem mountPaths_keepingPod (platform : Platform) (h : c.spec.enabledPersistence = some p) :
    (c.keepingPod platform p).mountPaths =
      [Names.configDir, p.baseDir] :: if p.isExternal then [[p.baseDir]] else [] := by
  have hmember : c.memberContainer.mountPaths = [Names.configDir, p.baseDir] := by
    rw [mountPaths_memberContainer, h]
    rfl
  rw [← hmember]
  unfold keepingPod withBackupAgent withHostPath
  cases p.isExternal <;> cases p.usesHostPath <;> rfl

theorem mountPaths_restoringPod (platform : Platform) (p : Persistence) (r : Restore)
    (provider : RestoreProvider) : (c.restoringPod platform p r provider).mountPaths =
      (c.keepingPod platform p).mountPaths ++ [p.baseDir :: provider.mounts.map (·.mountPath)] := by
  have hnone := c.initContainers_keepingPod platform p
  simp only [PodSpec.mountPaths, PodSpec.allContainers, restoringPod, hnone, Option.getD_some,
    Option.getD_none, List.append_nil, List.map_append]
  rfl

theorem podSpec?_of_restore_none (platform : Platform) (h : c.spec.enabledPersistence = some p)
    (hr : p.restore = none) : c.podSpec? platform = .ok (c.keepingPod platform p) := by
  unfold podSpec? withRestoreAgent?
  rw [h]
  dsimp only
  rw [hr]
  rfl

/-- Pods without containers would not have the mounts of the member. -/
theorem containers_ne_nil_of_podSpec? (h : c.podSpec? platform = .ok pod) :
    pod.containers ≠ [] := by
  intro hnone
  have hmounts := mounts?_of_podSpec? h
  rw [PodSpec.mounts?, hnone] at hmounts
  cases hmounts

/-! ## Places apart -/

theorem mountsApart_keepingPod_iff (h : c.spec.enabledPersistence = some p) :
    (c.keepingPod platform p).MountsApart ↔ p.baseDir ≠ Names.configDir := by
  rw [PodSpec.mountsApart_iff, mountPaths_keepingPod platform h]
  cases p.isExternal <;> simp [eq_comm]

theorem mountsApart_restoringPod_iff (h : c.spec.enabledPersistence = some p)
    (hprovider : r.provider = .ok provider) :
    (c.restoringPod platform p r provider).MountsApart ↔ p.baseDir ≠ Names.configDir ∧
      (r.InCloudStorage → p.baseDir ≠ RestoreProvider.credentialsDir) := by
  have hagent : (p.baseDir :: provider.mounts.map (·.mountPath)).Nodup ↔
      (provider = .gcs → p.baseDir ≠ RestoreProvider.credentialsDir) := by
    cases provider <;> simp [RestoreProvider.mounts]
  rw [PodSpec.mountsApart_iff, mountPaths_restoringPod, List.forall_mem_append,
    List.forall_mem_singleton, ← PodSpec.mountsApart_iff, mountsApart_keepingPod_iff h, hagent,
    Restore.provider_eq_gcs_iff hprovider]

theorem mountsApart_iff_of_podSpec? (h : c.podSpec? platform = .ok pod) :
    pod.MountsApart ↔ c.spec.KeepsApart := by
  cases hp : c.spec.enabledPersistence with
  | none =>
    unfold podSpec? at h
    rw [hp] at h
    obtain rfl := Except.ok.inj h
    have hmember : c.memberContainer.mountPaths = [Names.configDir] := by
      rw [mountPaths_memberContainer, hp]
      rfl
    refine iff_of_true (List.forall_mem_singleton.2 ?_) (ClusterSpec.keepsApart_of_none hp)
    rw [hmember]
    exact List.nodup_singleton _
  | some p =>
    rw [ClusterSpec.keepsApart_iff hp]
    cases hr : p.restore with
    | none =>
      rw [podSpec?_of_restore_none platform hp hr] at h
      obtain rfl := Except.ok.inj h
      simpa using mountsApart_keepingPod_iff hp
    | some r =>
      rw [podSpec?_of_asks (ClusterSpec.asks_iff.2 ⟨hp, hr⟩)] at h
      cases hprovider : r.provider with
      | error e =>
        rw [hprovider] at h
        cases h
      | ok provider =>
        rw [hprovider] at h
        obtain rfl := Except.ok.inj h
        simpa using mountsApart_restoringPod_iff hp hprovider

/-- The stateful set of a specification that is accepted is one that the platform takes, as far as
the places of volumes go, exactly if the specification keeps data apart. -/
theorem newStatefulSet?_mountsApart_iff (settings : Settings) (h : c.check = .ok ()) :
    ∃ s set pod, c.newStatefulSet? settings = .ok s ∧ s.spec = some set ∧
      set.template.spec = some pod ∧ (pod.MountsApart ↔ c.spec.KeepsApart) := by
  cases hmade : c.newStatefulSet? settings with
  | error e =>
    obtain ⟨e', he'⟩ := check_of_checkRestore ((c.newStatefulSet?_eq_error_iff settings).1 hmade)
    rw [h] at he'
    cases he'
  | ok s =>
    unfold newStatefulSet? at hmade
    cases hpod : c.podSpec? settings.platform with
    | error e =>
      rw [hpod] at hmade
      cases hmade
    | ok pod =>
      rw [hpod] at hmade
      obtain rfl := Except.ok.inj hmade
      refine ⟨_, _, pod.sync c settings, rfl, rfl, rfl, ?_⟩
      rw [← mountsApart_iff_of_podSpec? hpod, PodSpec.mountsApart_iff, PodSpec.mountsApart_iff,
        PodSpec.mountPaths_sync (containers_ne_nil_of_podSpec? hpod)]

/-- The cluster that is restored from a bucket, with its data in another directory. -/
def movedTo (dir : String) : Cluster :=
  { restoring with spec := { restoring.spec with
      persistence := some {
        baseDir := dir
        restore := some { bucketURI := "gs://backups", secret := "credentials" } } } }

/-- Whether a specification is accepted although the platform does not take its stateful set. -/
def Unfit (c : Cluster) : Prop :=
  c.check = .ok () ∧ ∃ s set pod, c.newStatefulSet? {} = .ok s ∧ s.spec = some set ∧
    set.template.spec = some pod ∧ ¬ pod.MountsApart

/-- Neither of the two directories that are taken is refused. -/
theorem newStatefulSet?_mountsApart_iff_moved :
    (movedTo Names.configDir).Unfit ∧ (movedTo RestoreProvider.credentialsDir).Unfit := by
  have hconfig : (movedTo Names.configDir).check = .ok () := by decide +kernel
  have hcredentials : (movedTo RestoreProvider.credentialsDir).check = .ok () := by decide +kernel
  refine ⟨⟨hconfig, ?_⟩, hcredentials, ?_⟩
  · obtain ⟨s, set, pod, hmade, hset, hpod, hiff⟩ := newStatefulSet?_mountsApart_iff {} hconfig
    exact ⟨s, set, pod, hmade, hset, hpod, fun hapart => (hiff.1 hapart).config _ rfl rfl⟩
  · obtain ⟨s, set, pod, hmade, hset, hpod, hiff⟩ := newStatefulSet?_mountsApart_iff {} hcredentials
    refine ⟨s, set, pod, hmade, hset, hpod, fun hapart => ?_⟩
    have hcloud :
        Restore.InCloudStorage { bucketURI := "gs://backups", secret := "credentials" } := by
      show "gs://".toList <+: "gs://backups".toList
      decide
    exact (hiff.1 hapart).credentials _ _ ⟨rfl, by decide, rfl⟩ hcloud rfl

end Cluster

end GridOperator
