import GridOperator.Proofs.Desired.Overwriting
import GridOperator.Proofs.Desired.References
import GridOperator.Proofs.Results
import GridOperator.Validity

/-!
# Restores, as they are checked and as they are carried out

A restore is asked for by a cluster that keeps data. Its check and the pods that carry it
out both go by the provider of the restore, so that the stateful set can be made exactly
where the check passes (`newStatefulSet?_eq_error_iff`). The pods then have an agent that
knows the bucket, the directory and the secret of the restore.
-/

namespace GridOperator

open Kubernetes

/-! ## Providers -/

namespace RestoreProvider

variable {cs s r : List Char} {uri : String} {provider : RestoreProvider}

theorem isPrefix_of_scheme (h : scheme cs = some s) : s ++ [':', '/', '/'] <+: cs := by
  fun_induction scheme cs generalizing s with
  | case1 => cases h
  | case2 r =>
    obtain rfl := Option.some.inj h
    exact ⟨r, rfl⟩
  | case3 c cs _ ih =>
    obtain ⟨s, hs, rfl⟩ := Option.map_eq_some_iff.1 h
    exact (List.prefix_cons_inj c).2 (ih hs)

theorem scheme_append (h : ':' ∉ s) (r : List Char) :
    scheme (s ++ ':' :: '/' :: '/' :: r) = some s := by
  induction s with
  | nil => rfl
  | cons c s ih =>
    obtain ⟨hne, hnot⟩ := List.ne_and_not_mem_of_not_mem_cons h
    rw [List.cons_append, scheme, ih hnot, Option.map_some]
    rintro _ rfl
    exact absurd rfl hne

/-- The scheme of cloud storage is what stands at the beginning of the URI. -/
theorem ofUri_eq_gcs_iff (h : ofUri uri = .ok provider) :
    provider = gcs ↔ "gs://".toList <+: uri.toList := by
  have hscheme : "gs://".toList <+: uri.toList ↔ scheme uri.toList = some ['g', 's'] := by
    refine ⟨fun ⟨r, hr⟩ => ?_, isPrefix_of_scheme⟩
    rw [← hr]
    exact scheme_append (s := ['g', 's']) (by decide) r
  rw [hscheme]
  unfold ofUri at h
  split at h <;> cases h <;> simp [*]

end RestoreProvider

namespace Restore

variable {r : Restore} {provider : RestoreProvider}

/-- Whether the data is in a bucket of the provider whose credentials come in a file. -/
def InCloudStorage (r : Restore) : Prop := "gs://".toList <+: r.bucketURI.toList

theorem provider_eq_gcs_iff (h : r.provider = .ok provider) :
    provider = .gcs ↔ r.InCloudStorage := by
  unfold Restore.provider at h
  split at h
  · cases h
  · exact RestoreProvider.ofUri_eq_gcs_iff h

end Restore

/-! ## What is asked for -/

/-- Whether data is to be kept, and to be restored first. -/
structure ClusterSpec.Asks (s : ClusterSpec) (p : Persistence) (r : Restore) : Prop where
  persistence_eq : s.persistence = some p
  baseDir_ne : p.baseDir ≠ ""
  restore_eq : p.restore = some r

namespace ClusterSpec

variable {s : ClusterSpec} {p : Persistence} {r : Restore}

theorem asks_iff : s.Asks p r ↔ s.enabledPersistence = some p ∧ p.restore = some r := by
  unfold enabledPersistence Persistence.isEnabled
  rw [Option.filter_eq_some_iff]
  constructor
  · rintro ⟨hp, hdir, hr⟩
    exact ⟨⟨hp, by simpa using hdir⟩, hr⟩
  · rintro ⟨⟨hp, hdir⟩, hr⟩
    exact ⟨hp, by simpa using hdir, hr⟩

theorem restore_eq_some_iff : s.restore = some r ↔ ∃ p, s.Asks p r := by
  simp only [asks_iff]
  exact Option.bind_eq_some_iff

theorem Asks.unique {p' : Persistence} {r' : Restore} (h : s.Asks p r) (h' : s.Asks p' r') :
    p = p' ∧ r = r' := by
  obtain rfl := Option.some.inj (h.persistence_eq.symm.trans h'.persistence_eq)
  exact ⟨rfl, Option.some.inj (h.restore_eq.symm.trans h'.restore_eq)⟩

end ClusterSpec

/-! ## What the pods have -/

namespace Kubernetes

/-- The key of a secret that a variable has its value from. -/
def EnvVar.secretKey? (v : EnvVar) : Option SecretKey := v.valueFrom.bind (·.secretKeyRef)

/-- Whether a container fetches what a restore asks for, with no credentials but the restore's. -/
structure Container.Fetches (p : Persistence) (r : Restore) (agent : Container) : Prop where
  name_eq : agent.name = Names.restoreAgent
  secret_eq : ∀ v ∈ agent.env.getD [], ∀ key, v.secretKey? = some key → key.name = r.secret
  bucket_eq : (agent.env.getD []).filter (·.name = "RESTORE_BUCKET") =
    [{ name := "RESTORE_BUCKET", value := some r.bucketURI }]
  destination_eq : (agent.env.getD []).filter (·.name = "RESTORE_DESTINATION") =
    [{ name := "RESTORE_DESTINATION", value := some p.baseDir }]
  mounted_iff : RestoreProvider.credentialsVolume ∈ agent.mounted ↔ r.InCloudStorage

/-- Whether pods restore data where this is asked for, and else do not. -/
structure PodSpec.Restores (s : ClusterSpec) (pod : PodSpec) : Prop where
  agent_iff : (∃ k ∈ pod.initContainers.getD [], k.name = Names.restoreAgent) ↔
    ∃ p r, s.Asks p r
  /-- The agent comes first and there is no other. -/
  agent : ∀ p r, s.Asks p r → ∃ agent, pod.initContainers = some [agent] ∧ agent.Fetches p r
  volume_iff : RestoreProvider.credentialsVolume ∈ pod.volumeNames ↔
    ∃ p r, s.Asks p r ∧ r.InCloudStorage
  secret_eq : ∀ p r, s.Asks p r → ∀ v ∈ pod.volumes.getD [],
    v.name = RestoreProvider.credentialsVolume → v.secret = some r.secret

end Kubernetes

namespace Cluster

variable {c : Cluster} {settings : Settings} {platform : Platform} {p : Persistence} {r : Restore}
  {provider : RestoreProvider} {e : Error} {s : StatefulSet} {pod : PodSpec}

theorem fetches_restoreAgentContainer (c : Cluster) (p : Persistence)
    (hprovider : r.provider = .ok provider) :
    (c.restoreAgentContainer p r provider).Fetches p r where
  name_eq := rfl
  secret_eq := by
    cases provider <;>
      simp [restoreAgentContainer, RestoreProvider.credentials, RestoreProvider.secretVariable,
        EnvVar.secretKey?]
  bucket_eq := by
    cases provider <;>
      simp [restoreAgentContainer, RestoreProvider.credentials, RestoreProvider.secretVariable]
  destination_eq := by
    cases provider <;>
      simp [restoreAgentContainer, RestoreProvider.credentials, RestoreProvider.secretVariable]
  mounted_iff := by
    rw [← Restore.provider_eq_gcs_iff hprovider]
    cases provider <;>
      simp [Container.mounted, restoreAgentContainer, RestoreProvider.mounts, dataMount,
        RestoreProvider.credentialsVolume, Names.dataVolume]

/-- The pods of a cluster that keeps data, before a restore is seen to. -/
def keepingPod (c : Cluster) (platform : Platform) (p : Persistence) : PodSpec :=
  c.withBackupAgent p (withHostPath platform p c.basicPodSpec)

theorem initContainers_keepingPod (c : Cluster) (platform : Platform) (p : Persistence) :
    (c.keepingPod platform p).initContainers = none := by
  unfold keepingPod withBackupAgent withHostPath
  cases p.isExternal <;> cases p.usesHostPath <;> rfl

theorem credentialsVolume_notMem_keepingPod (platform : Platform)
    (h : c.spec.enabledPersistence = some p) :
    RestoreProvider.credentialsVolume ∉ (c.keepingPod platform p).volumeNames := by
  intro hmem
  have hsources := sources_withHostPath platform h
  rw [keepingPod, volumeNames_withBackupAgent] at hmem
  have hfree : RestoreProvider.credentialsVolume ∉ [Names.configVolume, Names.dataVolume] := by
    decide
  exact hfree (hsources ▸ List.mem_append_left _ hmem)

/-- The pods with the agent that fetches the data first. -/
def restoringPod (c : Cluster) (platform : Platform) (p : Persistence) (r : Restore)
    (provider : RestoreProvider) : PodSpec :=
  let pod := c.keepingPod platform p
  { pod with
    volumes := some (pod.volumes.getD [] ++ provider.volumes r.secret)
    initContainers := some [c.restoreAgentContainer p r provider] }

theorem podSpec?_of_asks (h : c.spec.Asks p r) :
    c.podSpec? platform = r.provider.map (c.restoringPod platform p r) := by
  obtain ⟨hp, hr⟩ := ClusterSpec.asks_iff.1 h
  have hagents := c.initContainers_keepingPod platform p
  unfold keepingPod at hagents
  unfold podSpec? withRestoreAgent? restoringPod keepingPod
  rw [hp]
  dsimp only
  rw [hr, hagents]
  dsimp only
  cases r.provider <;> rfl

theorem podSpec?_of_restore_eq_none (platform : Platform) (h : c.spec.restore = none) :
    ∃ pod, c.podSpec? platform = .ok pod ∧ pod.initContainers = none ∧
      RestoreProvider.credentialsVolume ∉ pod.volumeNames := by
  unfold podSpec?
  cases hp : c.spec.enabledPersistence with
  | none =>
    refine ⟨_, rfl, rfl, ?_⟩
    show RestoreProvider.credentialsVolume ∉ [Names.configVolume]
    decide
  | some p =>
    have hr : p.restore = none := by
      unfold ClusterSpec.restore at h
      rwa [hp] at h
    refine ⟨c.keepingPod platform p, ?_, c.initContainers_keepingPod platform p,
      credentialsVolume_notMem_keepingPod platform hp⟩
    dsimp only
    unfold withRestoreAgent?
    rw [hr]
    rfl

theorem restores_of_podSpec? (h : c.podSpec? platform = .ok pod) : pod.Restores c.spec := by
  cases hrestore : c.spec.restore with
  | none =>
    have hasks : ¬ ∃ p r, c.spec.Asks p r := by
      rintro ⟨p, r, hasks⟩
      rw [ClusterSpec.restore_eq_some_iff.2 ⟨p, hasks⟩] at hrestore
      cases hrestore
    obtain ⟨_, hpod, hagents, hvolume⟩ := podSpec?_of_restore_eq_none platform hrestore
    obtain rfl := Except.ok.inj (h.symm.trans hpod)
    refine ⟨iff_of_false ?_ hasks, fun p r h => absurd ⟨p, r, h⟩ hasks,
      iff_of_false hvolume fun ⟨p, r, h, _⟩ => hasks ⟨p, r, h⟩,
      fun p r h => absurd ⟨p, r, h⟩ hasks⟩
    rw [hagents]
    exact fun ⟨_, hk, _⟩ => List.not_mem_nil hk
  | some r =>
    obtain ⟨p, hasks⟩ := ClusterSpec.restore_eq_some_iff.1 hrestore
    rw [podSpec?_of_asks hasks] at h
    cases hprovider : r.provider with
    | error e =>
      rw [hprovider] at h
      cases h
    | ok provider =>
      rw [hprovider] at h
      obtain rfl := Except.ok.inj h
      have hgcs := Restore.provider_eq_gcs_iff hprovider
      have hfetches := fetches_restoreAgentContainer c p hprovider
      have hfree := credentialsVolume_notMem_keepingPod platform (ClusterSpec.asks_iff.1 hasks).1
      refine ⟨iff_of_true ⟨_, List.mem_singleton_self _, rfl⟩ ⟨p, r, hasks⟩,
        fun p' r' hasks' => ?_, ?_, fun p' r' hasks' v hv hname => ?_⟩
      · obtain ⟨rfl, rfl⟩ := hasks.unique hasks'
        exact ⟨_, rfl, hfetches⟩
      · have hbrought : RestoreProvider.credentialsVolume ∈
            (provider.volumes r.secret).map (·.name) ↔ provider = .gcs := by
          cases provider <;> simp [RestoreProvider.volumes]
        rw [PodSpec.volumeNames, restoringPod, Option.getD_some, List.map_append,
          List.mem_append]
        refine (or_iff_right hfree).trans (hbrought.trans (hgcs.trans ?_))
        constructor
        · intro h
          exact ⟨p, r, hasks, h⟩
        · rintro ⟨p', r', hasks', h⟩
          obtain ⟨rfl, rfl⟩ := hasks.unique hasks'
          exact h
      · obtain ⟨rfl, rfl⟩ := hasks.unique hasks'
        rcases List.mem_append.1 hv with hv | hv
        · exact absurd (List.mem_map.2 ⟨v, hv, hname⟩) hfree
        · cases provider with
          | gcs => rw [List.mem_singleton.1 hv]
          | s3 | azureBlob => exact absurd hv List.not_mem_nil

/-! ## The check and the stateful set -/

theorem checkRestore_of_asks (h : c.spec.Asks p r) :
    c.checkRestore = r.provider.map fun _ => () := by
  unfold checkRestore
  rw [ClusterSpec.restore_eq_some_iff.2 ⟨p, h⟩]
  dsimp only
  cases r.provider <;> rfl

/-- The stateful set cannot be made exactly where the restore is refused, and for the same
reason. -/
theorem newStatefulSet?_eq_error_iff (c : Cluster) (settings : Settings) :
    c.newStatefulSet? settings = .error e ↔ c.checkRestore = .error e := by
  have hpods : c.podSpec? settings.platform = .error e ↔ c.checkRestore = .error e := by
    cases hrestore : c.spec.restore with
    | none =>
      obtain ⟨pod, hpod, -⟩ := podSpec?_of_restore_eq_none settings.platform hrestore
      unfold checkRestore
      rw [hpod, hrestore]
      exact iff_of_false nofun nofun
    | some r =>
      obtain ⟨p, hasks⟩ := ClusterSpec.restore_eq_some_iff.1 hrestore
      rw [podSpec?_of_asks hasks, checkRestore_of_asks hasks, Except.map_eq_error_iff,
        Except.map_eq_error_iff]
  rw [← hpods]
  exact Except.map_eq_error_iff

theorem check_of_checkRestore (h : c.checkRestore = .error e) : ∃ e', c.check = .error e' := by
  unfold check
  rw [h]
  cases c.checkExposure with
  | error e' => exact ⟨e', rfl⟩
  | ok _ =>
    cases c.checkLicense with
    | error e' => exact ⟨e', rfl⟩
    | ok _ => exact ⟨e, rfl⟩

/-- What the check accepts can be carried out, what cannot be carried out is a restore that the
check refuses, and what is carried out is the restore that is asked for. A stateful set that is
there already can always be brought in line, which leaves its pods with a member. -/
theorem newStatefulSet?_agrees (c : Cluster) (settings : Settings) :
    (c.check = .ok () → ∃ s, c.newStatefulSet? settings = .ok s) ∧
    (∀ found : StatefulSet, (found.sync c settings).podSpec.containers ≠ []) ∧
    (∀ e, c.newStatefulSet? settings = .error e →
      (∃ p r, c.spec.Asks p r) ∧ c.checkRestore = .error e ∧ ∃ e', c.check = .error e') ∧
    ∀ s, c.newStatefulSet? settings = .ok s →
      ∃ set pod, s.spec = some set ∧ set.template.spec = some pod ∧ pod.Restores c.spec := by
  refine ⟨fun hcheck => ?_, StatefulSet.containers_sync_ne_nil c settings, fun e he => ?_,
    fun s hs => ?_⟩
  · cases hmade : c.newStatefulSet? settings with
    | ok s => exact ⟨s, rfl⟩
    | error e =>
      obtain ⟨e', he'⟩ := check_of_checkRestore ((c.newStatefulSet?_eq_error_iff settings).1 hmade)
      rw [hcheck] at he'
      cases he'
  · have hrefused := (c.newStatefulSet?_eq_error_iff settings).1 he
    refine ⟨?_, hrefused, check_of_checkRestore hrefused⟩
    cases hrestore : c.spec.restore with
    | some r =>
      obtain ⟨p, hasks⟩ := ClusterSpec.restore_eq_some_iff.1 hrestore
      exact ⟨p, r, hasks⟩
    | none =>
      unfold checkRestore at hrefused
      rw [hrestore] at hrefused
      cases hrefused
  · unfold newStatefulSet? at hs
    cases hpod : c.podSpec? settings.platform with
    | error e =>
      rw [hpod] at hs
      cases hs
    | ok pod =>
      rw [hpod] at hs
      obtain rfl := Except.ok.inj hs
      have hrestores := restores_of_podSpec? hpod
      exact ⟨_, pod.sync c settings, rfl, rfl, hrestores.agent_iff, hrestores.agent,
        hrestores.volume_iff, hrestores.secret_eq⟩

/-- A cluster that is to be restored from where there is no provider. -/
def unprovided : Cluster where
  metadata := { name := some "hz" }
  spec := {
    persistence := some {
      baseDir := "/data/hot-restart"
      restore := some { bucketURI := "ftp://backups", secret := "credentials" } } }

theorem newStatefulSet?_agrees_restoring :
    (restoring.check = .ok () ∧ ∃ s set pod agent, restoring.newStatefulSet? {} = .ok s ∧
      s.spec = some set ∧ set.template.spec = some pod ∧ pod.initContainers = some [agent] ∧
        RestoreProvider.credentialsVolume ∈ agent.mounted) ∧
    ∃ e, unprovided.newStatefulSet? {} = .error e ∧ ∃ e', unprovided.check = .error e' := by
  have hcheck : restoring.check = .ok () := by decide +kernel
  obtain ⟨haccepted, -, -, hmade⟩ := newStatefulSet?_agrees restoring {}
  obtain ⟨s, hs⟩ := haccepted hcheck
  obtain ⟨set, pod, hset, hpod, hrestores⟩ := hmade s hs
  obtain ⟨agent, hagent, hfetches⟩ := hrestores.agent _ _ ⟨rfl, by decide, rfl⟩
  refine ⟨⟨hcheck, s, set, pod, agent, hs, hset, hpod, hagent, hfetches.mounted_iff.2 ?_⟩, ?_⟩
  · show "gs://".toList <+: "gs://backups".toList
    decide
  · have hrefused : unprovided.checkRestore =
        .error (.invalid (.unknownProvider "ftp://backups")) := by decide +kernel
    have herror := (unprovided.newStatefulSet?_eq_error_iff {}).2 hrefused
    exact ⟨_, herror, ((newStatefulSet?_agrees unprovided {}).2.2.1 _ herror).2.2⟩

end Cluster

end GridOperator
