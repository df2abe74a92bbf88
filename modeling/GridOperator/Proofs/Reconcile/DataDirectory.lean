import GridOperator.Proofs.Reconcile.Resumption

/-!
# Where members keep their data

The configuration is written anew in every pass and names the directory of the
specification at that time. The directory that is mounted is the one of the pass
that has made the stateful set. Passes may end anywhere and the specification may
be edited between them: the two are the same exactly if both specifications ask
for the same directory, or for none.
-/

namespace GridOperator

open Kubernetes Pass
open MemoryStore (Partly Wholly)

/-! ## The directory of a configuration -/

/-- The directory that members are to keep their data in, if they are to keep it. -/
def Cluster.dataDir? (c : Cluster) : Option String := c.spec.enabledPersistence.map (·.baseDir)

def MemberConfig.dataDir? (config : MemberConfig) : Option String :=
  config.storage.map (·.baseDir)

theorem Cluster.dataDir?_memberConfig (c : Cluster) (maps : List DataMap) :
    (c.memberConfig maps).dataDir? = c.dataDir? := Option.map_map _ _ _

namespace Kubernetes.ConfigMap

/-- A configuration map that keeps no other data besides its own, like all that are read. -/
def WellFormed (m : ConfigMap) : Prop := "data" ∉ m.other.map (·.1)

theorem wellFormed_ofNormal (j : Json) : (ofNormal j).WellFormed := by
  simp [WellFormed, ofNormal, Members.without]

theorem get?_data {m : ConfigMap} (hm : m.WellFormed) :
    Table.get? "data" m.toJson.members = m.data.map TextMap.toJson := by
  unfold toJson
  rw [Json.get?_sorted (by simp only [List.map_cons, List.map_nil]; decide) hm]
  rfl

theorem data_eq_of_toJson {m n : ConfigMap} (hm : m.WellFormed) (hn : n.WellFormed)
    (h : m.toJson = n.toJson) : m.data = n.data := by
  refine Option.map_injective (fun _ _ => TextMap.toJson_injective) ?_
  rw [← get?_data hm, ← get?_data hn, h]

end Kubernetes.ConfigMap

/-! ## The directory that is mounted -/

namespace Kubernetes

/-- What is mounted into the container of the member. -/
def PodSpec.mounts? (p : PodSpec) : Option (List VolumeMount) :=
  (p.containers.find? (·.name = Names.member)).bind (·.volumeMounts)

/-- What is mounted is left as it is. -/
theorem PodSpec.mounts?_sync {p : PodSpec} {mounts : List VolumeMount}
    (h : p.mounts? = some mounts) (c : Cluster) (settings : Settings) :
    (p.sync c settings).mounts? = some mounts := by
  unfold mounts? at h ⊢
  cases hall : p.containers with
  | nil =>
    rw [hall] at h
    cases h
  | cons m ms =>
    rw [hall] at h
    have hsync : (p.sync c settings).containers = m.sync c settings :: ms := by
      simp only [sync, hall]
    rw [hsync]
    have hname : (m.sync c settings).name = m.name := rfl
    by_cases hm : m.name = Names.member
    · rw [List.find?_cons_of_pos (by simpa using hm)] at h
      rw [List.find?_cons_of_pos (by simpa [hname] using hm)]
      exact h
    · rw [List.find?_cons_of_neg (by simpa using hm)] at h
      rw [List.find?_cons_of_neg (by simpa [hname] using hm)]
      exact h

namespace StatefulSet

def mounts? (s : StatefulSet) : Option (List VolumeMount) :=
  (s.spec.bind (·.template.spec)).bind (·.mounts?)

/-- Where the volume for data is mounted into the container of the member. -/
def mountedDir? (s : StatefulSet) : Option String :=
  s.mounts?.bind fun l => (l.find? (·.name = Names.dataVolume)).map (·.mountPath)

theorem mounts?_sync {s : StatefulSet} {mounts : List VolumeMount} (h : s.mounts? = some mounts)
    (c : Cluster) (settings : Settings) : (s.sync c settings).mounts? = some mounts := by
  obtain ⟨pod, hpod, h⟩ := Option.bind_eq_some_iff.1 h
  obtain ⟨spec, hspec, hpod⟩ := Option.bind_eq_some_iff.1 hpod
  have hsync : (s.sync c settings).mounts? =
      (((s.spec.getD {}).template.spec.getD .empty).sync c settings).mounts? := rfl
  rw [hsync, hspec, Option.getD_some, hpod]
  exact PodSpec.mounts?_sync h c settings

theorem mountedDir?_of_mounts? {s : StatefulSet} {c : Cluster}
    (h : s.mounts? = some c.memberMounts) : s.mountedDir? = c.dataDir? := by
  have hconfig : Names.configVolume ≠ Names.dataVolume := by decide
  unfold mountedDir? Cluster.dataDir?
  rw [h, Option.bind_some, Cluster.memberMounts, List.find?_cons_of_neg (by simpa using hconfig)]
  cases c.spec.enabledPersistence <;> rfl

end StatefulSet

end Kubernetes

namespace Cluster

variable {c : Cluster} {settings : Settings}

/-- Agents and volumes are put beside the member, whose mounts they do not touch. -/
theorem mounts?_of_podSpec? {platform : Platform} {pod : PodSpec}
    (h : c.podSpec? platform = .ok pod) : pod.mounts? = some c.memberMounts := by
  have hfirst : ∃ m ms, pod.containers = m :: ms ∧ m.name = Names.member ∧
      m.volumeMounts = some c.memberMounts := by
    unfold podSpec? at h
    cases hp : c.spec.enabledPersistence with
    | none =>
      rw [hp] at h
      obtain rfl := Except.ok.inj h
      exact ⟨_, _, rfl, rfl, rfl⟩
    | some p =>
      rw [hp] at h
      have hrestore : pod.containers =
          (c.withBackupAgent p (withHostPath platform p c.basicPodSpec)).containers := by
        dsimp only at h
        unfold withRestoreAgent? at h
        split at h
        · obtain rfl := Except.ok.inj h
          rfl
        · rename_i r _
          cases hprovider : r.provider with
          | error e =>
            rw [hprovider] at h
            cases h
          | ok provider =>
            rw [hprovider] at h
            obtain rfl := Except.ok.inj h
            rfl
      rw [hrestore]
      unfold withBackupAgent withHostPath
      cases p.isExternal <;> cases p.usesHostPath <;> exact ⟨_, _, rfl, rfl, rfl⟩
  obtain ⟨m, ms, hpod, hm, hmounts⟩ := hfirst
  unfold PodSpec.mounts?
  rw [hpod, List.find?_cons_of_pos (by simpa using hm)]
  exact hmounts

theorem mounts?_of_newStatefulSet? {s : StatefulSet} (h : c.newStatefulSet? settings = .ok s) :
    s.mounts? = some c.memberMounts := by
  unfold newStatefulSet? at h
  cases hpod : c.podSpec? settings.platform with
  | error e =>
    rw [hpod] at h
    cases h
  | ok pod =>
    rw [hpod] at h
    obtain rfl := Except.ok.inj h
    refine StatefulSet.mounts?_sync ?_ c settings
    exact mounts?_of_podSpec? hpod

/-! ## What a pass does to the two objects -/

variable {maps : List DataMap} {configs configs' : MemoryStore ConfigMap}
  {sets sets' : MemoryStore StatefulSet}

/-- A configuration map that is there, in line with the specification. -/
def configOver (c : Cluster) (maps : List DataMap) (found : ConfigMap) : ConfigMap :=
  { found with
    data := (c.desiredConfig maps).data
    metadata := { found.metadata with labels := (c.desiredConfig maps).metadata.labels } }

theorem goal_configGoals (hname : c.metadata.name = some c.name) (maps : List DataMap) :
    Goal.of (c.configGoals maps) c.name =
      .bring (c.desiredConfig maps) fun found => .ok (c.configOver maps found) := by
  have hanyName : Resource.anyName (c.desiredConfig maps) = c.name :=
    ObjectMeta.anyName_of_name hname
  rw [configGoals, Goal.inLine, Goal.of_singleton, if_pos hanyName.symm]
  rfl

/-- The configuration that is stored in the end is well formed and, if the goal is met, the one of
the specification. -/
theorem wellFormed_configGoals (hname : c.metadata.name = some c.name)
    (hw : ∀ m, configs.objects.get? c.name = some m → m.WellFormed)
    (h : Partly (c.configGoals maps) configs configs') :
    ∀ m, configs'.objects.get? c.name = some m → m.WellFormed := by
  intro m hm
  rcases h c.name with hsame | hmet
  · exact hw m (hsame ▸ hm)
  · rw [goal_configGoals hname] at hmet
    obtain ⟨changed, hchanged, hmet⟩ := hmet
    obtain rfl := Except.ok.inj hchanged
    split at hmet
    · exact hw m (hmet ▸ hm)
    · obtain ⟨version, hstored⟩ := hmet
      obtain rfl := Option.some.inj (hstored.symm.trans hm)
      cases hfound : configs.objects.get? c.name with
      | none => exact List.not_mem_nil
      | some found => exact hw found hfound

theorem data_configGoals (hname : c.metadata.name = some c.name)
    (hw : ∀ m, configs.objects.get? c.name = some m → m.WellFormed)
    (h : Wholly (c.configGoals maps) configs configs') :
    ∃ m, configs'.objects.get? c.name = some m ∧ m.data = (c.desiredConfig maps).data := by
  have hmet := h c.name
  rw [goal_configGoals hname] at hmet
  obtain ⟨changed, hchanged, hmet⟩ := hmet
  obtain rfl := Except.ok.inj hchanged
  split at hmet
  · rename_i hany
    obtain ⟨found, hfound, hsame⟩ := (Option.any_eq_true _ _).1 hany
    rw [hfound, Option.getD_some] at hsame
    have hdata := ConfigMap.data_eq_of_toJson (m := c.configOver maps found) (hw found hfound)
      (hw found hfound) (of_decide_eq_true hsame)
    exact ⟨found, hmet.trans hfound, hdata.symm⟩
  · obtain ⟨version, hstored⟩ := hmet
    exact ⟨_, hstored, rfl⟩

/-- The mounts of a stateful set that is there stay, and a new one has those of the
specification. -/
theorem mounts?_statefulSetGoals (hname : c.metadata.name = some c.name) {made : Option Cluster}
    (hw : (sets.objects.get? c.name).map StatefulSet.mounts? = made.map (some ·.memberMounts))
    (h : Partly (c.statefulSetGoals settings) sets sets') :
    (sets'.objects.get? c.name).map StatefulSet.mounts? =
      (made <|> (sets'.objects.get? c.name).map fun _ => c).map (some ·.memberMounts) := by
  rcases PassWorld.get?_statefulSet_of_partly hname h with hsame |
    ⟨desired, version, hdesired, hstored⟩
  · cases made with
    | none =>
      have hnone := Option.map_eq_none_iff.1 hw
      rw [hsame, hnone]
      rfl
    | some d =>
      rw [hsame, hw]
      rfl
  · have hversion : ∀ s : StatefulSet, (Resource.withVersion s version).mounts? = s.mounts? :=
      fun _ => rfl
    rw [hstored, Option.map_some, hversion]
    cases made with
    | none =>
      have hnone := Option.map_eq_none_iff.1 hw
      rw [hnone, Option.getD_none,
        StatefulSet.mounts?_sync (mounts?_of_newStatefulSet? hdesired) c settings]
      rfl
    | some d =>
      obtain ⟨found, hfound, hmounts⟩ := Option.map_eq_some_iff.1 hw
      rw [hfound, Option.getD_some, StatefulSet.mounts?_sync hmounts c settings]
      rfl

end Cluster

namespace PassWorld

/-! ## Runs -/

variable {c : Cluster} {w w' : PassWorld} {settings : Settings} {o : Outlook} {name : String}
  {made : Option Cluster}

/-- What passes over the cluster of a name may come to, with the cluster as it was for the pass that
has made the stateful set. Any call of a pass may fail, and between passes the specification may be
edited and anything else may change, but what is mounted stays as it was made. -/
inductive Run (name : String) : Option Cluster → PassWorld → Prop where
  | start {w : PassWorld} : w.statefulSets.objects.get? name = none →
      (∀ m, w.configMaps.objects.get? name = some m → m.WellFormed) → Run name none w
  | pass {made : Option Cluster} {w w' : PassWorld} {c : Cluster} {settings : Settings}
      {o : Outlook} {r : Except Error Next} : Run name made w → c.metadata.name = some name →
      c.metadata.isDeleted = false →
      Exec (environment .unreliable o) (c.reconcile settings) w r w' →
      Run name (made <|> (w'.statefulSets.objects.get? name).map fun _ => c) w'
  | others {made : Option Cluster} {w w' : PassWorld} : Run name made w →
      (w'.statefulSets.objects.get? name).map StatefulSet.mounts? =
        (w.statefulSets.objects.get? name).map StatefulSet.mounts? →
      (∀ m, w'.configMaps.objects.get? name = some m → m.WellFormed) → Run name made w'

/-- What a run keeps: the mounts are those that the stateful set was made with. -/
structure Mounted (name : String) (made : Option Cluster) (w : PassWorld) : Prop where
  sets : (w.statefulSets.objects.get? name).map StatefulSet.mounts? =
    made.map (some ·.memberMounts)
  configs : ∀ m, w.configMaps.objects.get? name = some m → m.WellFormed

theorem Mounted.pass (hw : Mounted c.name made w) (hname : c.metadata.name = some c.name)
    (h : Advanced o c settings w w') :
    Mounted c.name (made <|> (w'.statefulSets.objects.get? c.name).map fun _ => c) w' := by
  obtain ⟨hconfig, hset⟩ : Partly (c.configGoals o.maps) w.configMaps w'.configMaps ∧
      Partly (c.statefulSetGoals settings) w.statefulSets w'.statefulSets := by
    rcases h.placed with ⟨hconfig, hset⟩ | ⟨-, -, hconfig, hset⟩
    · rw [hconfig, hset]
      exact ⟨MemoryStore.partly_refl _ _, MemoryStore.partly_refl _ _⟩
    · exact ⟨hconfig, hset⟩
  exact ⟨Cluster.mounts?_statefulSetGoals hname hw.sets hset,
    Cluster.wellFormed_configGoals hname hw.configs hconfig⟩

theorem Run.mounted (h : Run name made w) : Mounted name made w := by
  induction h with
  | start hset hconfig => exact ⟨by rw [hset]; rfl, hconfig⟩
  | @pass made w w' c settings o r _ hname hlive h ih =>
    obtain rfl : c.name = name := by rw [Cluster.name, hname, Option.getD_some]
    exact ih.pass hname (exec_reconcile hlive h).1
  | others _ hset hconfig ih => exact ⟨hset.trans ih.sets, hconfig⟩

/-- After a pass that has got through to the stateful set, the configuration is the one of the
specification, and it names the directory that is mounted exactly if the stateful set was made for
that directory. -/
theorem dataDir?_eq_mountedDir?_iff (run : Run c.name made w)
    (hname : c.metadata.name = some c.name) (hlive : c.metadata.isDeleted = false) {n : Next}
    (h : Exec (environment .unreliable o) (c.reconcile settings) w (.ok n) w')
    (hready : Ready o c w') :
    ∃ config m s, w'.configMaps.objects.get? c.name = some m ∧
      w'.statefulSets.objects.get? c.name = some s ∧
      m.data = some [(Names.configFile, config.render)] ∧
      config = c.memberConfig (o.maps.filter c.owns) ∧
      (config.dataDir? = s.mountedDir? ↔ c.dataDir? = (made.getD c).dataDir?) := by
  obtain ⟨hadvanced, hcompleted⟩ := exec_reconcile hlive h
  obtain ⟨hconfig, hset, desired, hdesired⟩ := (hcompleted n rfl).2.placed hready
  have hmounted := run.mounted
  obtain ⟨m, hm, hdata⟩ := Cluster.data_configGoals hname hmounted.configs hconfig
  obtain ⟨s, hs⟩ : ∃ s, w'.statefulSets.objects.get? c.name = some s := by
    have hreached := hset.settled (c.lasting_statefulSetGoals settings) c.name
    rw [Cluster.statefulSetGoals_of_ok hdesired, Goal.inLine, Goal.of_singleton,
      if_pos (Cluster.anyName_of_newStatefulSet? hname hdesired).symm] at hreached
    obtain ⟨s, -, hs, -⟩ := hreached
    exact ⟨s, hs⟩
  have hmounts : s.mounts? = some (made.getD c).memberMounts := by
    have hend := (hmounted.pass hname hadvanced).sets
    rw [hs] at hend
    cases made <;> exact Option.some.inj hend
  refine ⟨_, m, s, hm, hs, hdata, rfl, ?_⟩
  rw [Cluster.dataDir?_memberConfig, StatefulSet.mountedDir?_of_mounts? hmounts]

/-! ### A directory that is edited -/

/-- The cluster with some number of members that keep their data on the node. -/
def keeping (size : Int32) (dir : String) (c : Cluster) : Cluster :=
  { c with spec := { c.spec with
      clusterSize := size
      persistence := some { baseDir := dir, hostPath := "/mnt/hz" } } }

def keepingStored : PassWorld where
  clusters := { objects := [("hz", keeping 1 "/data" single)], version := 1 }

/-- What a first pass leaves. -/
def kept : PassWorld :=
  (((keeping 1 "/data" single).reconcile {}).run.run (serve {}) keepingStored).2

/-- The same with another directory, and one more member, in the specification. The configuration
has been deleted. -/
def redirectedStored : PassWorld :=
  let edited := keeping 2 "/data/hz" ((kept.clusters.objects.get? "hz").getD single)
  { kept with clusters := kept.clusters.put "hz" edited, configMaps := {} }

def redirected : Cluster := (redirectedStored.clusters.objects.get? "hz").getD single

/-- The next pass gets through, and members are told of a directory that is not mounted. -/
theorem dataDir?_eq_mountedDir?_iff_redirected : ∃ n w' config m s,
    Exec (environment .unreliable {}) (redirected.reconcile {}) redirectedStored (.ok n) w' ∧
    w'.configMaps.objects.get? "hz" = some m ∧ w'.statefulSets.objects.get? "hz" = some s ∧
    m.data = some [(Names.configFile, MemberConfig.render config)] ∧
    config.dataDir? = some "/data/hz" ∧ config.dataDir? ≠ s.mountedDir? := by
  have hname : redirected.name = "hz" := by decide +kernel
  have hnamed : redirected.metadata.name = some redirected.name := by decide +kernel
  have hlive : redirected.metadata.isDeleted = false := by decide +kernel
  have hstart : Run "hz" none keepingStored := .start rfl fun _ hm => by cases hm
  have hmade : (kept.statefulSets.objects.get? "hz").map (fun _ => keeping 1 "/data" single) =
      some (keeping 1 "/data" single) := by decide +kernel
  have hfirst : Run "hz" (some (keeping 1 "/data" single)) kept := by
    rw [← hmade]
    exact hstart.pass rfl rfl (exec_of_reliable (exec_serve _ keepingStored))
  have hrun : Run redirected.name (some (keeping 1 "/data" single)) redirectedStored := by
    rw [hname]
    have hsets : redirectedStored.statefulSets = kept.statefulSets := rfl
    have hlost : redirectedStored.configMaps = {} := rfl
    refine hfirst.others (by rw [hsets]) fun m hm => ?_
    rw [hlost] at hm
    cases hm
  obtain ⟨n, w', h⟩ : ∃ n w', Exec (environment .reliable {}) (redirected.reconcile {})
    redirectedStored (.ok n) w' := exists_exec_of_isOk (by decide +kernel)
  have h := exec_of_reliable h
  have hready : Ready {} redirected w' := by
    have hplain : redirected.spec.isSmart = false := by decide +kernel
    unfold Ready reachable Cluster.perPodReady
    rw [hplain]
    rfl
  obtain ⟨config, m, s, hm, hs, hdata, hconfig, hiff⟩ :=
    dataDir?_eq_mountedDir?_iff hrun hnamed hlive h hready
  rw [hname] at hm hs
  have hdir : config.dataDir? = some "/data/hz" := by
    rw [hconfig, Cluster.dataDir?_memberConfig]
    decide +kernel
  refine ⟨n, w', config, m, s, h, hm, hs, hdata, hdir, fun hsame => ?_⟩
  have hdirs := hiff.1 hsame
  rw [Option.getD_some] at hdirs
  exact absurd hdirs (by decide +kernel)

end PassWorld

end GridOperator
