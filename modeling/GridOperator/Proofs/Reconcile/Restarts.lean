import GridOperator.Proofs.Desired.Overwriting
import GridOperator.Proofs.Desired.References
import GridOperator.Proofs.Reconcile.Annotations

/-!
# Which edits restart the members

Members are restarted when the template of their pods changes. The template goes by
a few fields of a specification (`Cluster.SamePods`), and an edit of any other field
leaves it as it is. What the members read at their start gets into the template by
the checksum of the part whose change they have to be restarted for.
-/

namespace GridOperator

open Kubernetes Pass

/-! ## What documents tell -/

namespace Yaml

/-- Values for the same keys can be told from the document. -/
theorem lookup_eq_of_ofSome {es es' : List (String × Option Yaml)} (h : ofSome es = ofSome es')
    (hes : (es.map (·.1)).Nodup) (hes' : (es'.map (·.1)).Nodup) (key : String) :
    (es.lookup key).join = (es'.lookup key).join := by
  rw [← field?_ofSome hes, h, field?_ofSome hes']

theorem nonempty_inj {s t : String} (h : nonempty s = nonempty t) : s = t := by
  unfold nonempty at h
  split at h <;> split at h
  · rename_i hs ht
    rw [String.isEmpty_iff.1 hs, String.isEmpty_iff.1 ht]
  · cases h
  · cases h
  · exact Yaml.str.inj (Option.some.inj h)

theorem eq_of_ite_some {a b : Bool} {y : Yaml}
    (h : (if a then some y else none) = if b then some y else none) : a = b := by
  cases a <;> cases b
  · rfl
  · cases h
  · cases h
  · rfl

end Yaml

theorem Discovery.toYaml_injective : Function.Injective Discovery.toYaml := by
  intro d d' h
  have hvalue := Yaml.lookup_eq_of_ofSome h (by simp) (by simp)
  have henabled : d.enabled = d'.enabled := Yaml.eq_of_ite_some (hvalue "enabled")
  have hservice : d.serviceName = d'.serviceName := Yaml.nonempty_inj (hvalue "service-name")
  have hnode : d.usesNodeName = d'.usesNodeName :=
    Yaml.eq_of_ite_some (hvalue "use-node-name-as-external-address")
  have hperPod : d.perPod = d'.perPod := Yaml.eq_of_ite_some (hvalue "service-per-pod-label-name")
  cases d
  cases d'
  exact (Discovery.mk.injEq ..).mpr ⟨henabled, hservice, hnode, hperPod⟩

/-! ## What forces a restart -/

namespace MemberConfig

/-- The part of the configuration that forces a restart is made from three things. -/
theorem forcingRestart_eq_iff {c d : Cluster} :
    (ofCluster c).forcingRestart = (ofCluster d).forcingRestart ↔
      c.spec.clusterName = d.spec.clusterName ∧
      c.spec.exposeExternally.any (·.usesNodeName) = d.spec.exposeExternally.any (·.usesNodeName) ∧
      c.spec.isSmart = d.spec.isSmart := by
  simp only [forcingRestart, ofCluster, MemberConfig.mk.injEq, Discovery.mk.injEq, true_and,
    and_true]
  exact and_comm

/-- Two such parts are the same if they are written the same. -/
theorem toYaml_forcingRestart_eq_iff {config other : MemberConfig} :
    config.forcingRestart.toYaml = other.forcingRestart.toYaml ↔
      config.forcingRestart = other.forcingRestart := by
  refine ⟨fun h => ?_, congrArg toYaml⟩
  have hvalue := Yaml.lookup_eq_of_ofSome h (by simp) (by simp)
  have hname : config.clusterName = other.clusterName := Yaml.nonempty_inj (hvalue "cluster-name")
  have hnetwork := Yaml.lookup_eq_of_ofSome (Option.some.inj (hvalue "network")) (by simp) (by simp)
  have hjoin := Yaml.map.inj (Option.some.inj (hnetwork "join"))
  have hdiscovery := Discovery.toYaml_injective (Prod.mk.inj (List.cons.inj hjoin).1).2
  unfold forcingRestart
  rw [hname]
  exact congrArg (MemberConfig.mk _ _ · _ _ _) hdiscovery

end MemberConfig

namespace Cluster

/-- Clusters whose pods are made alike: their specifications agree on the fields that the template
of the pods goes by. -/
structure SamePods (c d : Cluster) : Prop where
  clusterName : c.spec.clusterName = d.spec.clusterName
  exposure : c.spec.exposeExternally.map (fun e => (e.type, e.memberAccess)) =
    d.spec.exposeExternally.map fun e => (e.type, e.memberAccess)
  image : c.spec.image = d.spec.image
  imagePullPolicy : c.spec.imagePullPolicy = d.spec.imagePullPolicy
  imagePullSecrets : c.spec.imagePullSecrets = d.spec.imagePullSecrets
  licenseKeySecret : c.spec.licenseKeySecret = d.spec.licenseKeySecret
  scheduling : c.spec.scheduling = d.spec.scheduling
  resources : c.spec.resources = d.spec.resources

namespace SamePods

variable {c d : Cluster}

/-- Exposures differ at most in the type of the discovery service. -/
theorem exposure_cases (h : c.SamePods d) :
    (c.spec.exposeExternally = none ∧ d.spec.exposeExternally = none) ∨
      ∃ e discovery, c.spec.exposeExternally = some e ∧
        d.spec.exposeExternally = some { e with discoveryServiceType := discovery } := by
  have hexposure := h.exposure
  cases hc : c.spec.exposeExternally with
  | none =>
    rw [hc, Option.map_none, eq_comm, Option.map_eq_none_iff] at hexposure
    exact .inl ⟨rfl, hexposure⟩
  | some e =>
    rw [hc, Option.map_some, eq_comm, Option.map_eq_some_iff] at hexposure
    obtain ⟨⟨type, discovery, access⟩, hd, heq⟩ := hexposure
    cases heq
    exact .inr ⟨e, discovery, rfl, hd⟩

theorem forcingRestart_eq (h : c.SamePods d) :
    (MemberConfig.ofCluster c).forcingRestart = (MemberConfig.ofCluster d).forcingRestart := by
  refine MemberConfig.forcingRestart_eq_iff.2 ⟨h.clusterName, ?_⟩
  unfold ClusterSpec.isSmart
  rcases h.exposure_cases with ⟨hc, hd⟩ | ⟨e, discovery, hc, hd⟩
  · rw [hc, hd]
    exact ⟨rfl, rfl⟩
  · rw [hc, hd]
    exact ⟨rfl, rfl⟩

theorem podAnnotations_eq (h : c.SamePods d) : c.podAnnotations = d.podAnnotations := by
  unfold podAnnotations MemberConfig.restartChecksum
  rw [h.forcingRestart_eq]
  rcases h.exposure_cases with ⟨hc, hd⟩ | ⟨e, discovery, hc, hd⟩
  · rw [hc, hd]
  · have hsmart : Exposure.isSmart { e with discoveryServiceType := discovery } = e.isSmart := rfl
    rw [hc, hd, Option.filter_some, Option.filter_some, hsmart]
    cases e.isSmart <;> rfl

theorem managedPods_eq (h : c.SamePods d) (settings : Settings) :
    c.managedPods settings = d.managedPods settings := by
  unfold managedPods environment
  rw [h.podAnnotations_eq, h.imagePullSecrets, h.scheduling, h.image, h.imagePullPolicy,
    h.licenseKeySecret, h.resources]

end SamePods

end Cluster

namespace Kubernetes

/-- The managed part is all that a cluster has to do with pods that have a member. -/
theorem PodTemplate.sync_congr {c d : Cluster} {settings : Settings} {t : PodTemplate}
    (h : c.managedPods settings = d.managedPods settings)
    (ht : (t.spec.getD .empty).containers ≠ []) : t.sync c settings = t.sync d settings := by
  simp only [Cluster.managedPods, ManagedPods.mk.injEq, Option.some.injEq] at h
  obtain ⟨hann, hsecrets, haffinity, htolerations, hselector, hspread, himage, hpolicy, henv,
    hresources⟩ := h
  unfold PodTemplate.sync PodSpec.sync Container.sync
  cases hcontainers : (t.spec.getD .empty).containers with
  | nil => exact absurd hcontainers ht
  | cons m ms => simp only [*]

theorem StatefulSet.template_sync_congr {c d : Cluster} {s : StatefulSet} (h : c.SamePods d)
    (hs : s.podSpec.containers ≠ []) (settings : Settings) :
    (s.sync c settings).template = (s.sync d settings).template :=
  PodTemplate.sync_congr (h.managedPods_eq settings) hs

end Kubernetes

namespace PassWorld

/-- Clusters whose specifications agree on some fields are given the same pods, so that the members
go on where the one is edited to become the other: wherever a pass ends, it leaves the template as
it was, if that was in line before the edit. The configurations of two clusters force a restart
alike exactly if they agree on three things, and are written alike exactly then. -/
theorem template_sync_eq_and_forcingRestart_eq_iff (c d : Cluster) (settings : Settings) :
    (c.SamePods d → ∀ s : StatefulSet, s.podSpec.containers ≠ [] →
      (s.sync c settings).template = (s.sync d settings).template ∧
      ∀ {o : Outlook} {w w' : PassWorld} {r : Except Error Next},
        (s.sync c settings).template = s.template → d.metadata.name = some d.name →
        w.statefulSets.objects.get? d.name = some s →
        Exec (environment .unreliable o) (d.reconcile settings) w r w' →
        ∃ s', w'.statefulSets.objects.get? d.name = some s' ∧ s'.template = s.template) ∧
    ((MemberConfig.ofCluster c).forcingRestart = (MemberConfig.ofCluster d).forcingRestart ↔
      c.spec.clusterName = d.spec.clusterName ∧
      c.spec.exposeExternally.any (·.usesNodeName) = d.spec.exposeExternally.any (·.usesNodeName) ∧
      c.spec.isSmart = d.spec.isSmart) ∧
    ((MemberConfig.ofCluster c).forcingRestart.toYaml =
        (MemberConfig.ofCluster d).forcingRestart.toYaml ↔
      (MemberConfig.ofCluster c).forcingRestart = (MemberConfig.ofCluster d).forcingRestart) := by
  refine ⟨fun hsame s hmember => ?_, MemberConfig.forcingRestart_eq_iff,
    MemberConfig.toYaml_forcingRestart_eq_iff⟩
  have htemplate := StatefulSet.template_sync_congr hsame hmember settings
  refine ⟨htemplate, fun hline hname hs h => ?_⟩
  obtain ⟨s', hs', rfl | ⟨version, rfl⟩⟩ := exists_kept hname hs h
  · exact ⟨_, hs', rfl⟩
  · exact ⟨_, hs', htemplate.symm.trans hline⟩

/-! ### A cluster that grows -/

/-- The cluster with more members, which keep their data. -/
def grown : Cluster :=
  { single with spec := { single.spec with
      clusterSize := 3
      persistence := some { baseDir := "/data" } } }

/-- The stateful set of a cluster of one member. -/
def singleSet : StatefulSet :=
  StatefulSet.sync single {} {
    metadata := { name := some "hz", space := some "default", resourceVersion := some "1" }
    spec := some { template := { spec := some { containers := [single.memberContainer] } } } }

def grownStored : PassWorld where
  clusters := { objects := [("hz", grown)], version := 1 }
  statefulSets := { objects := [("hz", singleSet)], version := 1 }

/-- More members are asked for, and none of those that are there is restarted. -/
theorem template_sync_eq_and_forcingRestart_eq_iff_grown : ∃ n w' s',
    Exec (environment .unreliable {}) (grown.reconcile {}) grownStored (.ok n) w' ∧
    w'.statefulSets.objects.get? "hz" = some s' ∧ s'.template = singleSet.template := by
  obtain ⟨n, w', h⟩ : ∃ n w', Exec (environment .reliable {}) (grown.reconcile {}) grownStored
    (.ok n) w' := exists_exec_of_isOk (by decide +kernel)
  have h := exec_of_reliable h
  have hsame : single.SamePods grown := {
    clusterName := rfl
    exposure := rfl
    image := rfl
    imagePullPolicy := rfl
    imagePullSecrets := rfl
    licenseKeySecret := rfl
    scheduling := rfl
    resources := rfl }
  have hmember : singleSet.podSpec.containers ≠ [] := List.cons_ne_nil _ _
  have hline : (singleSet.sync single {}).template = singleSet.template :=
    congrArg (·.template) (StatefulSet.sync_sync (.inr rfl) _ _)
  obtain ⟨s', hs', htemplate⟩ :=
    ((template_sync_eq_and_forcingRestart_eq_iff single grown {}).1 hsame singleSet hmember).2
      hline rfl rfl h
  exact ⟨n, w', s', h, hs', htemplate⟩

end PassWorld

end GridOperator
