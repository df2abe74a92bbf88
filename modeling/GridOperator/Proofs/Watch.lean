import GridOperator.Proofs.Observed.Addresses
import GridOperator.Proofs.Reconcile.Strictness
import GridOperator.Proofs.Text.Cutting
import GridOperator.Watch

/-!
# What a pass looks at, and what leads to it

A pass over a cluster looks at the pods that carry the cluster's labels and at the maps
that name the cluster. A change of any of them has to lead to a pass over this cluster,
or it is not seen until the next pass comes by itself (`Cluster.isFollowed_of_space`).
-/

namespace GridOperator

open Kubernetes Pass Text
open ClusterPass (within teardownRoute)

/-! ## Selectors in words -/

/-- The labels that a selector asks for, each with its value. -/
def Selector.parse? (text : String) : Option TextMap :=
  (splitAll ',' text.toList).mapM fun part =>
    match splitAll '=' part with
    | [key, value] => some (String.ofList key, String.ofList value)
    | _ => none

/-- Whether no label has a sign with a meaning in selectors. -/
def Selector.IsPlain (labels : TextMap) : Prop :=
  ∀ l ∈ labels, ∀ sep ∈ [',', '='], sep ∉ l.1.toList ∧ sep ∉ l.2.toList

theorem Selector.parse?_selector {labels : TextMap} (hne : labels ≠ []) (h : IsPlain labels) :
    parse? (Request.selector labels) = some labels := by
  have hcomma : ",".toList = [','] := rfl
  have hequals : "=".toList = ['='] := rfl
  unfold parse? Request.selector
  induction labels with
  | nil => exact absurd rfl hne
  | cons l ls ih =>
    obtain ⟨hl, hls⟩ := List.forall_mem_cons.1 h
    have hpart : (l.1 ++ "=" ++ l.2).toList = l.1.toList ++ '=' :: l.2.toList := by
      simp [String.toList_append, hequals]
    have hnot : ',' ∉ (l.1 ++ "=" ++ l.2).toList := by
      rw [hpart]
      simp [hl ',' (by simp)]
    have hsides : splitAll '=' (l.1 ++ "=" ++ l.2).toList = [l.1.toList, l.2.toList] := by
      rw [hpart, splitAll_append (hl '=' (by simp)).1, splitAll_of_notMem (hl '=' (by simp)).2]
    cases ls with
    | nil =>
      rw [List.map_singleton, String.intercalate_singleton, splitAll_of_notMem hnot, List.mapM_cons,
        hsides, List.mapM_nil]
      simp
    | cons l' ls =>
      rw [List.map_cons, String.intercalate_cons_of_ne_nil (by simp), String.toList_append,
        String.toList_append, hcomma, List.append_assoc, List.singleton_append,
        splitAll_append hnot, List.mapM_cons, hsides, ih (List.cons_ne_nil _ _) hls]
      simp

/-! ## What a pass looks at -/

namespace Cluster

variable {c : Cluster} {α β : Type} {settings : Settings}

/-- Whether a call asks for no pods but those with the labels of the cluster, or for maps of which
those of other clusters make no difference. -/
def LooksAt (c : Cluster) : (call : ClusterCall) → (call.Answer → Script clusterCalls α) → Prop
  | .listPods labels, _ => labels = c.labels
  | .listMaps, next => ∀ maps, next (.ok maps) = next (.ok (maps.filter c.owns))
  | _, _ => True

/-- Whether all calls of a script do. -/
def Looks (c : Cluster) : Script clusterCalls α → Prop
  | .done _ => True
  | .ask call next => c.LooksAt call next ∧ ∀ answer, Looks c (next answer)

/-- Whether a call cannot be told from one about the cluster alone. -/
def Minds (c : Cluster) : ClusterCall → Prop
  | .listPods labels => labels = c.labels
  | .listMaps => False
  | _ => True

theorem Minds.looksAt {call : ClusterCall} (h : c.Minds call)
    (next : call.Answer → Script clusterCalls α) : c.LooksAt call next := by
  cases call with
  | listPods => exact h
  | listMaps => exact h.elim
  | _ => trivial

theorem looks_of_strict {s : Script clusterCalls (Except Error α)}
    (h : Script.Strict (I := clusterCalls) c.Minds s) : c.Looks s := by
  induction s with
  | done => trivial
  | ask call next ih => exact ⟨h.1.looksAt next, fun answer => ih answer (h.2 answer).2⟩

theorem looks_bind {p : ClusterPass α} {f : α → ClusterPass β} (hp : c.Looks p.run)
    (hf : ∀ a, c.Looks (f a).run) : c.Looks (p >>= f).run := by
  rw [ExceptT.run_bind]
  show c.Looks (Script.bind _ _)
  generalize p.run = s at hp ⊢
  induction s with
  | done r =>
    cases r with
    | ok a => exact hf a
    | error e => trivial
  | ask call next ih =>
    refine ⟨?_, fun answer => ih answer (hp.2 answer)⟩
    cases call with
    | listPods => exact hp.1
    | listMaps => exact fun maps => congrArg (Script.bind · _) (hp.1 maps)
    | _ => trivial

theorem looks_embed {J : Interface} {e : Script.Embedding J clusterCalls}
    (h : ∀ call, c.Minds (e.call call)) (s : Script J α) : c.Looks (s.embed e) := by
  induction s with
  | done => trivial
  | ask call next ih => exact ⟨(h call).looksAt _, fun answer => ih _⟩

theorem looks_within {K : Type} [ClusterPass.Reachable K] (h : ∀ call : StoreCall K,
    c.Minds (ClusterPass.Reachable.route.call call)) (p : Pass (store K) α) :
    c.Looks (within p).run := looks_embed h p.run

theorem looks_ite {p q : ClusterPass α} {P : Prop} [Decidable P] (hp : c.Looks p.run)
    (hq : c.Looks q.run) : c.Looks (if P then p else q).run := by
  by_cases h : P
  · rwa [if_pos h]
  · rwa [if_neg h]

theorem looks_prepare : c.Looks (c.prepare settings).run :=
  looks_bind (looks_within (fun _ => by exact trivial) _) fun _ =>
    looks_bind (looks_of_strict (strict_refuseInvalid (fun _ _ => trivial) c)) fun _ =>
      looks_of_strict
        (strict_applyRbac (fun _ => trivial) (fun _ => trivial) (fun _ => trivial) c _)

/-- Brings the configuration in line with some maps. -/
def applyMaps (c : Cluster) (owned : List DataMap) : ClusterPass Unit := do
  let desired := c.configMap owned
  let _ ← within <| Store.apply desired fun found => .ok { found with
    data := desired.data
    metadata := { found.metadata with labels := desired.metadata.labels } }

/-- Of the maps, only those of the cluster go into the configuration. -/
theorem looks_applyConfigMap : c.Looks c.applyConfigMap.run := by
  have hrest (owned : List DataMap) : c.Looks (c.applyMaps owned).run :=
    looks_bind (looks_within (fun _ => by exact trivial) _) fun _ => trivial
  refine ⟨fun maps => ?_, fun answer => ?_⟩
  · have hfilter : (maps.filter c.owns).filter c.owns = maps.filter c.owns := by
      rw [List.filter_filter]
      simp
    exact congrArg (fun owned => (c.applyMaps owned).run) hfilter.symm
  · cases answer with
    | ok maps => exact hrest (maps.filter c.owns)
    | error e => trivial

theorem looks_place (services : List (Option Service)) :
    c.Looks (c.place settings services).run :=
  looks_bind (looks_of_strict (strict_perPodReady (fun _ => trivial) c services)) fun _ =>
    looks_ite
      (looks_bind (looks_of_strict (ClusterPass.strict_patchStatus trivial)) fun _ => trivial) <|
      looks_bind looks_applyConfigMap fun _ =>
        looks_bind (looks_of_strict (strict_applyStatefulSet (fun _ => trivial) c)) fun _ => trivial

theorem looks_observe (services : List (Option Service)) : c.Looks (c.observe services).run :=
  looks_bind (looks_of_strict (ClusterPass.strict_listPods rfl)) fun _ =>
    looks_bind (looks_of_strict (strict_askMembers (fun _ => trivial) c _)) fun _ =>
      looks_bind (looks_within (fun _ => by exact trivial) _) fun _ => trivial

theorem looks_settle (services : List (Option Service)) : c.Looks (c.settle services).run :=
  looks_bind (looks_observe services) fun _ =>
    looks_bind (looks_of_strict (ClusterPass.strict_patchStatus trivial)) fun _ =>
      looks_bind ⟨trivial, fun _ => trivial⟩ fun _ =>
        looks_bind (looks_embed (fun _ => by exact trivial) _) fun _ =>
          looks_bind (looks_embed (fun _ => by exact trivial) _) fun _ =>
            looks_ite
              (looks_bind (looks_within (fun _ => by exact trivial) _) fun _ => trivial) trivial

theorem looks_finalize : c.Looks c.finalize.run := by
  unfold finalize
  exact looks_ite trivial <|
    looks_bind (looks_of_strict (ClusterPass.strict_patchStatus trivial)) fun _ =>
      looks_bind (looks_embed (fun call => by cases call <;> exact trivial) _) fun _ =>
        looks_bind (looks_within (fun _ => by exact trivial) _) fun _ => trivial

/-- A pass over a cluster looks at no other pods and minds no other maps. -/
theorem looks_reconcile (c : Cluster) (settings : Settings) :
    c.Looks (c.reconcile settings).run := by
  cases hlive : c.metadata.isDeleted with
  | true =>
    rw [reconcile_of_isDeleted hlive]
    exact looks_finalize
  | false =>
    rw [reconcile_eq hlive]
    exact looks_bind looks_prepare fun _ =>
      looks_bind (looks_of_strict (strict_applyServices (fun _ => trivial) (fun _ => trivial) c))
        fun services => looks_bind (looks_place services) fun _ =>
          looks_ite (looks_settle services) trivial

/-! ## What is watched -/

/-- Whether a pass over the cluster is shown a pod when it asks for those with its labels. -/
structure ReadsPod (c : Cluster) (p : Pod) : Prop where
  space : p.metadata.space = c.metadata.space
  labels : p.labels.includes c.labels

/-- Whether it minds a map when it asks for all maps. -/
structure ReadsMap (c : Cluster) (m : DataMap) : Prop where
  space : m.metadata.space = c.metadata.space
  owns : c.owns m

/-- Whether changes of an object are told to the operator, whatever its namespace. -/
def Watched (k : Kind) (labels : TextMap) : Prop :=
  ∃ r ∈ Server.watchRequests, r.kind = k ∧ r.key = ⟨"", ""⟩ ∧ labels.includes r.labels

theorem watched_of_includes {k : Kind} {labels : TextMap}
    (hk : k ∈ [.configMap, .cluster, .hotBackup, .dataMap, .pod, .service, .statefulSet])
    (h : labels.includes (if k = .pod then Target.podLabels else [])) : Watched k labels :=
  ⟨_, List.mem_map_of_mem hk, rfl, rfl, h⟩

theorem get?_managedByLabel_labels (c : Cluster) :
    c.labels.get? Names.managedByLabel = some Names.operator := Table.get?_set_self _ _ _

theorem get?_instanceLabel_labels (c : Cluster) :
    c.labels.get? Names.instanceLabel = some c.name := by
  have hmanagedBy : Names.instanceLabel ≠ Names.managedByLabel := by decide
  exact (Table.get?_set_of_ne hmanagedBy _ _).trans (Table.get?_set_self _ _ _)

theorem ReadsPod.get? {p : Pod} (h : c.ReadsPod p) {key value : String}
    (hget : c.labels.get? key = some value) : p.labels.get? key = some value :=
  (TextMap.includes_iff (Table.ordered_ofEntries _)).1 h.labels key value hget

/-- The pods of a cluster carry the label by which the operator tells its own. -/
theorem ReadsPod.watched {p : Pod} (h : c.ReadsPod p) : Watched .pod p.labels := by
  have hmanagedBy := h.get? c.get?_managedByLabel_labels
  refine watched_of_includes (by decide) ?_
  rw [if_pos rfl, Target.podLabels, TextMap.includes, List.all_cons, List.all_nil, Bool.and_true]
  exact beq_iff_eq.2 hmanagedBy

/-- They lead to the cluster that they are pods of. -/
theorem ReadsPod.ofPod?_eq {p : Pod} {space : String} (h : c.ReadsPod p)
    (hspace : c.metadata.space = some space) :
    Target.ofPod? p = some ⟨.cluster, ⟨space, c.name⟩⟩ := by
  have hlabel : p.metadata.label? Names.instanceLabel = p.labels.get? Names.instanceLabel := by
    unfold ObjectMeta.label? Pod.labels
    cases p.metadata.labels <;> rfl
  unfold Target.ofPod?
  rw [h.space, hspace, hlabel, h.get? c.get?_instanceLabel_labels]
  rfl

/-- Maps lead to the cluster that they name, and to no other one. -/
theorem ofMap?_eq_iff {m : DataMap} {space : String} (hspace : c.metadata.space = some space) :
    Target.ofMap? m = some ⟨.cluster, ⟨space, Resource.anyName c⟩⟩ ↔ c.ReadsMap m := by
  have howns : c.owns m ↔ m.spec.clusterResource = Resource.anyName c := decide_eq_true_iff
  unfold Target.ofMap?
  constructor
  · intro h
    obtain ⟨space', hm, h⟩ := Option.bind_eq_some_iff.1 h
    obtain ⟨rfl, hname⟩ := ObjectKey.mk.inj (Target.mk.inj (Option.some.inj h)).2
    exact ⟨hm.trans hspace.symm, howns.2 hname⟩
  · intro h
    rw [h.space, hspace, howns.1 h.owns]
    rfl

theorem podLabels_of_newStatefulSet? {s : StatefulSet} {set : StatefulSetSpec}
    (h : c.newStatefulSet? settings = .ok s) (hset : s.spec = some set) :
    set.podLabels = c.labels := by
  unfold newStatefulSet? at h
  cases hpod : c.podSpec? settings.platform with
  | error e =>
    rw [hpod] at h
    cases h
  | ok pod =>
    rw [hpod] at h
    obtain rfl := Except.ok.inj h
    obtain rfl := Option.some.inj hset
    rfl

theorem labels_ne_nil (c : Cluster) : c.labels ≠ [] := by
  intro h
  have hmanagedBy := c.get?_managedByLabel_labels
  rw [h] at hmanagedBy
  cases hmanagedBy

theorem plain_labels (hcomma : ',' ∉ c.name.toList) (hequals : '=' ∉ c.name.toList) :
    Selector.IsPlain c.labels := by
  have hfixed : ∀ text ∈ [Names.applicationLabel, Names.member, Names.instanceLabel,
      Names.managedByLabel, Names.operator], ∀ sep ∈ [',', '='], sep ∉ text.toList := by
    simp [Names.applicationLabel, Names.member, Names.instanceLabel, Names.managedByLabel,
      Names.operator]
  have hname : ∀ sep ∈ [',', '='], sep ∉ c.name.toList := by simp [hcomma, hequals]
  intro l hl sep hsep
  rcases Table.mem_of_mem_set hl with rfl | hl
  · exact ⟨hfixed _ (by decide) sep hsep, hfixed _ (by decide) sep hsep⟩
  rcases Table.mem_of_mem_set hl with rfl | hl
  · exact ⟨hfixed Names.instanceLabel (by decide) sep hsep, hname sep hsep⟩
  rcases Table.mem_of_mem_set hl with rfl | hl
  · exact ⟨hfixed _ (by decide) sep hsep, hfixed _ (by decide) sep hsep⟩
  · cases hl

/-- Whether what passes over the cluster look at is what leads to them. -/
structure IsFollowed (c : Cluster) (space : String) (settings : Settings) : Prop where
  looks : c.Looks (c.reconcile settings).run
  /-- The selectors that go out say which labels are meant. -/
  selector : ',' ∉ c.name.toList → '=' ∉ c.name.toList →
    Selector.parse? (Request.selector c.labels) = some c.labels
  pod : ∀ p, c.ReadsPod p →
    Watched .pod p.labels ∧ Target.ofPod? p = some ⟨.cluster, ⟨space, c.name⟩⟩
  map : ∀ m, c.ReadsMap m → Watched .dataMap (m.metadata.labels.getD []) ∧
    Target.ofMap? m = some ⟨.cluster, ⟨space, Resource.anyName c⟩⟩
  /-- A cluster that has a name has no other one. -/
  name : c.metadata.name.isSome → Resource.anyName c = c.name
  /-- The pods that are made for the cluster are looked at. -/
  template : ∀ s set, c.newStatefulSet? settings = .ok s → s.spec = some set → ∀ p : Pod,
    p.metadata.space = some space → p.labels.includes set.podLabels → c.ReadsPod p
  /-- No map leads to the cluster that it does not mind. -/
  mapped : ∀ m, Target.ofMap? m = some ⟨.cluster, ⟨space, Resource.anyName c⟩⟩ → c.ReadsMap m

/-- Every cluster in a namespace is followed. -/
theorem isFollowed_of_space {c : Cluster} {space : String} (hspace : c.metadata.space = some space)
    (settings : Settings) : c.IsFollowed space settings where
  looks := c.looks_reconcile settings
  selector hcomma hequals :=
    Selector.parse?_selector c.labels_ne_nil (plain_labels hcomma hequals)
  pod p h := ⟨h.watched, h.ofPod?_eq hspace⟩
  map m h := ⟨watched_of_includes (by decide) rfl, (ofMap?_eq_iff hspace).2 h⟩
  name hname := by
    obtain ⟨name, hname⟩ := Option.isSome_iff_exists.1 hname
    rw [Cluster.name, hname]
    exact ObjectMeta.anyName_of_name hname
  template s set hs hset p hp hlabels :=
    ⟨hp.trans hspace.symm, podLabels_of_newStatefulSet? hs hset ▸ hlabels⟩
  mapped m h := (ofMap?_eq_iff hspace).1 h

/-- A cluster, a pod that was made for it, and a map for it. -/
def seen : Cluster where
  metadata := { name := some "hz", space := some "default" }
  spec := {}

def seenPod : Pod where
  metadata := {
    name := some "hz-0"
    space := some "default"
    labels := some (seen.labels.set Names.podNameLabel "hz-0") }

def seenMap : DataMap where
  metadata := { name := some "map", space := some "default" }
  spec := { clusterResource := "hz" }

theorem isFollowed_of_space_seen : seen.metadata.space = some "default" ∧
    Watched .pod seenPod.labels ∧ Target.ofPod? seenPod = some ⟨.cluster, ⟨"default", "hz"⟩⟩ ∧
    Target.ofMap? seenMap = some ⟨.cluster, ⟨"default", "hz"⟩⟩ := by
  have h : seen.IsFollowed "default" {} := isFollowed_of_space rfl {}
  have hpod : seen.ReadsPod seenPod :=
    h.template _ _ rfl rfl seenPod rfl (by decide +kernel)
  have hmap : seen.ReadsMap seenMap := ⟨rfl, by decide +kernel⟩
  exact ⟨rfl, (h.pod seenPod hpod).1, (h.pod seenPod hpod).2, (h.map seenMap hmap).2⟩

end Cluster

end GridOperator
