import GridOperator.Desired.ConfigMap
import GridOperator.Proofs.Yaml.Documents

/-!
# The file that members read

What stands in the file is read off its document, key by key. The text that the
configuration map holds is the text of that document and of no other one
(`Cluster.holds_configMap`), so that whatever is shown of the document is what members
find in the file.
-/

namespace GridOperator

open Kubernetes

namespace Yaml

/-- The value at a key. -/
def field? (key : String) : Yaml → Option Yaml
  | .map es => es.lookup key
  | _ => none

/-- The value that a path of keys leads to. -/
def at? (path : List String) (y : Yaml) : Option Yaml := path.foldlM (fun y key => y.field? key) y

/-- Where a configuration file has members keep their data, if it has them do so. -/
def persistentDir? (file : Yaml) : Option String :=
  (file.field? "persistence").bind fun persistence =>
    match persistence.field? "enabled", persistence.field? "base-dir" with
    | some (.bool true), some (.str dir) => some dir
    | _, _ => none

/-- The keys of a part of a document. -/
def keys : Yaml → List String
  | .map es => es.map (·.1)
  | _ => []

theorem lookup_entries {es : List (String × Option Yaml)} {key : String}
    (h : key ∉ es.map (·.1)) : (es.filterMap fun e => e.2.map (e.1, ·)).lookup key = none := by
  refine List.lookup_eq_none_iff.2 fun entry hfield => ?_
  obtain ⟨e, he, hvalue⟩ := List.mem_filterMap.1 hfield
  obtain ⟨_, _, rfl⟩ := Option.map_eq_some_iff.1 hvalue
  exact bne_iff_ne.2 fun (heq : key = e.1) => h (heq ▸ List.mem_map_of_mem he)

theorem field?_ofSome {es : List (String × Option Yaml)} (h : (es.map (·.1)).Nodup)
    (key : String) : (ofSome es).field? key = (es.lookup key).join := by
  unfold ofSome field?
  dsimp only
  induction es with
  | nil => rfl
  | cons e es ih =>
    rw [List.map_cons, List.nodup_cons] at h
    obtain ⟨k, value⟩ := e
    by_cases hkey : key = k
    · subst hkey
      cases value with
      | none => simpa using lookup_entries h.1
      | some y => simp
    · have hne : (key == k) = false := beq_eq_false_iff_ne.2 hkey
      cases value <;> simpa [List.lookup_cons, hne] using ih h.2

theorem keys_ofSome (es : List (String × Option Yaml)) : (ofSome es).keys ⊆ es.map (·.1) := by
  intro key hkey
  obtain ⟨entry, hentry, rfl⟩ := List.mem_map.1 hkey
  obtain ⟨e, he, hvalue⟩ := List.mem_filterMap.1 hentry
  obtain ⟨_, _, rfl⟩ := Option.map_eq_some_iff.1 hvalue
  exact List.mem_map_of_mem he

/-! ## Numbers that fit -/

@[simp] theorem isBounded_str (s : String) : IsBounded (.str s) := .str s

@[simp] theorem isBounded_bool (b : Bool) : IsBounded (.bool b) := .bool b

@[simp] theorem isBounded_int_iff {n : Int} : IsBounded (.int n) ↔ Json.InRange n :=
  ⟨fun h => by cases h; assumption, .int⟩

@[simp] theorem isBounded_seq_iff {xs : List Yaml} :
    IsBounded (.seq xs) ↔ ∀ x ∈ xs, x.IsBounded :=
  ⟨fun h => by cases h; assumption, .seq⟩

@[simp] theorem isBounded_map_iff {es : List (String × Yaml)} :
    IsBounded (.map es) ↔ ∀ e ∈ es, e.2.IsBounded :=
  ⟨fun h => by cases h; assumption, .map⟩

@[simp] theorem isBounded_ofInt32 (n : Int32) : IsBounded (.ofInt32 n) := by
  have hlow := n.le_toInt
  have hhigh := n.toInt_lt
  exact .int ⟨by omega, by omega⟩

/-- Whether a part that may be left out is bounded where it is written. -/
def Fits (part : Option Yaml) : Prop := ∀ y, part = some y → y.IsBounded

@[simp] theorem fits_none : Fits none := nofun

@[simp] theorem fits_some_iff {y : Yaml} : Fits (some y) ↔ y.IsBounded :=
  ⟨fun h => h y rfl, fun h _ hy => Option.some.inj hy ▸ h⟩

@[simp] theorem fits_nonempty (s : String) : Fits (nonempty s) := by
  unfold nonempty
  split <;> simp

@[simp] theorem fits_ifSet (b : Bool) : Fits (ifSet b) := by
  cases b <;> simp [ifSet]

theorem fits_map {α : Type} {f : α → Yaml} (h : ∀ a, (f a).IsBounded) (part : Option α) :
    Fits (part.map f) := by
  cases part <;> simp [h]

theorem isBounded_ofSome {es : List (String × Option Yaml)} (h : ∀ e ∈ es, Fits e.2) :
    (ofSome es).IsBounded := by
  refine .map fun entry hentry => ?_
  obtain ⟨e, he, hvalue⟩ := List.mem_filterMap.1 hentry
  obtain ⟨y, hy, rfl⟩ := Option.map_eq_some_iff.1 hvalue
  exact h e he y hy

end Yaml

/-! ## The documents of members -/

open Yaml

theorem Discovery.isBounded_toYaml (d : Discovery) : d.toYaml.IsBounded := by
  refine isBounded_ofSome ?_
  cases d.perPod <;> simp

theorem Storage.isBounded_toYaml (s : Storage) : s.toYaml.IsBounded := by
  simp [Storage.toYaml, Json.InRange]

theorem MapIndex.isBounded_toYaml (i : MapIndex) : i.toYaml.IsBounded := by
  refine isBounded_ofSome ?_
  simp [fits_map]

theorem MapConfig.isBounded_toYaml (m : MapConfig) : m.toYaml.IsBounded := by
  have heviction : (ofSome [("size", some (.ofInt32 m.eviction.maxSize)),
      ("max-size-policy", nonempty m.eviction.maxSizePolicy),
      ("eviction-policy", nonempty m.eviction.policy)]).IsBounded := isBounded_ofSome (by simp)
  refine isBounded_ofSome ?_
  cases m.indexes <;> simp [heviction, MapIndex.isBounded_toYaml, Json.InRange]

theorem MemberConfig.isBounded_toYaml (config : MemberConfig) : config.toYaml.IsBounded := by
  have hrest : restApiYaml.IsBounded := by simp [restApiYaml]
  have hnetwork : (ofSome [("join", some (.map [("kubernetes", config.discovery.toYaml)])),
      ("rest-api", if config.restApi then some restApiYaml else none)]).IsBounded := by
    refine isBounded_ofSome ?_
    cases config.restApi <;> simp [hrest, Discovery.isBounded_toYaml]
  have hmaps : Fits (if config.maps.isEmpty then none
      else some (.map (config.maps.map fun m => (m.1, m.2.toYaml)))) := by
    split
    · exact fits_none
    · refine fits_some_iff.2 (.map fun e he => ?_)
      obtain ⟨m, -, rfl⟩ := List.mem_map.1 he
      exact m.2.isBounded_toYaml
  have hjet : Fits (if config.jet then some (.map [("enabled", .bool true)]) else none) := by
    cases config.jet <;> simp
  refine isBounded_ofSome ?_
  simp only [List.mem_cons, List.not_mem_nil, or_false, forall_eq_or_imp, forall_eq]
  exact ⟨hjet, fits_some_iff.2 hnetwork, fits_nonempty _, fits_map Storage.isBounded_toYaml _,
    hmaps⟩

/-- Whether a configuration map holds this file for members, as a text that is that of no other
file. -/
structure Kubernetes.ConfigMap.Holds (m : ConfigMap) (file : Yaml) : Prop where
  data_eq : m.data = some [(Names.configFile, Yaml.render [("hazelcast", file)])]
  bounded : file.IsBounded
  unique : ∀ document : List (String × Yaml), (∀ e ∈ document, e.2.IsBounded) →
    Yaml.render document = Yaml.render [("hazelcast", file)] → document = [("hazelcast", file)]

theorem Cluster.holds_configMap (c : Cluster) (maps : List DataMap) :
    (c.configMap maps).Holds (c.memberConfig maps).toYaml where
  data_eq := rfl
  bounded := MemberConfig.isBounded_toYaml _
  unique := fun _ hdocument htext =>
    render_inj hdocument (List.forall_mem_singleton.2 (MemberConfig.isBounded_toYaml _)) htext

end GridOperator
