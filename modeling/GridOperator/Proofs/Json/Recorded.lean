import GridOperator.Backup.Pass
import GridOperator.Desired.ConfigMap
import GridOperator.Proofs.Cluster.Status
import GridOperator.Proofs.Topology

/-!
# What is recorded

Specifications, statuses and notes are kept as compact texts. Each of them reads back
as what it was written from (`Json.ReadsBack`), so a record tells exactly what was
recorded: no two specifications have one text.
-/

namespace GridOperator

open Kubernetes

namespace Json

variable {α : Type} {level : Nat} {write : α → Json} {read : Decoder α}

/-- Whether every value reads back from its compact text. -/
def ReadsBack (write : α → Json) (read : Decoder α) : Prop :=
  ∀ a, (parse? (write a).render).bind read = some a

theorem readsBack_of_plain (hplain : ∀ a, Plain 0 (write a))
    (hread : ∀ a, read (write a) = some a) : ReadsBack write read := fun a => by
  rw [parse?_render (hplain a), Option.bind_some, hread]

/-- Different values have different texts. -/
theorem ReadsBack.injective (h : ReadsBack write read) :
    Function.Injective fun a => (write a).render := fun a b hab => by
  have hread := congrArg (fun text => (parse? text).bind read) hab
  dsimp only at hread
  rw [h a, h b] at hread
  exact Option.some.inj hread

/-! ## Parts of a text -/

theorem plain_ofOption (h : ∀ a, Plain level (write a)) (o : Option α) :
    Plain level (ofOption write o) := by
  cases o with
  | none => exact .null
  | some a => exact h a

theorem plain_ofList (hlevel : level < Reader.deepest) (h : ∀ a, Plain (level + 1) (write a))
    (as : List α) : Plain level (ofList write as) := by
  refine .arr hlevel fun x hx => ?_
  obtain ⟨a, -, rfl⟩ := List.mem_map.1 hx
  exact h a

theorem plain_strings (hlevel : level < Reader.deepest) (texts : List String) :
    Plain level (strings texts) := plain_ofList hlevel .str texts

/-- A record is written so that it reads back if its fields are. -/
theorem plain_record {ms : Members} (hlevel : level < Reader.deepest)
    (h : ∀ j ∈ ms.map (·.2), Plain (level + 1) j) : Plain level (.obj ms) :=
  .obj hlevel fun _ hm => h _ (List.mem_map_of_mem hm)

theorem nullable_ofOption (hread : ∀ a, read (write a) = some a) (hnull : ∀ a, write a ≠ .null)
    (o : Option α) : nullable read (ofOption write o) = some o := by
  cases o with
  | none => rfl
  | some a =>
    have hsome : nullable read (write a) = (read (write a)).map some := by
      unfold nullable
      split
      · rename_i h
        exact absurd h (hnull a)
      · rfl
    rw [ofOption, hsome, hread, Option.map_some]

end Json

open Json (Plain ReadsBack)

/-! ## Maps -/

theorem Eviction.ofJson?_toJson (e : Eviction) : ofJson? e.toJson = some e := by
  unfold ofJson? toJson
  rw [Record.ofJson?_obj (by simp) (by simp)]
  simp [Record.withDefault, Record.get?, List.lookup_cons, Json.text_str, Json.int32_ofInt32]

theorem BitmapOptions.ofJson?_toJson (b : BitmapOptions) : ofJson? b.toJson = some b := by
  unfold ofJson? toJson
  rw [Record.ofJson?_obj (by simp) (by simp)]
  simp [Record.required, Record.get?, List.lookup_cons, Json.text_str]

theorem Index.ofJson?_toJson (i : Index) : ofJson? i.toJson = some i := by
  have hoptions := Json.nullable_ofOption BitmapOptions.ofJson?_toJson (fun _ => nofun)
    i.bitmapOptions
  have hattributes : Json.list Json.text (Json.strings i.attributes) = some i.attributes :=
    Json.list_ofList Json.text_str _
  unfold ofJson? toJson
  rw [Record.ofJson?_obj (by simp) (by simp)]
  simp [Record.required, Record.optional, Record.withDefault, Record.get?, List.lookup_cons,
    Json.text_str, Json.nullable_text, hattributes, hoptions]

theorem DataMapSpec.ofJson?_toJson (s : DataMapSpec) : ofJson? s.toJson = some s := by
  unfold ofJson? toJson
  rw [Record.ofJson?_obj (by simp) (by simp)]
  simp [Record.required, Record.optional, Record.withDefault, Record.get?, List.lookup_cons,
    Json.text_str, Json.nullable_text, Json.int32_ofInt32, Json.flag_bool,
    Eviction.ofJson?_toJson, Json.list_ofList Index.ofJson?_toJson]

variable {level : Nat}

theorem Eviction.plain_toJson (hlevel : level < Json.Reader.deepest) (e : Eviction) :
    Plain level e.toJson := by
  refine Json.plain_record hlevel ?_
  simp only [List.map_cons, List.map_nil, List.forall_mem_cons]
  exact ⟨.str _, Json.plain_ofInt32 _ _, .str _, nofun⟩

theorem BitmapOptions.plain_toJson (hlevel : level < Json.Reader.deepest) (b : BitmapOptions) :
    Plain level b.toJson := by
  refine Json.plain_record hlevel ?_
  simp only [List.map_cons, List.map_nil, List.forall_mem_cons]
  exact ⟨.str _, .str _, nofun⟩

theorem Index.plain_toJson (hlevel : level + 1 < Json.Reader.deepest) (i : Index) :
    Plain level i.toJson := by
  refine Json.plain_record (by omega) ?_
  simp only [List.map_cons, List.map_nil, List.forall_mem_cons]
  exact ⟨Json.plain_ofOption .str _, .str _, Json.plain_strings hlevel _,
    Json.plain_ofOption (BitmapOptions.plain_toJson hlevel) _, nofun⟩

theorem DataMapSpec.plain_toJson (s : DataMapSpec) : Plain 0 s.toJson := by
  refine Json.plain_record (by decide) ?_
  simp only [List.map_cons, List.map_nil, List.forall_mem_cons]
  exact ⟨Json.plain_ofOption .str _, .str _, Json.plain_ofInt32 _ _, Json.plain_ofInt32 _ _,
    Eviction.plain_toJson (by decide) _,
    Json.plain_ofList (by decide) (Index.plain_toJson (by decide)) _, .bool _, nofun⟩

theorem DataMapSpec.readsBack : ReadsBack toJson ofJson? :=
  Json.readsBack_of_plain plain_toJson ofJson?_toJson

theorem DataMap.lastSpec?_of_annotation {m : DataMap} {s : DataMapSpec}
    (h : m.metadata.annotation? Names.lastSpecAnnotation = some s.toJson.render) :
    m.lastSpec? = some s := by
  unfold lastSpec?
  rw [h, Option.bind_some, DataMapSpec.readsBack]

/-! ## Backups -/

theorem HotBackupSpec.ofJson?_toJson (s : HotBackupSpec) : ofJson? s.toJson = some s := by
  unfold ofJson? toJson
  rw [Record.ofJson?_obj (by simp) (by simp)]
  simp [Record.required, Record.withDefault, Record.get?, List.lookup_cons, Json.text_str]

theorem HotBackupSpec.plain_toJson (s : HotBackupSpec) : Plain 0 s.toJson := by
  refine Json.plain_record (by decide) ?_
  simp only [List.map_cons, List.map_nil, List.forall_mem_cons]
  exact ⟨.str _, .str _, .str _, nofun⟩

theorem HotBackupSpec.readsBack : ReadsBack toJson ofJson? :=
  Json.readsBack_of_plain plain_toJson ofJson?_toJson

theorem HotBackup.alreadyApplied_iff {b : HotBackup} {s : HotBackupSpec}
    (h : b.metadata.annotation? Names.lastSpecAnnotation = some s.toJson.render) :
    b.alreadyApplied ↔ b.spec = s := by
  unfold alreadyApplied specText
  rw [h, decide_eq_true_iff, Option.some_inj, HotBackupSpec.readsBack.injective.eq_iff, eq_comm]

/-! ## Clusters -/

theorem MemberStatus.plain_toJson (hlevel : level < Json.Reader.deepest) (m : MemberStatus) :
    Plain level m.toJson := by
  refine Json.plain_record hlevel ?_
  simp only [List.map_cons, List.map_nil, List.forall_mem_cons]
  exact ⟨.str _, Json.plain_ofOption .str _, .bool _, Json.plain_ofOption .str _,
    Json.plain_ofOption .str _, Json.plain_ofOption .str _, Json.plain_ofInt32 _ _, nofun⟩

theorem ClusterStatus.plain_toJson (s : ClusterStatus) : Plain 0 s.toJson := by
  have hreadyMembers : Plain 1 (.obj [("readyMembers", .str s.readyMembers)]) :=
    Json.plain_record (by decide) (List.forall_mem_singleton.2 (.str _))
  have hrestore (r : RestoreState) : Plain 1 (.obj [("state", .str r.name)]) :=
    Json.plain_record (by decide) (List.forall_mem_singleton.2 (.str _))
  refine Json.plain_record (by decide) ?_
  simp only [List.map_cons, List.map_nil, List.forall_mem_cons]
  exact ⟨.str _, hreadyMembers, Json.plain_ofOption .str _,
    Json.plain_ofList (by decide) (MemberStatus.plain_toJson (by decide)) _,
    Json.plain_ofOption hrestore _, Json.plain_strings (by decide) _, nofun⟩

theorem ClusterStatus.readsBack : ReadsBack toJson ofJson? :=
  Json.readsBack_of_plain plain_toJson ofJson?_toJson

theorem Topology.readsBack : ReadsBack toJson ofJson? :=
  Json.readsBack_of_plain plain_toJson ofJson?_toJson

/-- A note tells what it was written from if it is of the current version, and else nothing. -/
theorem Topology.ofStatefulSet?_eq_ite {s : StatefulSet} {t : Topology}
    (h : s.metadata.annotation? Names.topologyAnnotation = some t.render) :
    ofStatefulSet? s = if t.version = current then some t else none := by
  have hread : (Json.parse? t.render).bind ofJson? = some t := readsBack t
  unfold ofStatefulSet?
  rw [h, Option.bind_some, hread, Option.filter_some]
  simp only [decide_eq_true_eq]

/-! ## All of them -/

/-- All that is recorded reads back. So the record of a map tells exactly the specification that was
recorded, the note on a stateful set tells the topology that it was written from if it is of the
current version and nothing otherwise, and a backup counts as applied exactly if its specification
is the one whose text is recorded. -/
theorem recorded_read_back :
    ReadsBack DataMapSpec.toJson DataMapSpec.ofJson? ∧
    ReadsBack HotBackupSpec.toJson HotBackupSpec.ofJson? ∧
    ReadsBack ClusterStatus.toJson ClusterStatus.ofJson? ∧
    ReadsBack Topology.toJson Topology.ofJson? ∧
    (∀ (m : DataMap) (s : DataMapSpec),
      m.metadata.annotation? Names.lastSpecAnnotation = some s.toJson.render →
        m.lastSpec? = some s) ∧
    (∀ (s : StatefulSet) (t : Topology),
      s.metadata.annotation? Names.topologyAnnotation = some t.render →
        Topology.ofStatefulSet? s = if t.version = Topology.current then some t else none) ∧
    ∀ (b : HotBackup) (s : HotBackupSpec),
      b.metadata.annotation? Names.lastSpecAnnotation = some s.toJson.render →
        (b.alreadyApplied ↔ b.spec = s) :=
  ⟨DataMapSpec.readsBack, HotBackupSpec.readsBack, ClusterStatus.readsBack, Topology.readsBack,
    fun _ _ => DataMap.lastSpec?_of_annotation, fun _ _ => Topology.ofStatefulSet?_eq_ite,
    fun _ _ => HotBackup.alreadyApplied_iff⟩

/-- A map whose recorded name has every kind of escape. -/
def oddlyNamed : DataMap where
  metadata := ObjectMeta.annotate {} Names.lastSpecAnnotation
    (DataMapSpec.toJson { name := some "\"\\\n\x01é𝄞", clusterResource := "" }).render
  spec := { clusterResource := "hz" }

/-- A stateful set with a note of three services. -/
def notedThree : StatefulSet where
  metadata := ObjectMeta.annotate {} Names.topologyAnnotation (Topology.mk 1 3).render

/-- A backup that was asked for before. -/
def askedBefore : HotBackup where
  metadata := ObjectMeta.annotate {} Names.lastSpecAnnotation
    (HotBackupSpec.toJson { clusterResource := "hz" }).render
  spec := { clusterResource := "hz" }

theorem recorded_read_back_oddlyNamed :
    oddlyNamed.lastSpec? = some { name := some "\"\\\n\x01é𝄞", clusterResource := "" } ∧
    Topology.ofStatefulSet? notedThree = some ⟨1, 3⟩ ∧ askedBefore.alreadyApplied := by
  obtain ⟨-, -, -, -, hmap, hset, hbackup⟩ := recorded_read_back
  exact ⟨hmap _ _ (by decide +kernel), hset notedThree ⟨1, 3⟩ (by decide +kernel),
    (hbackup _ _ (by decide +kernel)).2 rfl⟩

end GridOperator
