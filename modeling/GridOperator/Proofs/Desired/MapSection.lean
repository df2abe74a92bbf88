import GridOperator.Proofs.Desired.Maps
import GridOperator.Proofs.Desired.References

/-!
# The maps in the configuration file

A map offers its specification to the file, or the one that it has recorded, or none.
The file shows for each name the last offer that is made under it: this is shown for the
table that the offers are put into one after the other, and then for the file.
-/

namespace GridOperator

open Kubernetes

namespace DataMap

/-- What a map brings into the configuration: its specification once that is accepted, and else the
one that it has on record, as long as the map is to stay. -/
inductive Offers (m : DataMap) : DataMapSpec → Prop where
  | current (hstatus : m.status = some .persisting ∨ m.status = some .success) : Offers m m.spec
  | recorded {text : String} {doc : Json} {g : DataMapSpec}
      (hstatus : m.status = none ∨ m.status = some .pending ∨ m.status = some .failed)
      (htext : m.metadata.annotation? Names.lastSpecAnnotation = some text)
      (hdoc : Json.parse? text = some doc) (hspec : DataMapSpec.ofJson? doc = some g) : Offers m g

/-- Whether the last map of the name that offers anything offers this. -/
def LastOffer (maps : List DataMap) (name : String) (g : DataMapSpec) : Prop :=
  ∃ before m after, maps = before ++ m :: after ∧ m.mapName = name ∧ m.Offers g ∧
    ∀ m' ∈ after, m'.mapName = name → ∀ g', ¬ m'.Offers g'

/-- No two maps of one name that both offer something. -/
def DistinctOffers (maps : List DataMap) : Prop :=
  maps.Pairwise fun m m' => m.mapName = m'.mapName → ∀ g g', m.Offers g → ¬ m'.Offers g'

variable {m : DataMap} {maps maps' : List DataMap} {name : String} {g : DataMapSpec}

theorem offers_iff : m.Offers g ↔ m.eligibleSpec? = some g := by
  constructor
  · rintro (hstatus | ⟨hstatus, htext, hdoc, hspec⟩)
    · rcases hstatus with hstatus | hstatus <;> simp [eligibleSpec?, state, hstatus]
    · have hlast : m.lastSpec? = some g := by simp [lastSpec?, htext, hdoc, hspec]
      rcases hstatus with hstatus | hstatus | hstatus <;>
        simp [eligibleSpec?, state, hstatus, hlast]
  · intro h
    have hrecorded (hstatus : m.status = none ∨ m.status = some .pending ∨
        m.status = some .failed) (hlast : m.lastSpec? = some g) : m.Offers g := by
      obtain ⟨text, htext, hread⟩ := Option.bind_eq_some_iff.1 hlast
      obtain ⟨doc, hdoc, hspec⟩ := Option.bind_eq_some_iff.1 hread
      exact .recorded hstatus htext hdoc hspec
    unfold eligibleSpec? state at h
    cases hstatus : m.status with
    | none => exact hrecorded (.inl hstatus) (by simpa [hstatus] using h)
    | some state =>
      rw [hstatus] at h
      cases state with
      | pending => exact hrecorded (.inr (.inl hstatus)) h
      | failed => exact hrecorded (.inr (.inr hstatus)) h
      | persisting => exact Option.some.inj h ▸ .current (.inl hstatus)
      | success => exact Option.some.inj h ▸ .current (.inr hstatus)
      | terminating => cases h

theorem eligibleSpec?_eq_none_iff : m.eligibleSpec? = none ↔ ∀ g, ¬ m.Offers g := by
  simp only [offers_iff, Option.eq_none_iff_forall_ne_some, ne_eq]

/-! ## The last offer -/

/-- What a map offers under a name. -/
def offerAt (name : String) (m : DataMap) : Option DataMapSpec :=
  if m.mapName = name then m.eligibleSpec? else none

theorem offerAt_eq_some_iff : m.offerAt name = some g ↔ m.mapName = name ∧ m.Offers g := by
  unfold offerAt
  rw [offers_iff]
  split <;> simp [*]

theorem offerAt_eq_none_iff :
    m.offerAt name = none ↔ (m.mapName = name → ∀ g, ¬ m.Offers g) := by
  unfold offerAt
  split <;> simp [*, eligibleSpec?_eq_none_iff]

theorem lookup_filterMap (maps : List DataMap) (name : String) :
    (maps.filterMap fun m => m.eligibleSpec?.map (m.mapName, ·)).lookup name =
      maps.findSome? (·.offerAt name) := by
  induction maps with
  | nil => rfl
  | cons m maps ih =>
    rw [List.filterMap_cons, List.findSome?_cons, offerAt]
    cases m.eligibleSpec? with
    | none => simpa using ih
    | some g =>
      by_cases hname : m.mapName = name
      · simp [hname]
      · simp [hname, List.lookup_cons, beq_eq_false_iff_ne.2 (Ne.symm hname), ih]

theorem lookup_reverse_eligible :
    (eligible maps).reverse.lookup name = some g ↔ LastOffer maps name g := by
  unfold eligible LastOffer
  rw [← List.filterMap_reverse, lookup_filterMap, List.findSome?_eq_some_iff]
  constructor
  · rintro ⟨after, m, before, hmaps, hoffer, hafter⟩
    obtain ⟨hname, hoffers⟩ := offerAt_eq_some_iff.1 hoffer
    refine ⟨before.reverse, m, after.reverse, ?_, hname, hoffers, fun m' hm' => ?_⟩
    · rw [← List.reverse_reverse maps, hmaps, List.reverse_append, List.reverse_cons,
        List.append_assoc, List.singleton_append]
    · exact offerAt_eq_none_iff.1 (hafter m' (List.mem_reverse.1 hm'))
  · rintro ⟨before, m, after, rfl, hname, hoffers, hafter⟩
    refine ⟨after.reverse, m, before.reverse, ?_, offerAt_eq_some_iff.2 ⟨hname, hoffers⟩,
      fun m' hm' => offerAt_eq_none_iff.2 (hafter m' (List.mem_reverse.1 hm'))⟩
    rw [List.reverse_append, List.reverse_cons, List.append_assoc, List.singleton_append]

theorem exists_lastOffer_iff :
    (∃ g, LastOffer maps name g) ↔ ∃ m ∈ maps, m.mapName = name ∧ ∃ g, m.Offers g := by
  simp only [← lookup_reverse_eligible, ← Option.isSome_iff_exists]
  unfold eligible
  rw [← List.filterMap_reverse, lookup_filterMap, List.findSome?_isSome_iff]
  simp only [List.mem_reverse, Option.isSome_iff_exists, offerAt_eq_some_iff, exists_and_left]

/-- Where no two maps offer something under one name, there is nothing to the order. -/
theorem DistinctOffers.lastOffer_iff (h : DistinctOffers maps) :
    LastOffer maps name g ↔ ∃ m ∈ maps, m.mapName = name ∧ m.Offers g := by
  constructor
  · rintro ⟨before, m, after, rfl, hname, hoffers, -⟩
    exact ⟨m, List.mem_append_right _ List.mem_cons_self, hname, hoffers⟩
  · rintro ⟨m, hm, hname, hoffers⟩
    obtain ⟨before, after, rfl⟩ := List.append_of_mem hm
    refine ⟨before, m, after, rfl, hname, hoffers, fun m' hm' hname' g' => ?_⟩
    have hdistinct := (List.pairwise_cons.1 (List.pairwise_append.1 h).2.1).1 m' hm'
    exact hdistinct (hname.trans hname'.symm) g g' hoffers

theorem DistinctOffers.perm (h : DistinctOffers maps) (hperm : maps'.Perm maps) :
    DistinctOffers maps' := by
  refine (hperm.pairwise_iff fun {m m'} hdistinct => ?_).2 h
  exact fun hname g g' hoffers hoffers' => hdistinct hname.symm g' g hoffers' hoffers

/-- What offers nothing may be left out. -/
theorem eligible_filter {p : DataMap → Bool} (h : ∀ m ∈ maps, ∀ g, m.Offers g → p m) :
    eligible (maps.filter p) = eligible maps := by
  unfold eligible
  rw [List.filterMap_filter]
  refine List.filterMap_congr fun m hm => ?_
  split
  · rfl
  · rename_i hp
    rw [eligibleSpec?_eq_none_iff.2 fun g hoffers => hp (h m hm g hoffers)]
    rfl

end DataMap

/-! ## Entries of the section -/

namespace Index

/-- Whether a part of the file is that for an index: a name that is missing or empty is left out. -/
structure ShownBy (i : Index) (part : Yaml) : Prop where
  name_eq : part.field? "name" =
    if i.name.getD "" = "" then none else some (.str (i.name.getD ""))
  type_eq : part.field? "type" = some (.str i.type)
  attributes_eq : part.field? "attributes" = some (.seq (i.attributes.map .str))
  uniqueKey_eq : part.at? ["bitmap-index-options", "unique-key"] =
    i.bitmapOptions.map fun b => Yaml.str b.uniqueKey
  transformation_eq : part.at? ["bitmap-index-options", "unique-key-transformation"] =
    i.bitmapOptions.map fun b => Yaml.str b.uniqueKeyTransition
  keys_subset : part.keys ⊆ ["name", "type", "attributes", "bitmap-index-options"]

end Index

/-- Whether an entry of the file is that for a specification. What the specification has no say in
is fixed, and there is nothing else in the entry. -/
structure DataMapSpec.ShownBy (g : DataMapSpec) (entry : Yaml) : Prop where
  backupCount_eq : entry.field? "backup-count" = some (.int g.backupCount.toInt)
  asyncBackupCount_eq : entry.field? "async-backup-count" = some (.int 0)
  timeToLive_eq : entry.field? "time-to-live-seconds" = some (.int g.timeToLiveSeconds.toInt)
  maxIdle_eq : entry.field? "max-idle-seconds" = some (.int 0)
  size_eq : entry.at? ["eviction", "size"] = some (.int g.eviction.maxSize.toInt)
  maxSizePolicy_eq : entry.at? ["eviction", "max-size-policy"] =
    if g.eviction.maxSizePolicy = "" then none else some (.str g.eviction.maxSizePolicy)
  policy_eq : entry.at? ["eviction", "eviction-policy"] =
    if g.eviction.policy = "" then none else some (.str g.eviction.policy)
  readBackupData_eq : entry.field? "read-backup-data" = some (.bool false)
  inMemoryFormat_eq : entry.field? "in-memory-format" = some (.str "BINARY")
  statistics_eq : entry.field? "statistics-enabled" = some (.bool true)
  noIndexes : g.indexes = [] → entry.field? "indexes" = none
  indexes : g.indexes ≠ [] → ∃ parts, entry.field? "indexes" = some (.seq parts) ∧
    List.Forall₂ Index.ShownBy g.indexes parts
  persistence_eq : entry.at? ["hot-restart", "enabled"] = some (.bool g.persistenceEnabled)
  fsync_eq : entry.at? ["hot-restart", "fsync"] = some (.bool false)
  keys_subset : entry.keys ⊆ ["backup-count", "async-backup-count", "time-to-live-seconds",
    "max-idle-seconds", "eviction", "read-backup-data", "in-memory-format", "statistics-enabled",
    "indexes", "hot-restart"]

namespace Yaml

theorem nonempty_eq (s : String) : nonempty s = if s = "" then none else some (.str s) := by
  simp [nonempty]

theorem at?_singleton (key : String) (y : Yaml) : y.at? [key] = y.field? key := by
  simp [at?]

theorem at?_cons (key : String) (path : List String) (y : Yaml) :
    y.at? (key :: path) = (y.field? key).bind (at? path) := rfl

end Yaml

open Yaml in
theorem Index.shownBy_toYaml (i : Index) : i.ShownBy (MapIndex.toYaml
    ⟨i.name.getD "", i.type, i.attributes, i.bitmapOptions⟩) where
  name_eq := (field?_ofSome (by simp) "name").trans (nonempty_eq _)
  type_eq := field?_ofSome (by simp) "type"
  attributes_eq := field?_ofSome (by simp) "attributes"
  uniqueKey_eq := by
    rw [at?_cons, MapIndex.toYaml, field?_ofSome (by simp)]
    cases i.bitmapOptions <;> rfl
  transformation_eq := by
    rw [at?_cons, MapIndex.toYaml, field?_ofSome (by simp)]
    cases i.bitmapOptions <;> rfl
  keys_subset := keys_ofSome _

open Yaml in
/-- The conversion of a specification shows the specification. -/
theorem DataMapSpec.shownBy_toYaml (g : DataMapSpec) : g.ShownBy (MapConfig.ofSpec g).toYaml where
  backupCount_eq := field?_ofSome (by simp) "backup-count"
  asyncBackupCount_eq := field?_ofSome (by simp) "async-backup-count"
  timeToLive_eq := field?_ofSome (by simp) "time-to-live-seconds"
  maxIdle_eq := field?_ofSome (by simp) "max-idle-seconds"
  size_eq := by
    rw [at?_cons, MapConfig.toYaml, field?_ofSome (by simp)]
    exact (at?_singleton _ _).trans (field?_ofSome (by simp) "size")
  maxSizePolicy_eq := by
    rw [at?_cons, MapConfig.toYaml, field?_ofSome (by simp)]
    exact (at?_singleton _ _).trans
      ((field?_ofSome (by simp) "max-size-policy").trans (nonempty_eq _))
  policy_eq := by
    rw [at?_cons, MapConfig.toYaml, field?_ofSome (by simp)]
    exact (at?_singleton _ _).trans
      ((field?_ofSome (by simp) "eviction-policy").trans (nonempty_eq _))
  readBackupData_eq := field?_ofSome (by simp) "read-backup-data"
  inMemoryFormat_eq := field?_ofSome (by simp) "in-memory-format"
  statistics_eq := field?_ofSome (by simp) "statistics-enabled"
  noIndexes := fun hnone => by
    rw [MapConfig.toYaml, field?_ofSome (by simp), MapConfig.ofSpec, hnone]
    rfl
  indexes := fun hsome => by
    obtain ⟨i, is, hindexes⟩ := List.exists_cons_of_ne_nil hsome
    rw [MapConfig.toYaml, field?_ofSome (by simp), MapConfig.ofSpec, hindexes]
    refine ⟨_, rfl, ?_⟩
    rw [List.map_map, List.forall₂_map_right_iff, List.forall₂_same]
    exact fun j _ => j.shownBy_toYaml
  persistence_eq := by
    rw [at?_cons, MapConfig.toYaml, field?_ofSome (by simp)]
    rfl
  fsync_eq := by
    rw [at?_cons, MapConfig.toYaml, field?_ofSome (by simp)]
    rfl
  keys_subset := keys_ofSome _

/-! ## The section of the file -/

namespace Yaml

/-- The maps that a configuration file names, with their settings. -/
def mapSection (file : Yaml) : List (String × Yaml) :=
  match file.field? "map" with
  | some (.map es) => es
  | _ => []

end Yaml

namespace Cluster

variable {c : Cluster} {maps maps' : List DataMap} {name : String}

theorem maps_memberConfig (c : Cluster) (maps : List DataMap) : (c.memberConfig maps).maps =
    Table.ofEntries ((DataMap.eligible maps).map fun e => (e.1, MapConfig.ofSpec e.2)) := by
  unfold Table.ofEntries
  rw [List.foldl_map]
  rfl

theorem ordered_maps (c : Cluster) (maps : List DataMap) :
    Table.Ordered (c.memberConfig maps).maps := by
  rw [maps_memberConfig]
  exact Table.ordered_ofEntries _

theorem get?_maps (c : Cluster) (maps : List DataMap) (name : String) :
    Table.get? name (c.memberConfig maps).maps =
      ((DataMap.eligible maps).reverse.lookup name).map MapConfig.ofSpec := by
  have hlookup (es : List (String × DataMapSpec)) :
      (es.map fun e => (e.1, MapConfig.ofSpec e.2)).lookup name =
        (es.lookup name).map MapConfig.ofSpec := by
    induction es with
    | nil => rfl
    | cons e es ih =>
      rw [List.map_cons, List.lookup_cons, List.lookup_cons, ih]
      cases name == e.1 <;> rfl
  rw [maps_memberConfig, Table.ofEntries, Table.get?_foldl_set, Table.get?_nil, Option.or_none,
    ← List.map_reverse, hlookup]

theorem mapSection_toYaml (config : MemberConfig) :
    config.toYaml.mapSection = config.maps.map fun e => (e.1, e.2.toYaml) := by
  unfold Yaml.mapSection MemberConfig.toYaml
  rw [Yaml.field?_ofSome (by simp)]
  cases hmaps : config.maps with
  | nil => rfl
  | cons e es => rfl

theorem configMap_congr (h : (c.memberConfig maps').maps = (c.memberConfig maps).maps) :
    c.configMap maps' = c.configMap maps := by
  have hconfig : c.memberConfig maps' = c.memberConfig maps :=
    congrArg (fun table => { MemberConfig.ofCluster c with maps := table }) h
  unfold configMap
  rw [hconfig]

/-- The file names exactly the maps that something is offered for, each once and with an entry that
shows the last offer; maps that offer nothing make no difference to it, nor does the order of maps
that offer under names of their own. -/
theorem mapSection_configMap (c : Cluster) (maps : List DataMap) :
    (c.configMap maps).Holds (c.memberConfig maps).toYaml ∧
      ((c.memberConfig maps).toYaml.mapSection.map (·.1)).Nodup ∧
      (∀ name, name ∈ (c.memberConfig maps).toYaml.mapSection.map (·.1) ↔
        ∃ m ∈ maps, m.mapName = name ∧ ∃ g, m.Offers g) ∧
      (∀ name entry, (name, entry) ∈ (c.memberConfig maps).toYaml.mapSection ↔
        ∃ g, DataMap.LastOffer maps name g ∧ entry = (MapConfig.ofSpec g).toYaml ∧
          g.ShownBy entry) ∧
      (∀ p : DataMap → Bool, (∀ m ∈ maps, ∀ g, m.Offers g → p m) →
        c.configMap (maps.filter p) = c.configMap maps) ∧
      (DataMap.DistinctOffers maps → ∀ maps', maps'.Perm maps →
        c.configMap maps' = c.configMap maps) := by
  have hsection := mapSection_toYaml (c.memberConfig maps)
  have hentry (name : String) (entry : Yaml) :
      (name, entry) ∈ (c.memberConfig maps).toYaml.mapSection ↔
        ∃ g, DataMap.LastOffer maps name g ∧ entry = (MapConfig.ofSpec g).toYaml ∧
          g.ShownBy entry := by
    rw [hsection, List.mem_map]
    constructor
    · rintro ⟨⟨_, config⟩, he, hentry⟩
      obtain ⟨rfl, rfl⟩ := Prod.mk.inj hentry
      rw [← (c.ordered_maps maps).get?_eq_some_iff, get?_maps, Option.map_eq_some_iff] at he
      obtain ⟨g, hg, rfl⟩ := he
      exact ⟨g, DataMap.lookup_reverse_eligible.1 hg, rfl, g.shownBy_toYaml⟩
    · rintro ⟨g, hg, rfl, -⟩
      refine ⟨(name, MapConfig.ofSpec g), (c.ordered_maps maps).get?_eq_some_iff.1 ?_, rfl⟩
      rw [get?_maps, DataMap.lookup_reverse_eligible.2 hg, Option.map_some]
  refine ⟨c.holds_configMap maps, ?_, fun name => ?_, hentry, fun p hp => ?_,
    fun hdistinct maps' hperm => ?_⟩
  · rw [hsection, List.map_map]
    exact (c.ordered_maps maps).nodup
  · simp only [← DataMap.exists_lastOffer_iff, List.mem_map, Prod.exists, hentry]
    exact ⟨fun ⟨_, _, ⟨g, hg, _⟩, hname⟩ => ⟨g, hname ▸ hg⟩,
      fun ⟨g, hg⟩ => ⟨name, _, ⟨g, hg, rfl, g.shownBy_toYaml⟩, rfl⟩⟩
  · refine configMap_congr ?_
    rw [maps_memberConfig, maps_memberConfig, DataMap.eligible_filter hp]
  · refine configMap_congr ((c.ordered_maps maps').ext (c.ordered_maps maps) fun name => ?_)
    rw [get?_maps, get?_maps]
    congr 1
    ext g
    rw [DataMap.lookup_reverse_eligible, DataMap.lookup_reverse_eligible,
      (hdistinct.perm hperm).lastOffer_iff, hdistinct.lastOffer_iff]
    simp only [hperm.mem_iff]

/-- A map that has been accepted. -/
def accepted : DataMap where
  metadata := { name := some "people" }
  spec := { clusterResource := "hz", backupCount := 2 }
  status := some .success

/-- A map that is on its way out. -/
def leaving : DataMap where
  metadata := { name := some "orders" }
  spec := { clusterResource := "hz" }
  status := some .terminating

theorem mapSection_configMap_renamed :
    (restoring.configMap [leaving, accepted, renamed]).Holds
        (restoring.memberConfig [leaving, accepted, renamed]).toYaml ∧
      (∃ entry, ("people", entry) ∈
          (restoring.memberConfig [leaving, accepted, renamed]).toYaml.mapSection ∧
        accepted.spec.ShownBy entry) ∧
      "orders" ∉
        (restoring.memberConfig [leaving, accepted, renamed]).toYaml.mapSection.map (·.1) ∧
      restoring.configMap [accepted, renamed] =
        restoring.configMap [leaving, accepted, renamed] ∧
      DataMap.DistinctOffers [leaving, accepted, renamed] ∧
      restoring.configMap [renamed, leaving, accepted] =
        restoring.configMap [leaving, accepted, renamed] := by
  have hleaving : ∀ g, ¬ leaving.Offers g := DataMap.eligibleSpec?_eq_none_iff.1 rfl
  have hdistinct : DataMap.DistinctOffers [leaving, accepted, renamed] := by
    have hnames : [leaving, accepted, renamed].Pairwise (·.mapName ≠ ·.mapName) := by decide
    exact hnames.imp fun hne hname => absurd hname hne
  have haccepted : DataMap.LastOffer [leaving, accepted, renamed] "people" accepted.spec :=
    hdistinct.lastOffer_iff.2 ⟨accepted, by simp, rfl, .current (.inr rfl)⟩
  obtain ⟨hholds, -, hnamed, hentry, hfilter, hperm⟩ :=
    mapSection_configMap restoring [leaving, accepted, renamed]
  have hshown := accepted.spec.shownBy_toYaml
  refine ⟨hholds, ⟨_, (hentry _ _).2 ⟨accepted.spec, haccepted, rfl, hshown⟩, hshown⟩, fun h => ?_,
    ?_, hdistinct, ?_⟩
  · obtain ⟨m, hm, hname, g, hoffers⟩ := (hnamed _).1 h
    simp only [List.mem_cons, List.not_mem_nil, or_false] at hm
    rcases hm with rfl | rfl | rfl
    · exact hleaving g hoffers
    · exact absurd hname (by decide)
    · exact absurd hname (by decide)
  · refine hfilter (fun m => m.mapName != "orders") fun m hm g hoffers => ?_
    simp only [List.mem_cons, List.not_mem_nil, or_false] at hm
    rcases hm with rfl | rfl | rfl
    · exact absurd hoffers (hleaving g)
    · decide
    · decide
  · exact hperm hdistinct _ (by decide)

end Cluster

end GridOperator
