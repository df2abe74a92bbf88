import GridOperator.Desired.ConfigMap
import GridOperator.Reconcile.Steps
import Mathlib.Data.List.Basic

/-!
# Maps whose last edit has not come through

Their settings in the configuration of the members are those that last came
through. The cluster whose configuration they stand in and their name in it are
read off the last edit all the same: `liveConfig_restored_iff` says for which edits
this makes no difference.
-/

namespace GridOperator

open Kubernetes

namespace DataMap

/-- Whether the last edit of a map has not come through. -/
def Unsettled (m : DataMap) : Prop := m.state = .failed ∨ m.state = .pending

/-- The map as it was when a specification had come through. -/
def restored (g : DataMapSpec) (m : DataMap) : DataMap :=
  { m with spec := g, status := some .success }

variable {m : DataMap} {g : DataMapSpec}

theorem Unsettled.eligibleSpec? (h : m.Unsettled) : m.eligibleSpec? = m.lastSpec? := by
  unfold DataMap.eligibleSpec?
  rcases h with h | h <;> rw [h]

theorem eligibleSpec?_restored : (m.restored g).eligibleSpec? = some g := rfl

theorem eligible_append (before after : List DataMap) :
    eligible (before ++ after) = eligible before ++ eligible after :=
  List.filterMap_append

theorem eligible_singleton (h : m.eligibleSpec? = some g) : eligible [m] = [(m.mapName, g)] := by
  unfold eligible
  rw [List.filterMap_cons, h]
  rfl

end DataMap

namespace Cluster

/-- The configuration of the cluster's members where there are these maps. -/
def liveConfig (c : Cluster) (maps : List DataMap) : MemberConfig :=
  c.memberConfig (maps.filter c.owns)

/-- The settings that the maps of the cluster bring into its configuration. -/
def liveMaps (c : Cluster) (maps : List DataMap) : List (String × DataMapSpec) :=
  DataMap.eligible (maps.filter c.owns)

variable {c : Cluster} {m : DataMap} {g : DataMapSpec}

theorem liveConfig_eq_withMaps (c : Cluster) (maps : List DataMap) :
    c.liveConfig maps = (MemberConfig.ofCluster c).withMaps (c.liveMaps maps) := rfl

theorem liveMaps_append (before after : List DataMap) :
    c.liveMaps (before ++ after) = c.liveMaps before ++ c.liveMaps after := by
  unfold liveMaps
  rw [List.filter_append, DataMap.eligible_append]

theorem liveMaps_singleton (h : m.eligibleSpec? = some g) :
    c.liveMaps [m] = if c.owns m then [(m.mapName, g)] else [] := by
  unfold liveMaps
  rw [List.filter_singleton]
  cases c.owns m with
  | true => exact DataMap.eligible_singleton h
  | false => rfl

theorem maps_liveConfig_singleton (h : m.eligibleSpec? = some g) :
    (c.liveConfig [m]).maps = if c.owns m then [(m.mapName, .ofSpec g)] else [] := by
  rw [liveConfig_eq_withMaps, liveMaps_singleton h]
  cases c.owns m <;> rfl

/-- A map whose last edit has not come through counts, among whichever other maps, for what it was
when it last did exactly if the edit has left it with the cluster, or without, and in the first
case with its name. -/
theorem liveConfig_restored_iff (hm : m.Unsettled) (hg : m.lastSpec? = some g) :
    (∀ before after, c.liveConfig (before ++ m :: after) =
      c.liveConfig (before ++ m.restored g :: after)) ↔
      c.owns m = c.owns (m.restored g) ∧ (c.owns m → m.mapName = (m.restored g).mapName) := by
  have hspec : m.eligibleSpec? = some g := hm.eligibleSpec?.trans hg
  have hspec' : (m.restored g).eligibleSpec? = some g := DataMap.eligibleSpec?_restored
  constructor
  · intro h
    have halone := congrArg MemberConfig.maps (h [] [])
    rw [List.nil_append, List.nil_append, maps_liveConfig_singleton hspec,
      maps_liveConfig_singleton hspec'] at halone
    cases howns : c.owns m <;> cases howns' : c.owns (m.restored g) <;>
      simp only [howns, howns', if_true, if_false, Bool.false_eq_true] at halone
    · exact ⟨rfl, nofun⟩
    · cases halone
    · cases halone
    · exact ⟨rfl, fun _ => (Prod.mk.inj (List.singleton_inj.1 halone)).1⟩
  · rintro ⟨howns, hname⟩ before after
    have hsame : c.liveMaps [m] = c.liveMaps [m.restored g] := by
      rw [liveMaps_singleton hspec, liveMaps_singleton hspec', ← howns]
      cases hmine : c.owns m with
      | true => rw [hname hmine]
      | false => rfl
    rw [liveConfig_eq_withMaps, liveConfig_eq_withMaps, List.append_cons before m,
      List.append_cons before (m.restored g)]
    simp only [liveMaps_append, hsame]

/-- A map that is renamed in an edit that has failed. -/
def renamed : DataMap where
  metadata := ObjectMeta.annotate { name := some "people" } Names.lastSpecAnnotation
    (Json.obj [("hazelcastResourceName", .str "hz")]).render
  spec := { name := some "renamed", clusterResource := "hz" }
  status := some .failed

theorem liveConfig_restored_iff_renamed : renamed.Unsettled ∧
    renamed.lastSpec? = some { clusterResource := "hz" } ∧
      ∃ c : Cluster, ¬ ∀ before after, c.liveConfig (before ++ renamed :: after) =
        c.liveConfig (before ++ renamed.restored { clusterResource := "hz" } :: after) := by
  have hunsettled : renamed.Unsettled := .inl rfl
  have hlast : renamed.lastSpec? = some { clusterResource := "hz" } := by decide +kernel
  refine ⟨hunsettled, hlast, { metadata := { name := some "hz" }, spec := {} }, fun hsame => ?_⟩
  have hname := ((liveConfig_restored_iff hunsettled hlast).1 hsame).2 (by decide)
  exact absurd hname (by decide)

end Cluster

end GridOperator
