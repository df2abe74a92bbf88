import GridOperator.Kubernetes.StatefulSet
import GridOperator.Proofs.Table
import Mathlib.Data.List.Basic
import Mathlib.Data.Option.Basic

/-!
# Annotations and the JSON of objects

The JSON of an object has each of its known members, unless the members that are
kept besides say something else. Objects of one JSON therefore agree in their
annotations if what they keep besides does not touch them, as in every object
that was read.
-/

namespace GridOperator

/-! ## Members that are sorted -/

namespace Json

theorem get?_foldl_ofSome {known : List (String × Option Json)} (hkeys : (known.map (·.1)).Nodup)
    (key : String) (t : Members) :
    Table.get? key ((ofSome known).foldl (fun t e => Table.set e.1 e.2 t) t) =
      ((known.lookup key).join <|> Table.get? key t) := by
  induction known generalizing t with
  | nil => rfl
  | cons e known ih =>
    obtain ⟨name, value⟩ := e
    rw [List.map_cons, List.nodup_cons] at hkeys
    by_cases hkey : key = name
    · subst hkey
      have hrest : known.lookup key = none := Table.lookup_eq_none hkeys.1
      rw [List.lookup_cons_self]
      cases value with
      | none => exact (ih hkeys.2 t).trans (by rw [hrest]; rfl)
      | some j => exact (ih hkeys.2 _).trans (by rw [hrest, Table.get?_set_self]; rfl)
    · rw [List.lookup_cons, beq_false_of_ne hkey]
      cases value with
      | none => exact ih hkeys.2 t
      | some j => exact (ih hkeys.2 _).trans (by rw [Table.get?_set_of_ne hkey])

/-- A known member is found if nothing else is kept under its name. -/
theorem get?_sorted {known : List (String × Option Json)} {other : Members} {key : String}
    (hkeys : (known.map (·.1)).Nodup) (hother : key ∉ other.map (·.1)) :
    Table.get? key (sorted known other).members = (known.lookup key).join := by
  show Table.get? key ((ofSome known ++ other).foldl _ []) = _
  rw [List.foldl_append, Table.get?_foldl_set_of_notMem hother, get?_foldl_ofSome hkeys]
  cases (known.lookup key).join <;> rfl

end Json

namespace TextMap

theorem toJson_injective {m n : TextMap} (h : m.toJson = n.toJson) : m = n := by
  refine List.map_injective_iff.2 ?_ (Json.obj.inj h)
  rintro ⟨k, v⟩ ⟨l, w⟩ h
  simpa using h

end TextMap

namespace Kubernetes

/-! ## Annotations -/

namespace ObjectMeta

theorem annotation?_annotate (m : ObjectMeta) (key value : String) :
    (m.annotate key value).annotation? key = some value := by
  unfold annotate annotation?
  rw [Option.bind_some, Table.get?_set_self]

/-- Metadata that keep no other annotations besides their own. -/
def WellFormed (m : ObjectMeta) : Prop := "annotations" ∉ m.other.map (·.1)

theorem wellFormed_ofNormal (j : Json) : (ofNormal j).WellFormed := by
  simp [WellFormed, ofNormal, Members.without]

theorem get?_annotations {m : ObjectMeta} (hm : m.WellFormed) :
    Table.get? "annotations" m.toJson.members = m.annotations.map TextMap.toJson := by
  unfold toJson
  rw [Json.get?_sorted (by simp only [List.map_cons, List.map_nil]; decide) hm]
  rfl

theorem annotations_eq_of_toJson {m n : ObjectMeta} (hm : m.WellFormed) (hn : n.WellFormed)
    (h : m.toJson = n.toJson) : m.annotations = n.annotations := by
  refine Option.map_injective (fun _ _ => TextMap.toJson_injective) ?_
  rw [← get?_annotations hm, ← get?_annotations hn, h]

end ObjectMeta

namespace StatefulSet

/-- A stateful set that keeps no other metadata or annotations besides its own. -/
def WellFormed (s : StatefulSet) : Prop :=
  "metadata" ∉ s.other.map (·.1) ∧ s.metadata.WellFormed

/-- Every stateful set that is read is well formed. -/
theorem wellFormed_ofNormal (j : Json) : (ofNormal j).WellFormed :=
  ⟨by simp [ofNormal, Members.without], ObjectMeta.wellFormed_ofNormal _⟩

theorem get?_metadata {s : StatefulSet} (hs : s.WellFormed) :
    Table.get? "metadata" s.toJson.members = some s.metadata.toJson := by
  unfold toJson
  rw [Json.get?_sorted (by simp only [List.map_cons, List.map_nil]; decide) hs.1]
  rfl

theorem annotations_eq_of_toJson {s t : StatefulSet} (hs : s.WellFormed) (ht : t.WellFormed)
    (h : s.toJson = t.toJson) : s.metadata.annotations = t.metadata.annotations := by
  refine ObjectMeta.annotations_eq_of_toJson hs.2 ht.2 (Option.some.inj ?_)
  rw [← get?_metadata hs, ← get?_metadata ht, h]

end StatefulSet

end Kubernetes

end GridOperator
