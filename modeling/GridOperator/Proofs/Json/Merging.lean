import GridOperator.Json.Patch
import GridOperator.Proofs.Json.Records
import Mathlib.Data.List.Nodup

/-!
# What a merge patch leaves

A patch is merged member by member: `lookup_mergeMembers` says what each name stands for
afterwards. Objects whose members have names of their own stay such objects, whatever the
patch is (`wellNamed_mergePatch`).
-/

namespace GridOperator

/-! ## Members -/

namespace Members

variable {ms : Members} {name other : String} {value : Json}

theorem lookup_erase_self (ms : Members) (name : String) : (ms.erase name).lookup name = none := by
  refine Table.lookup_eq_none fun h => ?_
  obtain ⟨m, hm, heq⟩ := List.mem_map.1 h
  exact bne_iff_ne.1 (List.mem_filter.1 hm).2 heq

theorem lookup_erase_of_ne (h : other ≠ name) (ms : Members) :
    (ms.erase name).lookup other = ms.lookup other := by
  unfold erase
  induction ms with
  | nil => rfl
  | cons m ms ih =>
    by_cases hm : m.1 = name
    · rw [List.filter_cons_of_neg (by simpa using hm), List.lookup_cons,
        beq_false_of_ne (hm ▸ h), ih]
    · rw [List.filter_cons_of_pos (by simpa using hm), List.lookup_cons, List.lookup_cons, ih]

theorem lookup_set_self (ms : Members) (name : String) (value : Json) :
    (ms.set name value).lookup name = some value := by
  induction ms with
  | nil => exact List.lookup_cons_self
  | cons m ms ih =>
    rw [set]
    split
    · exact List.lookup_cons_self
    · rename_i hne
      rw [List.lookup_cons, beq_false_of_ne (Ne.symm hne), ih]

theorem lookup_set_of_ne (h : other ≠ name) (ms : Members) (value : Json) :
    (ms.set name value).lookup other = ms.lookup other := by
  induction ms with
  | nil => rw [set, List.lookup_cons, beq_false_of_ne h]
  | cons m ms ih =>
    rw [set]
    split
    · rename_i heq
      rw [List.lookup_cons, List.lookup_cons, beq_false_of_ne h, beq_false_of_ne (heq ▸ h)]
    · rw [List.lookup_cons, List.lookup_cons, ih]

theorem mem_of_mem_set {m : String × Json} (h : m ∈ ms.set name value) :
    m = (name, value) ∨ m ∈ ms := by
  induction ms with
  | nil => exact .inl (List.mem_singleton.1 h)
  | cons m' ms ih =>
    rw [set] at h
    split at h
    · exact (List.mem_cons.1 h).imp_right (List.mem_cons_of_mem _)
    · rcases List.mem_cons.1 h with rfl | hmem
      · exact .inr List.mem_cons_self
      · exact (ih hmem).imp_right (List.mem_cons_of_mem _)

/-! ### Names of their own -/

theorem nodup_erase (h : (ms.map (·.1)).Nodup) (name : String) :
    ((ms.erase name).map (·.1)).Nodup := (List.filter_sublist.map _).nodup h

theorem nodup_set (h : (ms.map (·.1)).Nodup) (name : String) (value : Json) :
    ((ms.set name value).map (·.1)).Nodup := by
  induction ms with
  | nil => exact List.nodup_singleton _
  | cons m ms ih =>
    obtain ⟨hnot, hrest⟩ := List.nodup_cons.1 h
    rw [set]
    split
    · rename_i heq
      exact List.nodup_cons.2 ⟨heq ▸ hnot, hrest⟩
    · rename_i hne
      refine List.nodup_cons.2 ⟨fun hmem => ?_, ih hrest⟩
      obtain ⟨m', hm', heq⟩ := List.mem_map.1 hmem
      rcases mem_of_mem_set hm' with rfl | hold
      · exact hne heq.symm
      · exact hnot (List.mem_map.2 ⟨m', hold, heq⟩)

/-- Where each name stands once, its first member is its last one. -/
theorem get?_eq_lookup (h : (ms.map (·.1)).Nodup) (name : String) :
    ms.get? name = ms.lookup name := by
  unfold get?
  induction ms with
  | nil => rfl
  | cons m ms ih =>
    obtain ⟨hnot, hrest⟩ := List.nodup_cons.1 h
    rw [List.reverse_cons, List.find?_append, Option.map_or, ih hrest, List.lookup_cons]
    by_cases hm : m.1 = name
    · subst hm
      rw [Table.lookup_eq_none hnot, Option.none_or, List.find?_singleton, beq_self_eq_true]
      rfl
    · rw [List.find?_singleton, beq_false_of_ne hm, beq_false_of_ne (Ne.symm hm)]
      exact Option.or_none

end Members

namespace Json

variable {ms ps : Members} {name : String} {p j target : Json}

/-! ## What the members are afterwards -/

/-- What a name stands for after a patch, by what it stood for and what the patch has for it. -/
def merged (old : Option Json) : Option Json → Option Json
  | none => old
  | some .null => none
  | some p => some (mergePatch (old.getD .null) p)

theorem merged_of_ne_null (hp : p ≠ .null) (old : Option Json) :
    merged old (some p) = some (mergePatch (old.getD .null) p) := by
  cases p <;> first | rfl | exact absurd rfl hp

theorem mergeMembers_cons_null (ms : Members) (name : String) (ps : Members) :
    mergeMembers ms ((name, .null) :: ps) = mergeMembers (ms.erase name) ps := by
  rw [mergeMembers]

theorem mergeMembers_cons (hp : p ≠ .null) (ms : Members) (name : String) (ps : Members) :
    mergeMembers ms ((name, p) :: ps) =
      mergeMembers (ms.set name (mergePatch ((ms.get? name).getD .null) p)) ps := by
  rw [mergeMembers]
  exact hp

theorem nodup_mergeMembers (h : (ms.map (·.1)).Nodup) (ps : Members) :
    ((mergeMembers ms ps).map (·.1)).Nodup := by
  induction ps generalizing ms with
  | nil => exact h
  | cons m ps ih =>
    obtain ⟨name, p⟩ := m
    by_cases hp : p = .null
    · subst hp
      rw [mergeMembers_cons_null]
      exact ih (Members.nodup_erase h name)
    · rw [mergeMembers_cons hp]
      exact ih (Members.nodup_set h name _)

theorem lookup_mergeMembers (hms : (ms.map (·.1)).Nodup) (hps : (ps.map (·.1)).Nodup)
    (name : String) :
    (mergeMembers ms ps).lookup name = merged (ms.lookup name) (ps.lookup name) := by
  induction ps generalizing ms with
  | nil => rfl
  | cons m ps ih =>
    obtain ⟨key, p⟩ := m
    obtain ⟨hnot, hrest⟩ := List.nodup_cons.1 hps
    have hkey : ps.lookup key = none := Table.lookup_eq_none hnot
    by_cases hp : p = .null
    · subst hp
      rw [mergeMembers_cons_null, ih (Members.nodup_erase hms key) hrest, List.lookup_cons]
      by_cases hname : name = key
      · subst hname
        rw [hkey, beq_self_eq_true, Members.lookup_erase_self]
        rfl
      · rw [beq_false_of_ne hname, Members.lookup_erase_of_ne hname]
    · rw [mergeMembers_cons hp, ih (Members.nodup_set hms key _) hrest, List.lookup_cons]
      by_cases hname : name = key
      · subst hname
        rw [hkey, beq_self_eq_true, Members.lookup_set_self, Members.get?_eq_lookup hms]
        exact (merged_of_ne_null hp _).symm
      · rw [beq_false_of_ne hname, Members.lookup_set_of_ne hname]

/-! ## Objects with names of their own -/

/-- Whether no object has two members of one name. What is inside an array is of no account, as a
patch takes the place of an array as a whole. -/
inductive WellNamed : Json → Prop
  | other {j : Json} (h : ∀ ms, j ≠ .obj ms) : WellNamed j
  | obj {ms : Members} (hnodup : (ms.map (·.1)).Nodup) (hmembers : ∀ m ∈ ms, WellNamed m.2) :
      WellNamed (.obj ms)

namespace WellNamed

theorem null : WellNamed .null := .other nofun

theorem single (name : String) (h : j.WellNamed) : WellNamed (.obj [(name, j)]) :=
  .obj (List.nodup_singleton _) (List.forall_mem_singleton.2 h)

theorem nodup (h : j.WellNamed) : (j.members.map (·.1)).Nodup := by
  cases h with
  | obj hnodup _ => exact hnodup
  | other h =>
    cases j with
    | obj ms => exact absurd rfl (h ms)
    | _ => exact List.nodup_nil

theorem of_mem_members (h : j.WellNamed) : ∀ m ∈ j.members, m.2.WellNamed := by
  cases h with
  | obj _ hmembers => exact hmembers
  | other h =>
    cases j with
    | obj ms => exact absurd rfl (h ms)
    | _ => exact fun _ hm => absurd hm List.not_mem_nil

theorem of_lookup (hmembers : ∀ m ∈ ms, m.2.WellNamed) (name : String) :
    ((ms.lookup name).getD .null).WellNamed := by
  cases hvalue : ms.lookup name with
  | none => exact null
  | some j =>
    obtain ⟨before, after, rfl, -⟩ := List.lookup_eq_some_iff.1 hvalue
    exact hmembers (name, j) (List.mem_append_right _ List.mem_cons_self)

end WellNamed

mutual

theorem wellNamed_mergePatch : ∀ (patch : Json) {target : Json}, target.WellNamed →
    (target.mergePatch patch).WellNamed
  | .obj ps, target, h => by
    rw [mergePatch]
    exact .obj (nodup_mergeMembers h.nodup ps)
      (wellNamed_mergeMembers ps h.nodup h.of_mem_members)
  | .null, _, _ => .other nofun
  | .bool _, _, _ => .other nofun
  | .int _, _, _ => .other nofun
  | .real _, _, _ => .other nofun
  | .str _, _, _ => .other nofun
  | .arr _, _, _ => .other nofun
  | .unreadable, _, _ => .other nofun

theorem wellNamed_mergeMembers : ∀ (ps : List (String × Json)) {ms : Members},
    (ms.map (·.1)).Nodup → (∀ m ∈ ms, m.2.WellNamed) → ∀ m ∈ mergeMembers ms ps, m.2.WellNamed
  | [], _, _, h => h
  | (name, p) :: ps, ms, hnodup, h => by
    by_cases hp : p = .null
    · subst hp
      rw [mergeMembers_cons_null]
      exact wellNamed_mergeMembers ps (Members.nodup_erase hnodup name)
        fun m hm => h m (List.mem_filter.1 hm).1
    · rw [mergeMembers_cons hp, Members.get?_eq_lookup hnodup]
      refine wellNamed_mergeMembers ps (Members.nodup_set hnodup name _) fun m hm => ?_
      rcases Members.mem_of_mem_set hm with rfl | hold
      · exact wellNamed_mergePatch p (WellNamed.of_lookup h name)
      · exact h m hold

end

end Json

/-! ## Reading what is left -/

namespace Record

variable {α : Type} {fields : List String} {ms : Members} {field : String}

theorem get?_filter (h : field ∈ fields) (ms : Members) (positional : Bool) :
    get? ⟨ms.filter fun m => fields.contains m.1, positional⟩ field = ms.lookup field := by
  unfold get?
  induction ms with
  | nil => rfl
  | cons m ms ih =>
    by_cases hm : m.1 ∈ fields
    · rw [List.filter_cons_of_pos (by simpa using hm), List.lookup_cons, List.lookup_cons, ih]
    · have hne : field ≠ m.1 := fun heq => hm (heq ▸ h)
      rw [List.filter_cons_of_neg (by simpa using hm), List.lookup_cons, beq_false_of_ne hne, ih]

theorem required_filter (h : field ∈ fields) (ms : Members) (positional : Bool)
    (value : Json.Decoder α) :
    required ⟨ms.filter fun m => fields.contains m.1, positional⟩ field value =
      (ms.lookup field).bind value := by
  unfold required
  rw [get?_filter h]

theorem withDefault_filter (h : field ∈ fields) (ms : Members) (positional : Bool)
    (value : Json.Decoder α) (default : α) :
    withDefault ⟨ms.filter fun m => fields.contains m.1, positional⟩ field value default =
      (ms.lookup field).elim (some default) value := by
  unfold withDefault
  rw [get?_filter h]
  cases ms.lookup field <;> rfl

theorem optional_filter (h : field ∈ fields) (ms : Members) (value : Json.Decoder α) :
    optional ⟨ms.filter fun m => fields.contains m.1, false⟩ field value =
      (ms.lookup field).elim (some none) (Json.nullable value) := by
  unfold optional
  rw [get?_filter h]
  cases ms.lookup field <;> rfl

end Record

end GridOperator
