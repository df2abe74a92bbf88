import GridOperator.Json.Record
import GridOperator.Proofs.Json.RoundTrip
import GridOperator.Proofs.Table

/-!
# Reading back the fields of records

A record is searched field by field, whatever fields are missing from its members;
what is written into a field is read as what it was written as. The texts of
numbers of 32 bits are plain.
-/

namespace GridOperator

namespace Record

variable {α : Type} {field name : String} {j : Json} {ms : Members} {positional : Bool}

theorem required_cons_self (read : Json.Decoder α) :
    required ⟨(field, j) :: ms, positional⟩ field read = read j := by
  unfold required get?
  rw [List.lookup_cons_self, Option.bind_some]

theorem required_cons_of_ne (h : field ≠ name) (read : Json.Decoder α) :
    required ⟨(name, j) :: ms, positional⟩ field read =
      required ⟨ms, positional⟩ field read := by
  unfold required get?
  rw [List.lookup_cons, beq_false_of_ne h]

theorem eraseDups_of_nodup {names : List String} (h : names.Nodup) : names.eraseDups = names := by
  induction names with
  | nil => rfl
  | cons name names ih =>
    obtain ⟨hnot, hrest⟩ := List.nodup_cons.1 h
    have hfilter : names.filter (fun other => !other == name) = names := by
      refine List.filter_eq_self.2 fun other hother => ?_
      have hne : other ≠ name := fun h => hnot (h ▸ hother)
      simpa using hne
    rw [List.eraseDups_cons, hfilter, ih hrest]

/-- An object with names of their own is read for the declared fields among them. -/
theorem ofJson?_of_nodup {fields : List String} (honce : (ms.map (·.1)).Nodup) :
    Record.ofJson? fields (.obj ms) =
      some ⟨ms.filter fun m => fields.contains m.1, false⟩ := by
  have hown : ((ms.filter fun m => fields.contains m.1).map (·.1)).Nodup :=
    (List.filter_sublist.map _).nodup honce
  unfold Record.ofJson?
  simp only [eraseDups_of_nodup hown, List.length_map, if_true]

/-- An object whose members are declared fields, each of them once, is a record of its members. -/
theorem ofJson?_obj {fields : List String} (hdeclared : ∀ name ∈ ms.map (·.1), name ∈ fields)
    (honce : (ms.map (·.1)).Nodup) : Record.ofJson? fields (.obj ms) = some ⟨ms, false⟩ := by
  have hown : ms.filter (fun m => fields.contains m.1) = ms := by
    refine List.filter_eq_self.2 fun m hm => ?_
    simpa using hdeclared m.1 (List.mem_map_of_mem hm)
  rw [ofJson?_of_nodup honce, hown]

/-! ## Members without a value -/

variable {l : List (String × Option Json)}

theorem keys_ofSome_sublist (l : List (String × Option Json)) :
    ((Json.ofSome l).map (·.1)).Sublist (l.map (·.1)) := by
  unfold Json.ofSome
  induction l with
  | nil => exact .slnil
  | cons m l ih =>
    obtain ⟨name, _ | j⟩ := m
    · exact ih.cons _
    · exact ih.cons_cons _

theorem lookup_ofSome (h : (l.map (·.1)).Nodup) (name : String) :
    (Json.ofSome l).lookup name = (l.lookup name).join := by
  induction l with
  | nil => rfl
  | cons m l ih =>
    obtain ⟨hnot, hrest⟩ := List.nodup_cons.1 h
    obtain ⟨key, j⟩ := m
    have hcons : Json.ofSome ((key, j) :: l) = (j.map (key, ·)).toList ++ Json.ofSome l := by
      cases j <;> rfl
    rw [hcons]
    by_cases hname : name = key
    · subst hname
      have hnone : (Json.ofSome l).lookup name = none :=
        Table.lookup_eq_none fun hmem => hnot ((keys_ofSome_sublist l).subset hmem)
      cases j with
      | none => simp [hnone]
      | some j => simp
    · have hne : (name == key) = false := by simpa using hname
      rw [List.lookup_cons, hne, ← ih hrest]
      cases j with
      | none => rfl
      | some j => simp [List.lookup_cons, hne]

end Record

namespace Json

theorem text_str (s : String) : text (.str s) = some s := rfl

theorem flag_bool (b : Bool) : flag (.bool b) = some b := rfl

theorem nullable_text (o : Option String) : nullable text (ofOption .str o) = some o := by
  cases o <;> rfl

theorem list_ofList {α : Type} {read : Decoder α} {write : α → Json}
    (h : ∀ a, read (write a) = some a) (as : List α) : list read (ofList write as) = some as := by
  unfold ofList list
  induction as with
  | nil => rfl
  | cons a as ih =>
    simp only [List.map_cons, List.mapM_cons, h, ih]
    rfl

theorem int32_ofInt32 (n : Int32) : int32 (ofInt32 n) = some n := by
  have hlo := n.le_toInt
  have hhi := n.toInt_lt
  unfold ofInt32 int32
  dsimp only
  rw [if_pos ⟨by omega, by omega⟩, Int32.ofInt_toInt]

theorem uint32_ofUInt32 (n : UInt32) : uint32 (ofUInt32 n) = some n := by
  have hhi := n.toNat_lt
  unfold ofUInt32 uint32
  dsimp only
  rw [if_pos ⟨by omega, by omega⟩, Int.toNat_natCast, UInt32.ofNat_toNat]

theorem plain_ofInt32 (level : Nat) (n : Int32) : Plain level (ofInt32 n) := by
  have hlo := n.le_toInt
  have hhi := n.toInt_lt
  exact .int ⟨by omega, by omega⟩

theorem plain_ofUInt32 (level : Nat) (n : UInt32) : Plain level (ofUInt32 n) := by
  have hhi := n.toNat_lt
  exact .int ⟨by omega, by omega⟩

end Json

end GridOperator
