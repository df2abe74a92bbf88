import GridOperator.Kubernetes.Meta
import GridOperator.Table
import Mathlib.Data.String.Basic

/-!
# Tables in order

What is done to a table keeps its keys in increasing order, so that each of them
stands there once.
-/

namespace GridOperator

namespace Table

variable {κ α : Type} [LT κ] {t : Table κ α} {key : κ} {value : α}

/-- The keys are in increasing order. -/
def Ordered (t : Table κ α) : Prop := t.Pairwise (·.1 < ·.1)

theorem ordered_nil : Ordered ([] : Table κ α) := .nil

theorem Ordered.filter (h : Ordered t) (p : κ × α → Bool) : Ordered (t.filter p) :=
  List.Pairwise.filter p h

/-- Other values at the same keys. -/
theorem Ordered.map (h : Ordered t) {f : κ × α → κ × α} (hf : ∀ e, (f e).1 = e.1) :
    Ordered (t.map f) :=
  List.pairwise_map.2 (h.imp fun hlt => (hf _).symm ▸ (hf _).symm ▸ hlt)

theorem Ordered.nodup [Std.Irrefl (α := κ) (· < ·)] (h : Ordered t) : (t.map (·.1)).Nodup :=
  List.pairwise_map.2 (h.imp ne_of_irrefl)

variable [DecidableEq κ]

theorem Ordered.erase (h : Ordered t) (key : κ) : Ordered (t.erase key) := h.filter _

theorem Ordered.get?_eq_some_iff [Std.Irrefl (α := κ) (· < ·)] (h : Ordered t) :
    t.get? key = some value ↔ (key, value) ∈ t := by
  induction t with
  | nil => exact iff_of_false nofun List.not_mem_nil
  | cons e es ih =>
    obtain ⟨hfirst, hrest⟩ := List.pairwise_cons.1 h
    rw [get?, List.mem_cons]
    split <;> rename_i he
    · constructor
      · intro hvalue
        exact .inl (Prod.ext he.symm (Option.some.inj hvalue).symm)
      · rintro (rfl | hmem)
        · rfl
        · exact absurd (he ▸ hfirst _ hmem) (irrefl_of (· < ·) _)
    · rw [ih hrest, or_iff_right fun heq => he (congrArg Prod.fst heq).symm]

/-- Tables in order that agree in every key are the same. -/
theorem Ordered.ext [Std.Irrefl (α := κ) (· < ·)] [IsTrans κ (· < ·)] {s : Table κ α}
    (hs : Ordered s) (ht : Ordered t) (h : ∀ key, get? key s = get? key t) : s = t := by
  have hdistinct {t : Table κ α} (ht : Ordered t) : t.Nodup := by
    refine List.Pairwise.imp ?_ ht
    rintro e _ hlt rfl
    exact irrefl_of (· < ·) _ hlt
  have hperm : s.Perm t := by
    refine (List.perm_ext_iff_of_nodup (hdistinct hs) (hdistinct ht)).2 fun e => ?_
    rw [← hs.get?_eq_some_iff, h, ht.get?_eq_some_iff]
  refine hperm.eq_of_pairwise (fun a b _ _ hab hba => ?_) hs ht
  exact absurd (trans_of (· < ·) hab hba) (irrefl_of (· < ·) _)

omit [LT κ] in
theorem lookup_eq_none {es : List (κ × α)} (h : key ∉ es.map (·.1)) : es.lookup key = none :=
  List.lookup_eq_none_iff.2 fun _ he => bne_iff_ne.2 fun heq => h (heq ▸ List.mem_map_of_mem he)

omit [LT κ] in
theorem get?_map (g : α → α) (key : κ) (t : Table κ α) :
    get? key (t.map fun e => (e.1, g e.2)) = (get? key t).map g := by
  induction t with
  | nil => rfl
  | cons e es ih =>
    rw [List.map_cons, get?, get?]
    split
    · rfl
    · exact ih

variable [DecidableLT κ]

/-- A value that is set makes no difference to the other entries. -/
theorem erase_set (key : κ) (value : α) (t : Table κ α) :
    (t.set key value).erase key = t.erase key := by
  induction t with
  | nil => exact List.filter_cons_of_neg (by simp)
  | cons e es ih =>
    unfold set
    split
    · rename_i he
      exact (List.filter_cons_of_neg (by simp)).trans
        (List.filter_cons_of_neg (by simpa using he)).symm
    · split
      · exact List.filter_cons_of_neg (by simp)
      · rename_i he _
        unfold erase at ih ⊢
        rw [List.filter_cons_of_pos (by simpa using he), ih,
          List.filter_cons_of_pos (by simpa using he)]

theorem mem_of_mem_set {e : κ × α} (h : e ∈ t.set key value) : e = (key, value) ∨ e ∈ t := by
  induction t with
  | nil => exact .inl (List.mem_singleton.1 h)
  | cons e' es ih =>
    rw [set] at h
    split at h
    · exact (List.mem_cons.1 h).imp_right (List.mem_cons_of_mem _)
    · split at h
      · exact List.mem_cons.1 h
      · rcases List.mem_cons.1 h with rfl | hmem
        · exact .inr List.mem_cons_self
        · exact (ih hmem).imp_right (List.mem_cons_of_mem _)

theorem Ordered.set [Std.Trichotomous (α := κ) (· < ·)] [IsTrans κ (· < ·)] (h : Ordered t)
    (key : κ) (value : α) : Ordered (t.set key value) := by
  induction t with
  | nil => exact List.pairwise_singleton _ _
  | cons e es ih =>
    obtain ⟨hfirst, hrest⟩ := List.pairwise_cons.1 h
    rw [Table.set]
    split <;> rename_i heq
    · exact List.pairwise_cons.2 ⟨heq ▸ hfirst, hrest⟩
    · split <;> rename_i hlt
      · refine List.pairwise_cons.2 ⟨List.forall_mem_cons.2 ⟨hlt, fun e' he' => ?_⟩, h⟩
        exact trans_of (· < ·) hlt (hfirst e' he')
      · have hgt : e.1 < key :=
          ((trichotomous_of (· < ·) e.1 key).resolve_right fun h' => h'.elim heq hlt)
        refine List.pairwise_cons.2 ⟨fun e' he' => ?_, ih hrest⟩
        rcases mem_of_mem_set he' with rfl | hmem
        · exact hgt
        · exact hfirst e' hmem

/-- Of the entries set at a key, the last one stands. -/
theorem get?_foldl_set (es : List (κ × α)) (t : Table κ α) :
    get? key (es.foldl (fun t e => t.set e.1 e.2) t) = (es.reverse.lookup key).or (get? key t) := by
  induction es generalizing t with
  | nil => rfl
  | cons e es ih =>
    rw [List.foldl_cons, ih, List.reverse_cons, List.lookup_append, Option.or_assoc]
    refine congrArg _ ?_
    by_cases hkey : key = e.1
    · subst hkey
      rw [get?_set_self, List.lookup_cons_self, Option.some_or]
    · rw [get?_set_of_ne hkey, List.lookup_cons, beq_false_of_ne hkey, List.lookup_nil,
        Option.none_or]

theorem get?_foldl_set_of_notMem {es : List (κ × α)} (h : key ∉ es.map (·.1)) (t : Table κ α) :
    get? key (es.foldl (fun t e => t.set e.1 e.2) t) = get? key t := by
  have hnone : es.reverse.lookup key = none :=
    lookup_eq_none (by rwa [List.map_reverse, List.mem_reverse])
  rw [get?_foldl_set, hnone, Option.none_or]

theorem isSome_get?_foldl_set {es : List (κ × α)} (h : key ∈ es.map (·.1)) (t : Table κ α) :
    (get? key (es.foldl (fun t e => t.set e.1 e.2) t)).isSome := by
  obtain ⟨e, he, rfl⟩ := List.mem_map.1 h
  have hsome : (es.reverse.lookup e.1).isSome :=
    List.lookup_isSome_iff.2 ⟨e, List.mem_reverse.2 he, beq_self_eq_true _⟩
  rw [get?_foldl_set, Option.isSome_or, hsome, Bool.true_or]

theorem ordered_ofEntries [Std.Trichotomous (α := κ) (· < ·)] [IsTrans κ (· < ·)]
    (es : List (κ × α)) : Ordered (ofEntries es) :=
  List.foldlRecOn es _ ordered_nil fun _ h e _ => h.set e.1 e.2

end Table

/-- Where each key stands once, each entry is found. -/
theorem TextMap.includes_self {m : TextMap} (h : Table.Ordered m) : m.includes m :=
  List.all_eq_true.2 fun _ he => beq_iff_eq.2 (h.get?_eq_some_iff.2 he)

namespace Kubernetes.ObjectKey

instance : Std.Irrefl (α := ObjectKey) (· < ·) where
  irrefl _ h := h.elim (lt_irrefl _) fun h => lt_irrefl _ h.2

instance : IsTrans ObjectKey (· < ·) where
  trans := by
    rintro a b c (hspace | ⟨hspace, hname⟩) (hspace' | ⟨hspace', hname'⟩)
    · exact .inl (hspace.trans hspace')
    · exact .inl (hspace' ▸ hspace)
    · exact .inl (hspace ▸ hspace')
    · exact .inr ⟨hspace.trans hspace', hname.trans hname'⟩

instance : Std.Trichotomous (α := ObjectKey) (· < ·) where
  trichotomous a b hlt hgt := by
    obtain ⟨space, name⟩ := a
    obtain ⟨space', name'⟩ := b
    obtain rfl : space = space' :=
      le_antisymm (not_lt.1 fun h => hgt (.inl h)) (not_lt.1 fun h => hlt (.inl h))
    obtain rfl : name = name' :=
      le_antisymm (not_lt.1 fun h => hgt (.inr ⟨rfl, h⟩)) (not_lt.1 fun h => hlt (.inr ⟨rfl, h⟩))
    rfl

end Kubernetes.ObjectKey

end GridOperator
