import GridOperator.Cluster.Basic
import GridOperator.DataMap
import GridOperator.HotBackup
import GridOperator.Kubernetes.ConfigMap
import GridOperator.Kubernetes.Pod
import GridOperator.Kubernetes.Rbac
import GridOperator.Kubernetes.Service
import GridOperator.Kubernetes.StatefulSet
import GridOperator.Proofs.Store.Outcomes
import GridOperator.Proofs.Text.Joined

/-!
# Versions

No two objects that are ever in a store have the same version, not even objects of
different names, and not if one of them has been deleted in between. `Numbered` is
the invariant, about the objects that are or have been there.
-/

namespace GridOperator

open Kubernetes

/-- A kind of objects whose metadata can be replaced. -/
class LawfulResource (K : Type) [Resource K] : Prop where
  metadata_withMetadata (object : K) (m : ObjectMeta) :
    Resource.metadata (Resource.withMetadata object m) = m

instance : LawfulResource Cluster := ⟨fun _ _ => rfl⟩
instance : LawfulResource DataMap := ⟨fun _ _ => rfl⟩
instance : LawfulResource HotBackup := ⟨fun _ _ => rfl⟩
instance : LawfulResource ConfigMap := ⟨fun _ _ => rfl⟩
instance : LawfulResource Pod := ⟨fun _ _ => rfl⟩
instance : LawfulResource ClusterRole := ⟨fun _ _ => rfl⟩
instance : LawfulResource ClusterRoleBinding := ⟨fun _ _ => rfl⟩
instance : LawfulResource ServiceAccount := ⟨fun _ _ => rfl⟩
instance : LawfulResource Service := ⟨fun _ _ => rfl⟩
instance : LawfulResource StatefulSet := ⟨fun _ _ => rfl⟩

namespace Kubernetes.Resource

variable {K : Type} [Resource K]

/-- The version of an object, if it has been stored. -/
def version? (object : K) : Option String := (metadata object).resourceVersion

variable [LawfulResource K]

@[simp] theorem metadata_mapMetadata (f : ObjectMeta → ObjectMeta) (object : K) :
    metadata (mapMetadata f object) = f (metadata object) :=
  LawfulResource.metadata_withMetadata _ _

@[simp] theorem anyName_withVersion (object : K) (version : Nat) :
    anyName (withVersion object version) = anyName object := by
  unfold anyName withVersion
  rw [metadata_mapMetadata]
  rfl

@[simp] theorem version?_withVersion (object : K) (version : Nat) :
    version? (withVersion object version) = some (toString version) := by
  unfold version? withVersion
  rw [metadata_mapMetadata]

/-- The version after `n` is above all earlier ones. -/
theorem version?_ne_withVersion {o : K} {n : Nat} (h : ∃ v ≤ n, version? o = some (toString v))
    (object : K) : version? o ≠ version? (withVersion object (n + 1)) := by
  intro hsame
  obtain ⟨v, hv, hversion⟩ := h
  rw [hversion, version?_withVersion, Option.some_inj] at hsame
  have := Text.toString_injective hsame
  omega

end Kubernetes.Resource

namespace MemoryStore

variable {K : Type} [Resource K] {s : MemoryStore K} {known known' : K → Prop} {object : K}
  {name : String}

theorem isCurrent_iff {changed found : K} : isCurrent changed found ↔
    Resource.version? changed = Resource.version? found ∧ (Resource.version? found).isSome := by
  unfold isCurrent Resource.version?
  simp

/-- An object is stored under its name, is known and has a version, and known objects have
different versions, up to the latest one. -/
structure Numbered (known : K → Prop) (s : MemoryStore K) : Prop where
  named {name : String} {o : K} : s.objects.get? name = some o → Resource.anyName o = name
  stored {name : String} {o : K} : s.objects.get? name = some o → known o
  version {o : K} : known o → ∃ v ≤ s.version, Resource.version? o = some (toString v)
  eq_of_version {o o' : K} : known o → known o' →
    Resource.version? o = Resource.version? o' → o = o'

theorem Numbered.restrict (h : Numbered known s) (hsub : ∀ o, known' o → known o)
    (hstored : ∀ name o, s.objects.get? name = some o → known' o) : Numbered known' s where
  named := h.named
  stored := hstored _ _
  version ho := h.version (hsub _ ho)
  eq_of_version ho ho' := h.eq_of_version (hsub _ ho) (hsub _ ho')

theorem numbered_empty : Numbered (fun _ => False) ({} : MemoryStore K) where
  named h := by cases h
  stored h := by cases h
  version := False.elim
  eq_of_version := False.elim

/-- What is known is current exactly if it is what is stored. -/
theorem Numbered.isCurrent_iff_eq (h : Numbered known s) {base found : K} (hbase : known base)
    (hversion : Resource.version? object = Resource.version? base)
    (hfound : s.objects.get? name = some found) : isCurrent object found ↔ found = base := by
  have hknown := h.stored hfound
  rw [isCurrent_iff, hversion]
  constructor
  · rintro ⟨hsame, -⟩
    exact h.eq_of_version hknown hbase hsame.symm
  · rintro rfl
    obtain ⟨v, -, hv⟩ := h.version hknown
    exact ⟨rfl, by rw [hv]; rfl⟩

theorem Numbered.erase (h : Numbered known s) (name : String) :
    Numbered known { s with objects := s.objects.erase name } := by
  have hold : ∀ {other o}, (s.objects.erase name).get? other = some o →
      s.objects.get? other = some o := fun {other o} ho => by
    by_cases hn : other = name
    · rw [hn, Table.get?_erase_self] at ho
      cases ho
    · rwa [Table.get?_erase_of_ne hn] at ho
  exact ⟨fun ho => h.named (hold ho), fun ho => h.stored (hold ho), h.version, h.eq_of_version⟩

variable [LawfulResource K]

theorem Numbered.put (h : Numbered known s) (object : K) :
    Numbered (fun o => known o ∨ o = Resource.withVersion object (s.version + 1))
      (s.put (Resource.anyName object) object) := by
  have hcases : ∀ {name o}, (s.put (Resource.anyName object) object).objects.get? name = some o →
      (name = Resource.anyName object ∧ o = Resource.withVersion object (s.version + 1)) ∨
        s.objects.get? name = some o := fun {name o} ho => by
    by_cases hn : name = Resource.anyName object
    · rw [hn, get?_put_self] at ho
      exact .inl ⟨hn, (Option.some.inj ho).symm⟩
    · rw [get?_put_of_ne hn] at ho
      exact .inr ho
  have hnew : ∀ {o}, known o →
      Resource.version? o ≠ Resource.version? (Resource.withVersion object (s.version + 1)) :=
    fun ho => Resource.version?_ne_withVersion (h.version ho) object
  constructor
  case named =>
    intro name o ho
    rcases hcases ho with ⟨rfl, rfl⟩ | ho
    · exact Resource.anyName_withVersion _ _
    · exact h.named ho
  case stored =>
    intro name o ho
    exact (hcases ho).symm.imp h.stored And.right
  case version =>
    rintro o (ho | rfl)
    · obtain ⟨v, hv, hversion⟩ := h.version ho
      exact ⟨v, Nat.le_succ_of_le hv, hversion⟩
    · exact ⟨_, Nat.le_refl _, Resource.version?_withVersion _ _⟩
  case eq_of_version =>
    rintro o o' (ho | rfl) (ho' | rfl) hsame
    · exact h.eq_of_version ho ho' hsame
    · exact absurd hsame (hnew ho)
    · exact absurd hsame.symm (hnew ho')
    · rfl

theorem numbered_ofList (objects : List K) :
    Numbered (fun o => (ofList objects).objects.get? (Resource.anyName o) = some o)
      (ofList objects) := by
  have hfold : ∀ (s : MemoryStore K) known, Numbered known s → ∃ known', Numbered known'
      (objects.foldl (fun s object => s.put (Resource.anyName object) object) s) := by
    induction objects with
    | nil => exact fun s known h => ⟨known, h⟩
    | cons object rest ih => exact fun s known h => ih _ _ (h.put object)
  obtain ⟨known, h⟩ := hfold {} _ numbered_empty
  exact h.restrict (fun o ho => h.stored ho) fun name o ho => by rwa [h.named ho]

omit [LawfulResource K] in
theorem serve_cases (c : StoreCall K) (s : MemoryStore K) : (serve c s).2 = s ∨
    (∃ object, (serve c s).2 = s.put (Resource.anyName object) object) ∨
      ∃ name, (serve c s).2 = { s with objects := s.objects.erase name } := by
  cases c with
  | get name => exact .inl rfl
  | create object =>
    rcases serve_create_cases object s with ⟨e, hserve⟩ | hserve <;> rw [hserve]
    · exact .inl rfl
    · exact .inr (.inl ⟨object, rfl⟩)
  | update object =>
    rcases serve_update_cases object s with ⟨e, hserve⟩ | hserve <;> rw [hserve]
    · exact .inl rfl
    · exact .inr (.inl ⟨object, rfl⟩)
  | delete name => exact .inr (.inr ⟨name, rfl⟩)

/-- After a call, what is in the store is known besides. -/
theorem Numbered.serve (h : Numbered known s) (c : StoreCall K) :
    Numbered (fun o => known o ∨
      (MemoryStore.serve c s).2.objects.get? (Resource.anyName o) = some o)
      (MemoryStore.serve c s).2 := by
  rcases serve_cases c s with hs | ⟨object, hs⟩ | ⟨name, hs⟩ <;> rw [hs]
  · exact h.restrict (fun o ho => ho.elim id h.stored) fun name o ho => .inl (h.stored ho)
  · refine (h.put object).restrict (fun o ho => ho.elim .inl (h.put object).stored) ?_
    exact fun name o ho => .inr (by rwa [(h.put object).named ho])
  · refine (h.erase name).restrict (fun o ho => ho.elim id (h.erase name).stored) ?_
    exact fun other o ho => .inl ((h.erase name).stored ho)

/-! ## The versions of one object -/

/-- Whether what is stored under a name, if anything, is the latest of these versions, which are
different and from the store. -/
structure Traced (name : String) (s : MemoryStore K) (versions : List K) : Prop where
  stored {o : K} : s.objects.get? name = some o → versions.head? = some o
  version {o : K} : o ∈ versions → ∃ v ≤ s.version, Resource.version? o = some (toString v)
  eq_of_version {o o' : K} : o ∈ versions → o' ∈ versions →
    Resource.version? o = Resource.version? o' → o = o'

variable {versions : List K} {s' : MemoryStore K}

omit [LawfulResource K] in
theorem Traced.mem (h : Traced name s versions) {o : K} (ho : s.objects.get? name = some o) :
    o ∈ versions := List.mem_of_head? (h.stored ho)

omit [LawfulResource K] in
/-- Other objects may change. -/
theorem Traced.congr (h : Traced name s versions)
    (hsame : ∀ o, s'.objects.get? name = some o → s.objects.get? name = some o)
    (hversion : s.version ≤ s'.version) : Traced name s' versions where
  stored ho := h.stored (hsame _ ho)
  version ho := (h.version ho).imp fun _ hv => ⟨Nat.le_trans hv.1 hversion, hv.2⟩
  eq_of_version := h.eq_of_version

theorem Traced.put (h : Traced name s versions) (object : K) : Traced name (s.put name object)
    (Resource.withVersion object (s.version + 1) :: versions) := by
  have hnew : ∀ {o}, o ∈ versions →
      Resource.version? o ≠ Resource.version? (Resource.withVersion object (s.version + 1)) :=
    fun ho => Resource.version?_ne_withVersion (h.version ho) object
  constructor
  case stored =>
    intro o ho
    rwa [get?_put_self] at ho
  case version =>
    intro o ho
    rcases List.mem_cons.1 ho with rfl | ho
    · exact ⟨_, Nat.le_refl _, Resource.version?_withVersion _ _⟩
    · obtain ⟨v, hv, hversion⟩ := h.version ho
      exact ⟨v, Nat.le_succ_of_le hv, hversion⟩
  case eq_of_version =>
    intro o o' ho ho' hsame
    rcases List.mem_cons.1 ho with rfl | ho <;> rcases List.mem_cons.1 ho' with rfl | ho'
    · rfl
    · exact absurd hsame.symm (hnew ho')
    · exact absurd hsame (hnew ho)
    · exact h.eq_of_version ho ho' hsame

omit [LawfulResource K] in
/-- Whatever comes of a replacement that goes out from one of the versions, it takes effect only
where that version is stored. -/
theorem Traced.update (h : Traced (Resource.anyName object) s versions) {base : K}
    (hbase : base ∈ versions) (hversion : Resource.version? object = Resource.version? base)
    {r : Except Error K} (hanswer : s.Answers (.update object) r s') :
    (s' = s ∧ ∃ e, r = .error e) ∨ (s.objects.get? (Resource.anyName object) = some base ∧
      s' = s.put (Resource.anyName object) object) := by
  refine hanswer.write_cases (P := fun s' => s.objects.get? (Resource.anyName object) = some base ∧
    s' = s.put (Resource.anyName object) object) ?_
  cases hfound : s.objects.get? (Resource.anyName object) with
  | none =>
    left
    rw [serve_update_of_none hfound]
    exact ⟨rfl, _, rfl⟩
  | some found =>
    cases hcurrent : isCurrent object found with
    | true =>
      right
      rw [serve_update_of_current hfound hcurrent]
      have hsame := hversion.symm.trans (isCurrent_iff.1 hcurrent).1
      exact ⟨congrArg some (h.eq_of_version (h.mem hfound) hbase hsame.symm), rfl⟩
    | false =>
      left
      rw [serve_update_of_stale hfound hcurrent]
      exact ⟨rfl, _, rfl⟩

end MemoryStore

end GridOperator
