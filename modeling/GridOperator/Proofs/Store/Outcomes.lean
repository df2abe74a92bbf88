import GridOperator.Finalizer
import GridOperator.Proofs.Script.Execution
import GridOperator.Store.Memory

/-!
# What may come of work on a store

A call is answered by the store, or refused, or carried out without an answer.
`MemoryStore.unreliable` is the store in which every call may go in each of these
ways. Whatever happens, a piece of work either leaves the store as it was or has
written one object.
-/

namespace GridOperator

open Kubernetes
open Script (Environment)

namespace Kubernetes.ObjectMeta

theorem hasFinalizer_addFinalizer (m : ObjectMeta) : m.addFinalizer.hasFinalizer := by
  simp [hasFinalizer, addFinalizer]

theorem hasFinalizer_removeFinalizer (m : ObjectMeta) :
    m.removeFinalizer.hasFinalizer = false := by
  simp [hasFinalizer, removeFinalizer]

end Kubernetes.ObjectMeta

variable {K : Type} [Resource K]

namespace MemoryStore

/-- What may come of a call: the store answers it, or it fails, in which case it may have been
carried out nevertheless. -/
def Answers (s : MemoryStore K) (c : StoreCall K) (answer : c.Answer) (s' : MemoryStore K) : Prop :=
  (answer = (serve c s).1 ∧ s' = (serve c s).2) ∨
    ∃ e, answer = StoreCall.fail e c ∧ (s' = s ∨ s' = (serve c s).2)

/-- A store whose calls may fail, before or after they take effect. -/
def unreliable : Environment (store K) (MemoryStore K) := fun c s answer s' => s.Answers c answer s'

/-- Whether `s'` is `s` with an object stored under its own name, as some version. -/
def Written (object : K) (s s' : MemoryStore K) : Prop :=
  ∃ version, s'.objects =
    s.objects.set (Resource.anyName object) (Resource.withVersion object version)

variable {s s' : MemoryStore K} {object found : K} {name : String}

theorem Written.get?_self (h : Written object s s') :
    ∃ version, s'.objects.get? (Resource.anyName object) =
      some (Resource.withVersion object version) := by
  obtain ⟨version, h⟩ := h
  exact ⟨version, by rw [h, Table.get?_set_self]⟩

theorem Written.get?_of_ne (h : Written object s s') (hn : name ≠ Resource.anyName object) :
    s'.objects.get? name = s.objects.get? name := by
  obtain ⟨version, h⟩ := h
  rw [h, Table.get?_set_of_ne hn]

/-! ## Calls -/

@[simp] theorem get?_put_self (name : String) (object : K) (s : MemoryStore K) :
    (s.put name object).objects.get? name = some (Resource.withVersion object (s.version + 1)) :=
  Table.get?_set_self _ _ _

theorem get?_put_of_ne {other : String} (h : other ≠ name) (object : K) (s : MemoryStore K) :
    (s.put name object).objects.get? other = s.objects.get? other :=
  Table.get?_set_of_ne h _ _

theorem stored_eq (name : String) (object : K) (s : MemoryStore K) :
    s.stored name object =
      (.ok (Resource.withVersion object (s.version + 1)), s.put name object) := by
  unfold stored
  dsimp only
  rw [get?_put_self, Option.getD_some]

theorem serve_create_of_none (h : s.objects.get? (Resource.anyName object) = none) :
    serve (.create object) s = (.ok (Resource.withVersion object (s.version + 1)),
      s.put (Resource.anyName object) object) := by
  simp only [serve, Table.contains, h]
  exact stored_eq _ _ _

theorem serve_create_of_some (h : s.objects.get? (Resource.anyName object) = some found) :
    serve (.create object) s =
      (.error (.conflict (Resource.kind K) (Resource.anyName object)), s) := by
  simp only [serve, Table.contains, h]
  rfl

theorem serve_update_of_none (h : s.objects.get? (Resource.anyName object) = none) :
    serve (.update object) s = (.error (.notFound (Resource.anyName object)), s) := by
  simp only [serve, h]

theorem serve_update_of_current (h : s.objects.get? (Resource.anyName object) = some found)
    (hcurrent : isCurrent object found) :
    serve (.update object) s = (.ok (Resource.withVersion object (s.version + 1)),
      s.put (Resource.anyName object) object) := by
  simp only [serve, h, hcurrent]
  exact stored_eq _ _ _

theorem serve_update_of_stale (h : s.objects.get? (Resource.anyName object) = some found)
    (hstale : isCurrent object found = false) :
    serve (.update object) s =
      (.error (.conflict (Resource.kind K) (Resource.anyName object)), s) := by
  simp only [serve, h, hstale]
  rfl

/-- An object is created, or its creation is refused without any effect. -/
theorem serve_create_cases (object : K) (s : MemoryStore K) :
    (∃ e, serve (.create object) s = (.error e, s)) ∨ serve (.create object) s =
      (.ok (Resource.withVersion object (s.version + 1)),
        s.put (Resource.anyName object) object) := by
  cases hf : s.objects.get? (Resource.anyName object) with
  | none => exact .inr (serve_create_of_none hf)
  | some found => exact .inl ⟨_, serve_create_of_some hf⟩

/-- An object is replaced, or its replacement is refused without any effect. -/
theorem serve_update_cases (object : K) (s : MemoryStore K) :
    (∃ e, serve (.update object) s = (.error e, s)) ∨ serve (.update object) s =
      (.ok (Resource.withVersion object (s.version + 1)),
        s.put (Resource.anyName object) object) := by
  cases hf : s.objects.get? (Resource.anyName object) with
  | none => exact .inl ⟨_, serve_update_of_none hf⟩
  | some found =>
    cases hc : isCurrent object found with
    | true => exact .inr (serve_update_of_current hf hc)
    | false => exact .inl ⟨_, serve_update_of_stale hf hc⟩

/-- A call that, when it is served, fails without any effect or takes effect. -/
theorem Answers.write_cases {c : StoreCall K} {P : MemoryStore K → Prop}
    (hserve : ((serve c s).2 = s ∧ ∃ e, (serve c s).1 = StoreCall.fail e c) ∨ P (serve c s).2)
    {answer : c.Answer} (h : s.Answers c answer s') :
    (s' = s ∧ ∃ e, answer = StoreCall.fail e c) ∨ P s' := by
  rcases h with ⟨rfl, rfl⟩ | ⟨e, rfl, rfl | rfl⟩
  · exact hserve
  · exact .inl ⟨rfl, e, rfl⟩
  · exact hserve.imp_left fun h => ⟨h.1, e, rfl⟩

theorem Answers.get {r : Except Error (Option K)} (h : s.Answers (.get name) r s') :
    s' = s ∧ ∀ found, r = .ok found → found = s.objects.get? name := by
  rcases h with ⟨rfl, rfl⟩ | ⟨e, rfl, rfl | rfl⟩
  · exact ⟨rfl, fun found h => (Except.ok.inj h).symm⟩
  · exact ⟨rfl, fun found h => by cases h⟩
  · exact ⟨rfl, fun found h => by cases h⟩

theorem Answers.create {r : Except Error K} (h : s.Answers (.create object) r s') :
    (s' = s ∧ ∃ e, r = .error e) ∨ Written object s s' := by
  refine h.write_cases ?_
  rcases serve_create_cases object s with ⟨e, hserve⟩ | hserve <;> rw [hserve]
  · exact .inl ⟨rfl, e, rfl⟩
  · exact .inr ⟨_, rfl⟩

theorem Answers.update {r : Except Error K} (h : s.Answers (.update object) r s') :
    (s' = s ∧ ∃ e, r = .error e) ∨ Written object s s' := by
  refine h.write_cases ?_
  rcases serve_update_cases object s with ⟨e, hserve⟩ | hserve <;> rw [hserve]
  · exact .inl ⟨rfl, e, rfl⟩
  · exact .inr ⟨_, rfl⟩

theorem Answers.delete {r : Except Error Bool} (h : s.Answers (.delete name) r s') :
    (s' = s ∧ ∃ e, r = .error e) ∨ s'.objects = s.objects.erase name :=
  h.write_cases (P := fun s' => s'.objects = s.objects.erase name) (.inr rfl)

end MemoryStore

/-! ## Pieces of work -/

namespace Store

open MemoryStore Pass

variable {s s' : MemoryStore K} {object : K} {name : String}

theorem exec_get {r : Except Error (Option K)} (h : Exec unreliable (get name) s r s') :
    s' = s ∧ ∀ found, r = .ok found → found = s.objects.get? name :=
  (Script.exec_call.1 h).get

theorem exec_create {r : Except Error K} (h : Exec unreliable (create object) s r s') :
    (s' = s ∧ ∃ e, r = .error e) ∨ Written object s s' :=
  (Script.exec_call.1 h).create

theorem exec_update {r : Except Error K} (h : Exec unreliable (update object) s r s') :
    (s' = s ∧ ∃ e, r = .error e) ∨ Written object s s' :=
  (Script.exec_call.1 h).update

theorem exec_delete {r : Except Error Bool}
    (h : Exec unreliable (delete (K := K) name) s r s') :
    (s' = s ∧ ∃ e, r = .error e) ∨ s'.objects = s.objects.erase name :=
  (Script.exec_call.1 h).delete

/-- A write whose answer is of no account. -/
theorem exec_write {α : Type} {write : Pass (store K) K} {a : α} {r : Except Error α}
    (hw : ∀ {r : Except Error K}, Exec unreliable write s r s' →
      (s' = s ∧ ∃ e, r = .error e) ∨ Written object s s')
    (h : Exec unreliable (write >>= fun _ => pure a) s r s') :
    (s' = s ∧ ∃ e, r = .error e) ∨ Written object s s' := by
  obtain ⟨written, v, hv, h⟩ := exec_bind.1 h
  rcases written with e | written
  · obtain ⟨rfl, rfl⟩ := h
    exact (hw hv).imp_left fun h => ⟨h.1, e, rfl⟩
  · obtain ⟨-, rfl⟩ := exec_pure.1 h
    rcases hw hv with ⟨-, e, he⟩ | hv
    · cases he
    · exact .inr hv

theorem exec_addFinalizer {r : Except Error Bool}
    (h : Exec unreliable (addFinalizer object) s r s') :
    s' = s ∨ Written (Resource.mapMetadata (·.addFinalizer) object) s s' := by
  unfold addFinalizer at h
  dsimp only at h
  split at h
  · exact .inl (exec_pure.1 h).2
  · exact (exec_write exec_update h).imp_left And.left

/-- A changed object that keeps its name is what the rest of the work is about. -/
theorem exec_changed {α : Type} {base : K} {change : K → Except Error K}
    {rest : K → Pass (store K) α} {r : Except Error α}
    (h : Exec unreliable (do
      let changed ← Pass.ofExcept (change base)
      Pass.ofExcept (checkName name changed)
      rest changed) s r s') :
    (s' = s ∧ ∃ e, r = .error e) ∨ ∃ changed, change base = .ok changed ∧
      Resource.anyName changed = name ∧ Exec unreliable (rest changed) s r s' := by
  rcases exec_ofExcept_bind h with h | ⟨changed, hchanged, h⟩
  · exact .inl h
  · rcases exec_ofExcept_bind h with h | ⟨_, hname, h⟩
    · exact .inl h
    · refine .inr ⟨changed, hchanged, ?_, h⟩
      unfold checkName at hname
      split at hname
      · assumption
      · cases hname

/-- What becomes of an object that is to be brought in line: it is written as the change makes it,
if that makes a difference, or nothing is, in which case the work fails unless the change makes no
difference. -/
theorem exec_apply {template : K} {change : K → Except Error K} {r : Except Error Applied}
    (h : Exec unreliable (apply template change) s r s') :
    (s' = s ∧ ((∃ e, r = .error e) ∨
      ∃ found changed, s.objects.get? (Resource.anyName template) = some found ∧
        change found = .ok changed ∧ Resource.toJson changed = Resource.toJson found)) ∨
      ∃ changed, change ((s.objects.get? (Resource.anyName template)).getD template) = .ok changed ∧
        (∀ found, s.objects.get? (Resource.anyName template) = some found →
          Resource.toJson changed ≠ Resource.toJson found) ∧
        Resource.anyName changed = Resource.anyName template ∧ Written changed s s' := by
  obtain ⟨found, v, hget, h⟩ := exec_bind.1 h
  obtain ⟨rfl, hfound⟩ := exec_get hget
  rcases found with e | found
  · exact .inl ⟨h.2, .inl ⟨e, h.1⟩⟩
  rw [← hfound _ rfl]
  rcases found with _ | found
  · rcases exec_changed h with ⟨h, he⟩ | ⟨made, hmade, hname, h⟩
    · exact .inl ⟨h, .inl he⟩
    · rcases exec_write exec_create h with ⟨h, he⟩ | h
      · exact .inl ⟨h, .inl he⟩
      · exact .inr ⟨made, hmade, nofun, hname, h⟩
  · rcases exec_changed h with ⟨h, he⟩ | ⟨changed, hchanged, hname, h⟩
    · exact .inl ⟨h, .inl he⟩
    · split at h
      · rename_i hsame
        exact .inl ⟨(exec_pure.1 h).2, .inr ⟨found, changed, rfl, hchanged, hsame⟩⟩
      · rename_i hdiffers
        rcases exec_write exec_update h with ⟨h, he⟩ | h
        · exact .inl ⟨h, .inl he⟩
        · refine .inr ⟨changed, hchanged, fun other hother => ?_, hname, h⟩
          rwa [← Option.some.inj hother]

/-! ## Other objects -/

/-- Bringing an object in line leaves all others alone. -/
theorem keeps_apply {template : K} {change : K → Except Error K}
    (hn : name ≠ Resource.anyName template) :
    Keeps unreliable (fun s => s.objects.get? name) (apply template change) := by
  intro s r s' h
  rcases exec_apply h with ⟨rfl, -⟩ | ⟨changed, -, -, hname, hw⟩
  · rfl
  · exact hw.get?_of_ne (by rwa [hname])

theorem keeps_delete {other : String} (hn : name ≠ other) :
    Keeps unreliable (fun s => s.objects.get? name) (delete (K := K) other) := by
  intro s r s' h
  rcases exec_delete h with ⟨rfl, -⟩ | h
  · rfl
  · dsimp only
    rw [h, Table.get?_erase_of_ne hn]

/-! ## Work that succeeds -/

theorem exec_get_self (s : MemoryStore K) (name : String) :
    Exec unreliable (get name) s (.ok (s.objects.get? name)) s :=
  Script.exec_call.2 (.inl ⟨rfl, rfl⟩)

theorem exec_create_of_none (h : s.objects.get? (Resource.anyName object) = none) :
    Exec unreliable (create object) s (.ok (Resource.withVersion object (s.version + 1)))
      (s.put (Resource.anyName object) object) := by
  refine Script.exec_call.2 (.inl ?_)
  rw [serve_create_of_none h]
  exact ⟨rfl, rfl⟩

theorem exec_delete_self (s : MemoryStore K) (name : String) :
    Exec unreliable (delete (K := K) name) s (.ok (s.objects.contains name))
      { s with objects := s.objects.erase name } :=
  Script.exec_call.2 (.inl ⟨rfl, rfl⟩)

/-- An object that is not there is created. -/
theorem exec_apply_of_none {template made : K} (change : K → Except Error K)
    (habsent : s.objects.get? (Resource.anyName template) = none)
    (hmade : change template = .ok made)
    (hname : Resource.anyName made = Resource.anyName template) :
    Exec unreliable (apply template change) s (.ok .created)
      (s.put (Resource.anyName template) made) := by
  have hget := exec_get_self s (Resource.anyName template)
  rw [habsent] at hget
  refine exec_bind.2 ⟨_, s, hget, exec_bind.2 ⟨.ok made, s, exec_ofExcept.2 ⟨hmade.symm, rfl⟩, ?_⟩⟩
  refine exec_bind.2 ⟨.ok (), s, exec_ofExcept.2 ⟨(if_pos hname).symm, rfl⟩, ?_⟩
  have hcreate : Exec unreliable (create made) s _ _ := exec_create_of_none (by rwa [hname])
  rw [hname] at hcreate
  exact exec_bind.2 ⟨_, _, hcreate, exec_pure.2 ⟨rfl, rfl⟩⟩

end Store

end GridOperator
