import GridOperator.Proofs.Store.Versions
import GridOperator.Proofs.Table

/-!
# What work is to make of the objects of a store

A `Goal` says what is to become of the object under a name: it is brought in line,
or removed, or left alone. Work that has stopped somewhere has reached some of its
goals and has left all other objects as they were. A goal that is reached stays
reached, so work that is begun anew comes to the same objects, up to their versions.
-/

namespace GridOperator

open Kubernetes

/-- A kind of objects where only the metadata that is set last counts. -/
class OverwritableResource (K : Type) [Resource K] : Prop extends LawfulResource K where
  withMetadata_withMetadata (object : K) (m m' : ObjectMeta) :
    Resource.withMetadata (Resource.withMetadata object m) m' = Resource.withMetadata object m'

instance : OverwritableResource Cluster := ⟨fun _ _ _ => rfl⟩
instance : OverwritableResource ConfigMap := ⟨fun _ _ _ => rfl⟩
instance : OverwritableResource ClusterRole := ⟨fun _ _ _ => rfl⟩
instance : OverwritableResource ClusterRoleBinding := ⟨fun _ _ _ => rfl⟩
instance : OverwritableResource ServiceAccount := ⟨fun _ _ _ => rfl⟩
instance : OverwritableResource Service := ⟨fun _ _ _ => rfl⟩
instance : OverwritableResource StatefulSet := ⟨fun _ _ _ => rfl⟩

/-! ## Contents -/

namespace Kubernetes.Resource

variable {K : Type} [Resource K]

/-- What an object says besides its version. -/
def unversioned (object : K) : K :=
  mapMetadata (fun m => { m with resourceVersion := none }) object

@[simp] theorem unversioned_withVersion [OverwritableResource K] (object : K) (version : Nat) :
    unversioned (withVersion object version) = unversioned object := by
  unfold unversioned withVersion mapMetadata
  rw [LawfulResource.metadata_withMetadata, OverwritableResource.withMetadata_withMetadata]

end Kubernetes.Resource

namespace MemoryStore

variable {K : Type} [Resource K]

/-- What is stored under a name, without its version. -/
def content (s : MemoryStore K) (name : String) : Option K :=
  (s.objects.get? name).map Resource.unversioned

/-- Whether two stores hold the same objects, up to versions. -/
def SameContent (s t : MemoryStore K) : Prop := ∀ name, s.content name = t.content name

variable {s t u : MemoryStore K}

theorem SameContent.refl (s : MemoryStore K) : s.SameContent s := fun _ => rfl

theorem SameContent.symm (h : s.SameContent t) : t.SameContent s := fun name => (h name).symm

theorem SameContent.trans (h : s.SameContent t) (h' : t.SameContent u) : s.SameContent u :=
  fun name => (h name).trans (h' name)

/-- An object that is stored anew leaves the contents as they are. -/
theorem sameContent_put [OverwritableResource K] {name : String} {object : K}
    (h : s.objects.get? name = some object) : (s.put name object).SameContent s := fun other => by
  unfold content
  by_cases hother : other = name
  · subst hother
    rw [get?_put_self, h, Option.map_some, Option.map_some, Resource.unversioned_withVersion]
  · rw [get?_put_of_ne hother]

end MemoryStore

/-! ## Goals -/

/-- What is to become of the object under a name. -/
inductive Goal (K : Type) where
  | leave
  | remove
  /-- The object is changed, or what the change makes of the template is made where there is
  none. -/
  | bring (template : K) (change : K → Except Error K)

namespace Goal

variable {K : Type} [Resource K]

/-- Whether `after` is what was to become of `before`. An object that the change makes no difference
to is not written, any other one gets a new version. -/
def Met : Goal K → Option K → Option K → Prop
  | leave, before, after => after = before
  | remove, _, after => after = none
  | bring template change, before, after => ∃ changed, change (before.getD template) = .ok changed ∧
    if before.any fun found => Resource.toJson changed = Resource.toJson found then after = before
    else ∃ version, after = some (Resource.withVersion changed version)

/-- Whether nothing is left to do about an object. -/
def Reached : Goal K → Option K → Prop
  | leave, _ => True
  | remove, object => object = none
  | bring _ change, object => ∃ found changed, object = some found ∧ change found = .ok changed ∧
    Resource.toJson changed = Resource.toJson found

/-- Whether the change makes no difference to what it has made, as any version. -/
def Lasting : Goal K → Prop
  | leave | remove => True
  | bring _ change => ∀ object changed version, change object = .ok changed →
    change (Resource.withVersion changed version) = .ok (Resource.withVersion changed version)

/-- To bring an object in line, under its own name. -/
def inLine (template : K) (change : K → Except Error K) : String × Goal K :=
  (Resource.anyName template, bring template change)

/-- What a change does a second time makes no difference, if the change does not look at
versions. -/
theorem lasting_bring {change : K → K} (template : K)
    (hversion : ∀ object version,
      change (Resource.withVersion object version) = Resource.withVersion (change object) version)
    (hchange : ∀ object, change (change object) = change object) :
    (bring template fun found => .ok (change found)).Lasting := by
  rintro object _ version ⟨⟩
  exact congrArg Except.ok (by rw [hversion, hchange])

variable {g : Goal K} {a b c : Option K}

theorem Met.reached (h : g.Met a b) (hg : g.Lasting) : g.Reached b := by
  cases g with
  | leave => trivial
  | remove => exact h
  | bring template change =>
    obtain ⟨changed, hchanged, h⟩ := h
    split at h
    · rename_i hsame
      subst h
      obtain ⟨found, rfl, hsame⟩ := (Option.any_eq_true _ _).1 hsame
      exact ⟨found, changed, rfl, hchanged, by simpa using hsame⟩
    · obtain ⟨version, rfl⟩ := h
      exact ⟨_, _, rfl, hg _ _ version hchanged, rfl⟩

theorem Met.isSome {template : K} {change : K → Except Error K}
    (h : (bring template change).Met a b) : b.isSome := by
  obtain ⟨changed, -, h⟩ := h
  split at h
  · rename_i hsame
    obtain ⟨found, rfl, -⟩ := (Option.any_eq_true _ _).1 hsame
    exact h ▸ rfl
  · obtain ⟨version, rfl⟩ := h
    rfl

/-- A goal that is reached does not change anything. -/
theorem Met.eq_of_reached (h : g.Met b c) (hb : g.Reached b) : c = b := by
  cases g with
  | leave => exact h
  | remove => exact h.trans hb.symm
  | bring template change =>
    obtain ⟨found, changed, rfl, hchanged, hsame⟩ := hb
    obtain ⟨again, hagain, h⟩ := h
    obtain rfl := Except.ok.inj (hchanged.symm.trans hagain)
    rwa [Option.any_some, if_pos (by simpa using hsame)] at h

/-- What a goal makes of an object is determined up to the version. -/
theorem Met.unversioned_eq [OverwritableResource K] (h : g.Met a b) (h' : g.Met a c) :
    b.map Resource.unversioned = c.map Resource.unversioned := by
  cases g with
  | leave => rw [h, h']
  | remove => rw [h, h']
  | bring template change =>
    obtain ⟨changed, hchanged, h⟩ := h
    obtain ⟨again, hagain, h'⟩ := h'
    obtain rfl := Except.ok.inj (hchanged.symm.trans hagain)
    split at h
    · rename_i hsame
      rw [if_pos hsame] at h'
      rw [h, h']
    · rename_i hdiffers
      rw [if_neg hdiffers] at h'
      obtain ⟨version, rfl⟩ := h
      obtain ⟨version', rfl⟩ := h'
      simp

/-- Work that is begun anew reaches the goal that it would have reached at once. -/
theorem Met.resumed [OverwritableResource K] {b' : Option K} (hg : g.Lasting) (h : g.Met a b)
    (hpart : b' = a ∨ g.Met a b') (h' : g.Met b' c) :
    c.map Resource.unversioned = b.map Resource.unversioned := by
  rcases hpart with rfl | hpart
  · exact h'.unversioned_eq h
  · rw [h'.eq_of_reached (hpart.reached hg)]
    exact hpart.unversioned_eq h

/-- The goal for a name, which is to leave the object alone unless the list has another one. -/
def of (goals : List (String × Goal K)) (name : String) : Goal K := (goals.lookup name).getD .leave

variable {goals goals' : List (String × Goal K)} {name : String}

omit [Resource K] in
theorem of_singleton (key : String) (g : Goal K) (name : String) :
    of [(key, g)] name = if name = key then g else .leave := by
  unfold of
  by_cases h : name = key
  · simp [h]
  · have hne : (name == key) = false := by simpa using h
    simp [List.lookup_cons, hne, h]

omit [Resource K] in
theorem of_eq_leave (h : name ∉ goals.map (·.1)) : of goals name = .leave := by
  unfold of
  rw [Table.lookup_eq_none h]
  rfl

omit [Resource K] in
theorem of_append (h : name ∉ goals.map (·.1)) : of (goals ++ goals') name = of goals' name := by
  unfold of
  rw [List.lookup_append, Table.lookup_eq_none h]
  rfl

omit [Resource K] in
theorem of_append_of_mem (h : name ∈ goals.map (·.1)) :
    of (goals ++ goals') name = of goals name := by
  unfold of
  obtain ⟨m, hm, rfl⟩ := List.mem_map.1 h
  have hsome : (goals.lookup m.1).isSome :=
    List.lookup_isSome_iff.2 ⟨m, hm, beq_self_eq_true _⟩
  rw [List.lookup_append, Option.or_of_isSome hsome]

omit [Resource K] in
theorem of_prefix (h : goals <+: goals') (hname : name ∈ goals.map (·.1)) :
    of goals name = of goals' name := by
  obtain ⟨rest, rfl⟩ := h
  exact (of_append_of_mem hname).symm

omit [Resource K] in
/-- Where no name has two goals, each goal is the one for its name. -/
theorem of_mem (hnodup : (goals.map (·.1)).Nodup) {g : String × Goal K} (h : g ∈ goals) :
    of goals g.1 = g.2 := by
  obtain ⟨l₁, l₂, rfl⟩ := List.append_of_mem h
  have hfirst : g.1 ∉ l₁.map (·.1) := fun hmem => by
    rw [List.map_append, List.nodup_append] at hnodup
    exact hnodup.2.2 g.1 hmem g.1 (by simp) rfl
  rw [of_append hfirst, of, List.lookup_cons_self, Option.getD_some]

theorem lasting_of (h : ∀ g ∈ goals, g.2.Lasting) (name : String) : (of goals name).Lasting := by
  unfold of
  cases hg : goals.lookup name with
  | none => trivial
  | some g =>
    obtain ⟨l₁, l₂, rfl, -⟩ := List.lookup_eq_some_iff.1 hg
    exact h (name, g) (by simp)

end Goal

/-! ## Work on many objects -/

namespace MemoryStore

variable {K : Type} [Resource K] {goals goals' : List (String × Goal K)} {s t u s' : MemoryStore K}

/-- Whether some goals are met and all other objects are as they were. -/
def Partly (goals : List (String × Goal K)) (s t : MemoryStore K) : Prop :=
  ∀ name, t.objects.get? name = s.objects.get? name ∨
    (Goal.of goals name).Met (s.objects.get? name) (t.objects.get? name)

/-- Whether all goals are met. -/
def Wholly (goals : List (String × Goal K)) (s t : MemoryStore K) : Prop :=
  ∀ name, (Goal.of goals name).Met (s.objects.get? name) (t.objects.get? name)

/-- Whether nothing is left to do. -/
def Settled (goals : List (String × Goal K)) (s : MemoryStore K) : Prop :=
  ∀ name, (Goal.of goals name).Reached (s.objects.get? name)

theorem Wholly.partly (h : Wholly goals s t) : Partly goals s t := fun name => .inr (h name)

theorem partly_refl (goals : List (String × Goal K)) (s : MemoryStore K) : Partly goals s s :=
  fun _ => .inl rfl

theorem wholly_nil (s : MemoryStore K) : Wholly [] s s := fun _ => rfl

theorem wholly_singleton {key : String} {g : Goal K}
    (hkey : g.Met (s.objects.get? key) (t.objects.get? key))
    (hothers : ∀ name ≠ key, t.objects.get? name = s.objects.get? name) :
    Wholly [(key, g)] s t := fun name => by
  rw [Goal.of_singleton]
  split
  · rename_i hname
    exact hname ▸ hkey
  · rename_i hname
    exact hothers name hname

theorem Partly.eq_of_notMem (h : Partly goals s t) {name : String} (hn : name ∉ goals.map (·.1)) :
    t.objects.get? name = s.objects.get? name := by
  rcases h name with h | h
  · exact h
  · rwa [Goal.of_eq_leave hn] at h

/-- Goals for some objects are met, and then goals for others. -/
theorem Wholly.append (h : Wholly goals s t) (h' : Wholly goals' t u)
    (hdisjoint : ∀ name ∈ goals.map (·.1), name ∉ goals'.map (·.1)) :
    Wholly (goals ++ goals') s u := fun name => by
  by_cases hname : name ∈ goals.map (·.1)
  · rw [Goal.of_append_of_mem hname, h'.partly.eq_of_notMem (hdisjoint name hname)]
    exact h name
  · rw [Goal.of_append hname, ← h.partly.eq_of_notMem hname]
    exact h' name

/-! ### Goals that are taken one after the other -/

/-- Whether the first goals of a list are met, and all of them where the work has succeeded. -/
def Pursued {α : Type} (goals : List (String × Goal K)) (r : Except Error α)
    (s t : MemoryStore K) : Prop :=
  ∃ met, met <+: goals ∧ Wholly met s t ∧ ∀ a, r = .ok a → met = goals

variable {α β : Type} {r : Except Error α}

theorem pursued_self (h : r.isOk = false) (s : MemoryStore K) : Pursued goals r s s :=
  ⟨[], List.nil_prefix, wholly_nil s, fun a ha => by rw [ha] at h; cases h⟩

theorem Wholly.pursued (h : Wholly goals s t) (r : Except Error α) : Pursued goals r s t :=
  ⟨goals, List.prefix_rfl, h, fun _ _ => rfl⟩

theorem Pursued.partly (h : Pursued goals r s t) : Partly goals s t := fun name => by
  obtain ⟨met, hfirst, hmet, -⟩ := h
  by_cases hname : name ∈ met.map (·.1)
  · rw [← Goal.of_prefix hfirst hname]
    exact .inr (hmet name)
  · exact .inl (hmet.partly.eq_of_notMem hname)

theorem Pursued.wholly {a : α} (h : Pursued goals (.ok a) s t) : Wholly goals s t := by
  obtain ⟨met, -, hmet, hall⟩ := h
  exact hall a rfl ▸ hmet

/-- Work that stops at its first goals has not come to any others. -/
theorem Pursued.stopped {e : Error} (h : Pursued goals r s t) (goals' : List (String × Goal K)) :
    Pursued (goals ++ goals') (.error e : Except Error β) s t := by
  obtain ⟨met, hfirst, hmet, -⟩ := h
  exact ⟨met, hfirst.trans (List.prefix_append _ _), hmet, nofun⟩

theorem Wholly.pursuing (h : Wholly goals s t) (h' : Pursued goals' r t u)
    (hdisjoint : ∀ name ∈ goals.map (·.1), name ∉ goals'.map (·.1)) :
    Pursued (goals ++ goals') r s u := by
  obtain ⟨met, hfirst, hmet, hall⟩ := h'
  refine ⟨goals ++ met, (List.prefix_append_right_inj _).2 hfirst,
    h.append hmet fun name hname hmem =>
      hdisjoint name hname ((hfirst.map (·.1)).subset hmem), fun a ha => by rw [hall a ha]⟩

/-! ### What is left to do -/

theorem Wholly.settled (h : Wholly goals s t) (hlasting : ∀ g ∈ goals, g.2.Lasting) :
    Settled goals t := fun name => (h name).reached (Goal.lasting_of hlasting name)

/-- Where no name has two goals, each of them is met at its name. -/
theorem Wholly.met (h : Wholly goals s t) (hnodup : (goals.map (·.1)).Nodup)
    {g : String × Goal K} (hg : g ∈ goals) : g.2.Met (s.objects.get? g.1) (t.objects.get? g.1) :=
  Goal.of_mem hnodup hg ▸ h g.1

theorem Settled.reached (h : Settled goals s) (hnodup : (goals.map (·.1)).Nodup)
    {g : String × Goal K} (hg : g ∈ goals) : g.2.Reached (s.objects.get? g.1) :=
  Goal.of_mem hnodup hg ▸ h g.1

/-- Nothing is left to do for some of the goals where nothing is for all of them. -/
theorem Settled.left (h : Settled (goals ++ goals') s) : Settled goals s := fun name => by
  by_cases hname : name ∈ goals.map (·.1)
  · rw [← Goal.of_append_of_mem hname]
    exact h name
  · rw [Goal.of_eq_leave hname]
    trivial

theorem Partly.eq_of_settled (h : Partly goals s t) (hs : Settled goals s) (name : String) :
    t.objects.get? name = s.objects.get? name := by
  rcases h name with h | h
  · exact h
  · exact h.eq_of_reached (hs name)

/-- Work that has stopped somewhere and is begun anew comes to the same objects as at once. -/
theorem Wholly.resumed [OverwritableResource K] (hlasting : ∀ g ∈ goals, g.2.Lasting)
    (h : Wholly goals s t) (hpart : Partly goals s s') (h' : Wholly goals s' u) :
    u.SameContent t := fun name =>
  (h name).resumed (Goal.lasting_of hlasting name) (hpart name) (h' name)

end MemoryStore

/-! ## Pieces of work -/

namespace Store

open MemoryStore Pass

variable {K : Type} [Resource K] {s s' : MemoryStore K} {template : K}
  {change : K → Except Error K}

/-- Bringing an object in line meets the goal or leaves the store alone, and does the former where
it succeeds. -/
theorem exec_apply_goal {r : Except Error Applied}
    (h : Exec unreliable (apply template change) s r s') :
    Pursued [Goal.inLine template change] r s s' := by
  rcases exec_apply h with
    ⟨rfl, ⟨e, rfl⟩ | ⟨found, changed, hfound, hchanged, hsame⟩⟩ |
    ⟨changed, hchanged, hdiffers, hname, hw⟩
  · exact pursued_self rfl _
  · refine (wholly_singleton ?_ fun _ _ => rfl).pursued r
    rw [hfound]
    exact ⟨changed, hchanged, by rw [Option.any_some, if_pos (by simpa using hsame)]⟩
  · refine (wholly_singleton ?_ fun name hn => ?_).pursued r
    · refine ⟨changed, hchanged, ?_⟩
      obtain ⟨version, hself⟩ := hw.get?_self
      rw [← hname, hself, if_neg]
      · exact ⟨version, rfl⟩
      · intro hany
        obtain ⟨found, hfound, hsame⟩ := (Option.any_eq_true _ _).1 hany
        exact hdiffers found (hname ▸ hfound) (by simpa using hsame)
    · exact hw.get?_of_ne (by rwa [hname])

theorem exec_delete_goal {name : String} {r : Except Error Bool}
    (h : Exec unreliable (delete (K := K) name) s r s') : Pursued [(name, .remove)] r s s' := by
  rcases exec_delete h with ⟨rfl, e, rfl⟩ | hobjects
  · exact pursued_self rfl _
  · refine (wholly_singleton ?_ fun other hother => ?_).pursued r
    · rw [hobjects]
      exact Table.get?_erase_self _ _
    · rw [hobjects]
      exact Table.get?_erase_of_ne hother _

end Store

end GridOperator
