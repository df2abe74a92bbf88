import GridOperator.Proofs.Reconcile.World

/-!
# What a pass does to the services of members

The services of members are brought in line one after the other, and those that
the note on the stateful set reaches beyond them are removed one after the other,
until a call fails. `exec_applyServices` says which are there afterwards.
-/

namespace GridOperator

open Kubernetes Pass
open MemoryStore (Pursued Wholly)

namespace Cluster

variable {c : Cluster} {stale : List Nat}

/-- Of the services of members, the first goals concern those of the first members, and some of
those left over. -/
theorem exists_indices_of_prefix {met : List (String × Goal Service)}
    (h : met <+: c.serviceGoals stale) : ∃ made ≤ c.perPodCount, ∃ removed ⊆ stale,
      ∀ i, c.podName i ∈ met.map (·.1) ↔ i < made ∨ i ∈ removed := by
  have hnames := List.prefix_iff_eq_take.1 (h.map (·.1))
  rw [names_serviceGoals] at hnames
  cases hlength : (met.map (·.1)).length with
  | zero =>
    refine ⟨0, Nat.zero_le _, [], List.nil_subset _, fun i => ?_⟩
    rw [hnames, hlength]
    simp
  | succ k =>
    refine ⟨min k c.perPodCount, Nat.min_le_right _ _, stale.take (k - c.perPodCount),
      List.take_subset _ _, fun i => ?_⟩
    rw [hnames, hlength, List.take_succ_cons, List.mem_cons, or_iff_right (c.podName_ne_name i),
      ← List.map_take, List.mem_map_of_injective c.podName_injective, List.take_append,
      List.mem_append, List.take_range, List.mem_range, List.length_range]

/-- A first part of the goals makes the services of the first members, and removes some of those
left over. -/
theorem contains_iff_of_met {met : List (String × Goal Service)} {made : Nat} {removed : List Nat}
    (hnodup : stale.Nodup) (hstale : ∀ i ∈ stale, c.perPodCount ≤ i)
    (hfirst : met <+: c.serviceGoals stale) (hmade : made ≤ c.perPodCount)
    (hremoved : removed ⊆ stale)
    (hnames : ∀ i, c.podName i ∈ met.map (·.1) ↔ i < made ∨ i ∈ removed)
    {s t : MemoryStore Service} (hmet : Wholly met s t) (i : Nat) :
    t.objects.contains (c.podName i) ↔
      (s.objects.contains (c.podName i) ∨ i < made) ∧ i ∉ removed := by
  have hin := hnames i
  have hgoal {g : Goal Service} (hin : c.podName i ∈ met.map (·.1))
      (hg : (c.podName i, g) ∈ c.serviceGoals stale) :
      g.Met (s.objects.get? (c.podName i)) (t.objects.get? (c.podName i)) := by
    have hmet := hmet (c.podName i)
    rwa [Goal.of_prefix hfirst hin, Goal.of_mem (nodup_serviceGoals hnodup hstale) hg] at hmet
  unfold Table.contains
  by_cases hi : i < made
  · have hlt : i < c.perPodServices.length :=
      c.length_perPodServices ▸ Nat.lt_of_lt_of_le hi hmade
    have hthere := (hgoal (hin.2 (.inl hi))
      (inLine_mem_serviceGoals (List.getElem?_eq_getElem hlt) stale)).isSome
    have hkept : i ∉ removed := fun hr => by
      have := hstale i (hremoved hr)
      omega
    exact iff_of_true hthere ⟨.inr hi, hkept⟩
  · by_cases hr : i ∈ removed
    · have hgone : t.objects.get? (c.podName i) = none :=
        hgoal (hin.2 (.inr hr)) (remove_mem_serviceGoals (hremoved hr))
      rw [hgone]
      exact iff_of_false Bool.false_ne_true fun h => h.2 hr
    · rw [hmet.partly.eq_of_notMem fun h => (hin.1 h).elim hi hr]
      simp only [hi, hr, or_false, not_false_eq_true, and_true]

/-- All goals together concern the services of all members, and all that are left over. -/
theorem all_of_indices {made : Nat} {removed : List Nat} (hstale : ∀ i ∈ stale, c.perPodCount ≤ i)
    (hmade : made ≤ c.perPodCount) (hremoved : removed ⊆ stale)
    (hnames : ∀ i, c.podName i ∈ (c.serviceGoals stale).map (·.1) ↔ i < made ∨ i ∈ removed) :
    made = c.perPodCount ∧ stale ⊆ removed := by
  have hin : ∀ i, i < made ∨ i ∈ removed ↔ i < c.perPodCount ∨ i ∈ stale := fun i => by
    rw [← hnames, names_serviceGoals, List.mem_cons, or_iff_right (c.podName_ne_name i),
      List.mem_map_of_injective c.podName_injective, List.mem_append, List.mem_range]
  constructor
  · by_contra hne
    have hlt : made < c.perPodCount := Nat.lt_of_le_of_ne hmade hne
    rcases (hin made).2 (.inl hlt) with h | h
    · exact Nat.lt_irrefl _ h
    · exact Nat.not_le.2 hlt (hstale _ (hremoved h))
  · intro i hi
    refine ((hin i).2 (.inr hi)).resolve_left fun h => ?_
    have := hstale i hi
    omega

/-- Goals that are pursued one after the other make the services of the first members, and then
remove some of those left over. -/
theorem exists_made_of_pursued {α : Type} (hnodup : stale.Nodup)
    (hstale : ∀ i ∈ stale, c.perPodCount ≤ i) {r : Except Error α} {s t : MemoryStore Service}
    (h : Pursued (c.serviceGoals stale) r s t) :
    ∃ made ≤ c.perPodCount, ∃ removed ⊆ stale,
      (∀ i, t.objects.contains (c.podName i) ↔
        (s.objects.contains (c.podName i) ∨ i < made) ∧ i ∉ removed) ∧
      ∀ a, r = .ok a → made = c.perPodCount ∧ stale ⊆ removed := by
  obtain ⟨met, hfirst, hmet, hall⟩ := h
  obtain ⟨made, hmade, removed, hremoved, hnames⟩ := exists_indices_of_prefix hfirst
  refine ⟨made, hmade, removed, hremoved,
    contains_iff_of_met hnodup hstale hfirst hmade hremoved hnames hmet, fun a ha => ?_⟩
  obtain rfl := hall a ha
  exact all_of_indices hstale hmade hremoved hnames

end Cluster

namespace ClusterWorld

variable {w w' : ClusterWorld}

/-- Whether the service of a member of the cluster is there. -/
def Has (w : ClusterWorld) (name : String) (i : Nat) : Prop :=
  w.services.objects.contains (name ++ "-" ++ toString i)

/-- How many services of members the stateful set of the cluster tells of. -/
def note (w : ClusterWorld) (name : String) : Nat :=
  (((w.statefulSets.objects.get? name).bind Topology.ofStatefulSet?).getD
    {}).perPodCount.toInt.toNat

end ClusterWorld

/-- What a pass has done to the services of members when it ends. -/
structure PassRecord where
  /-- How many services of members the cluster should have. -/
  count : Nat
  /-- How many of them the pass has brought in line. -/
  made : Nat := 0
  /-- Which ones it has removed. -/
  removed : List Nat := []
  /-- Whether the stateful set tells of `count` services since. -/
  noted : Bool := false

namespace ClusterWorld

/-- A pass comes to the services beyond its own after its own, removes those that the note tells
of, and comes to the note after all services. -/
structure Brought (name : String) (p : PassRecord) (w w' : ClusterWorld) : Prop where
  made_le : p.made ≤ p.count
  stale : ∀ i ∈ p.removed, p.count ≤ i ∧ i < w.note name
  has : ∀ i, w'.Has name i ↔ (w.Has name i ∨ i < p.made) ∧ i ∉ p.removed
  note_eq : w'.note name = if p.noted then p.count else w.note name
  complete : p.noted → p.made = p.count ∧ ∀ i, p.count ≤ i → i < w.note name → i ∈ p.removed

variable {w w' : ClusterWorld} {c : Cluster}

theorem note_congr {name : String} (h : w'.statefulSets = w.statefulSets) :
    w'.note name = w.note name := by
  unfold note
  rw [h]

theorem brought_of_has {name : String} {p : PassRecord} (hsets : w'.statefulSets = w.statefulSets)
    (hmade : p.made ≤ p.count) (hstale : ∀ i ∈ p.removed, p.count ≤ i ∧ i < w.note name)
    (hhas : ∀ i, w'.Has name i ↔ (w.Has name i ∨ i < p.made) ∧ i ∉ p.removed)
    (hnoted : p.noted = false) : Brought name p w w' where
  made_le := hmade
  stale := hstale
  has := hhas
  note_eq := by rw [note_congr hsets, hnoted, if_neg Bool.false_ne_true]
  complete h := by rw [hnoted] at h; cases h

theorem brought_self (name : String) (count : Nat) (w : ClusterWorld) :
    Brought name { count } w w :=
  brought_of_has rfl (Nat.zero_le _) (by simp) (by simp) rfl

theorem exec_applyServices (hname : c.metadata.name = some c.name)
    {r : Except Error (List (Option Service))} (h : Exec unreliable c.applyServices w r w') :
    w'.statefulSets = w.statefulSets ∧ ∃ p : PassRecord, p.count = c.perPodCount ∧
      Brought c.name p w w' ∧ ∀ a, r = .ok a →
        p.made = p.count ∧ ∀ i, p.count ≤ i → i < w.note c.name → i ∈ p.removed := by
  obtain ⟨services, rfl, hpursued, -⟩ := stores.exec_applyServices h
  have hstale : ∀ i, i ∈ c.stale w.statefulSets ↔ c.perPodCount ≤ i ∧ i < w.note c.name :=
    fun i => by
      have hanyName : Resource.anyName c = c.name := ObjectMeta.anyName_of_name hname
      unfold Cluster.stale
      rw [Topology.mem_staleIndices, hanyName]
      rfl
  obtain ⟨made, hmade, removed, hremoved, hhas, hall⟩ := Cluster.exists_made_of_pursued
    (c.nodup_stale _) (fun _ => Cluster.perPodCount_le_of_mem_stale) hpursued
  refine ⟨rfl, { count := c.perPodCount, made, removed }, rfl,
    brought_of_has rfl hmade (fun i hi => (hstale i).1 (hremoved hi)) hhas rfl, fun a ha => ?_⟩
  obtain ⟨hcount, hswept⟩ := hall a ha
  exact ⟨hcount, fun i hi hnote => hswept ((hstale i).2 ⟨hi, hnote⟩)⟩

end ClusterWorld

end GridOperator
