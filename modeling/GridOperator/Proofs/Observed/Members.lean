import GridOperator.Observed.Members
import GridOperator.Proofs.Text.Cutting
import Mathlib.Data.List.Forall2
import Mathlib.Data.Prod.Lex
import Mathlib.Data.String.Basic
import Mathlib.Order.WithBot

/-!
# Members and their order

A status shows the name and the address of its pod, and the first container of the
pod that is named as the member's. Ranks are in order as pairs are, bases first, so
that they are in a total order. The names of the pods of one stateful set have one
base and differ in their numbers, and this decides the order of its members whatever
the order of its pods.
-/

namespace GridOperator

open Kubernetes

/-! ## Ranks -/

namespace PodRank

/-- A rank as a pair in lexicographic order. No number is less than every number. -/
def key (r : PodRank) : String ×ₗ WithBot ℕ := toLex (r.base, r.ordinal.elim ⊥ WithBot.some)

theorem le_iff {r s : PodRank} : r.le s ↔ r.key ≤ s.key := by
  obtain ⟨base, m⟩ := r
  obtain ⟨base', n⟩ := s
  rw [key, key, Prod.Lex.toLex_le_toLex, le]
  dsimp only
  split
  · rename_i hbase
    subst hbase
    cases m <;> cases n <;> simp
  · rename_i hbase
    simp [hbase]

theorem ofName_number (base : String) {n : Nat} (h : n < UInt32.size) :
    ofName (base ++ "-" ++ toString n) = ⟨base, some n⟩ := by
  have hnumeral := Text.Numeral.toString n
  have htext : (base ++ "-" ++ toString n).toList = base.toList ++ '-' :: (toString n).toList := by
    simp
  have hlimit : n ≤ 0xffffffff := Nat.le_of_lt_succ h
  unfold ofName
  rw [htext, Text.splitOnceLast_append (hnumeral.notMem rfl)]
  dsimp only
  rw [hnumeral.readNatural_eq hlimit]
  dsimp only
  rw [String.ofList_toList]

end PodRank

/-! ## Pods -/

namespace Kubernetes.Pod

def rank (pod : Pod) : PodRank := PodRank.ofName (MemberStatus.ofPod pod).podName

/-- Whether a pod is the one of a number in a stateful set. -/
def Numbered (base : String) (n : Nat) (pod : Pod) : Prop :=
  pod.metadata.name = some (base ++ "-" ++ toString n) ∧ n < UInt32.size

variable {base : String} {n : Nat} {pod : Pod}

theorem Numbered.rank_eq (h : pod.Numbered base n) : pod.rank = ⟨base, some n⟩ := by
  have hname : (MemberStatus.ofPod pod).podName = base ++ "-" ++ toString n :=
    congrArg (Option.getD · "") h.1
  rw [rank, hname, PodRank.ofName_number base h.2]

theorem Numbered.key_le_iff {n' : Nat} {pod' : Pod} (h : pod.Numbered base n)
    (h' : pod'.Numbered base n') : pod.rank.key ≤ pod'.rank.key ↔ n ≤ n' := by
  rw [← PodRank.le_iff, h.rank_eq, h'.rank_eq, PodRank.le, if_pos rfl]
  exact decide_eq_true_iff

/-- Whether a container is the member in a pod: the first one with the member's name. -/
def HasMember (pod : Pod) (k : ContainerStatus) : Prop :=
  ∃ status before after, pod.status = some status ∧
    status.containers = some (before ++ k :: after) ∧
    k.name = Names.member ∧ ∀ other ∈ before, other.name ≠ Names.member

def member? (pod : Pod) : Option ContainerStatus :=
  pod.status.bind fun s => (s.containers.getD []).find? (·.name = Names.member)

theorem member?_eq_some_iff {k : ContainerStatus} : pod.member? = some k ↔ pod.HasMember k := by
  constructor
  · intro h
    obtain ⟨status, hstatus, hfound⟩ := Option.bind_eq_some_iff.1 h
    obtain ⟨hname, before, after, hcontainers, hbefore⟩ := List.find?_eq_some_iff_append.1 hfound
    refine ⟨status, before, after, hstatus, ?_, of_decide_eq_true hname, fun other hmem => ?_⟩
    · cases hlist : status.containers with
      | none => simp [hlist] at hcontainers
      | some containers => rw [← hcontainers, hlist, Option.getD_some]
    · simpa using hbefore other hmem
  · rintro ⟨status, before, after, hstatus, hcontainers, hname, hbefore⟩
    refine Option.bind_eq_some_iff.2 ⟨status, hstatus, ?_⟩
    rw [hcontainers, Option.getD_some]
    refine List.find?_eq_some_iff_append.2 ⟨decide_eq_true hname, before, after, rfl, ?_⟩
    exact fun other hmem => by simpa using hbefore other hmem

end Kubernetes.Pod

namespace MemberStatus

/-! ## What a status shows of a pod -/

/-- What a status shows of a pod, and of the member in it. -/
structure Shows (m : MemberStatus) (pod : Pod) : Prop where
  podName : m.podName = pod.metadata.name.getD ""
  ip : m.ip = pod.status.bind (·.podIP)
  state : m.state = none
  ready : m.ready = true ↔ ∃ k, pod.HasMember k ∧ k.ready = true
  reason : ∀ text, m.reason = some text ↔
    ∃ k waiting, pod.HasMember k ∧ k.waiting = some waiting ∧ waiting.reason = some text
  message : ∀ text, m.message = some text ↔
    ∃ k waiting, pod.HasMember k ∧ k.waiting = some waiting ∧ waiting.message = some text
  restarts : ∀ k, pod.HasMember k → m.restartCount = .ofInt k.restartCount
  noRestarts : (∀ k, ¬ pod.HasMember k) → m.restartCount = 0

theorem restartCount_ofPod (pod : Pod) :
    (ofPod pod).restartCount = .ofInt ((pod.member?.map (·.restartCount)).getD 0) := rfl

theorem shows_ofPod (pod : Pod) : (ofPod pod).Shows pod where
  podName := rfl
  ip := rfl
  state := rfl
  ready := by
    simp only [← Pod.member?_eq_some_iff]
    exact Option.any_eq_true ..
  reason text := by
    show (pod.member?.bind (·.waiting)).bind (·.reason) = some text ↔ _
    simp only [Option.bind_assoc, Option.bind_eq_some_iff, Pod.member?_eq_some_iff, exists_and_left]
  message text := by
    show (pod.member?.bind (·.waiting)).bind (·.message) = some text ↔ _
    simp only [Option.bind_assoc, Option.bind_eq_some_iff, Pod.member?_eq_some_iff, exists_and_left]
  restarts k h := by
    rw [restartCount_ofPod, Pod.member?_eq_some_iff.2 h, Option.map_some, Option.getD_some]
  noRestarts h := by
    have hnone : pod.member? = none :=
      Option.eq_none_iff_forall_ne_some.2 fun k hk => h k (Pod.member?_eq_some_iff.1 hk)
    rw [restartCount_ofPod, hnone]
    rfl

variable {pods pods' : List Pod}

/-- Pods in the order in which their members are listed. -/
def listed (pods : List Pod) : List Pod :=
  pods.mergeSort fun pod pod' => pod.rank.le pod'.rank

theorem ofPods_eq_map_listed (pods : List Pod) : ofPods pods = (listed pods).map ofPod :=
  (List.map_mergeSort (f := ofPod) fun _ _ _ _ => rfl).symm

theorem shows_ofPods (pods : List Pod) : List.Forall₂ Shows (ofPods pods) (listed pods) := by
  rw [ofPods_eq_map_listed, List.forall₂_map_left_iff, List.forall₂_same]
  exact fun pod _ => shows_ofPod pod

theorem listed_perm (pods : List Pod) : (listed pods).Perm pods := List.mergeSort_perm _ _

theorem pairwise_listed (pods : List Pod) :
    (listed pods).Pairwise fun pod pod' => pod.rank.key ≤ pod'.rank.key := by
  have hsorted : (listed pods).Pairwise fun pod pod' => pod.rank.le pod'.rank := by
    refine List.pairwise_mergeSort (fun a b c hab hbc => ?_) (fun a b => ?_) pods
    · exact PodRank.le_iff.2 ((PodRank.le_iff.1 hab).trans (PodRank.le_iff.1 hbc))
    · rw [Bool.or_eq_true, PodRank.le_iff, PodRank.le_iff]
      exact le_total _ _
  exact hsorted.imp PodRank.le_iff.1

/-- Pods whose numbers are distinct are in strict order of them. -/
theorem pairwise_ordinal {base : String} {ordinal : Pod → Nat}
    (hnumbered : ∀ pod ∈ pods, pod.Numbered base (ordinal pod))
    (hdistinct : (pods.map ordinal).Nodup) :
    (listed pods).Pairwise (ordinal · < ordinal ·) := by
  have hperm := listed_perm pods
  have hne : (listed pods).Pairwise (ordinal · ≠ ordinal ·) :=
    List.pairwise_map.1 ((hperm.map ordinal).nodup_iff.2 hdistinct)
  refine ((pairwise_listed pods).and hne).imp_of_mem fun hpod hpod' h => ?_
  have hle := ((hnumbered _ (hperm.subset hpod)).key_le_iff
    (hnumbered _ (hperm.subset hpod'))).1 h.1
  exact lt_of_le_of_ne hle h.2

/-- Each pod has one status, that shows this pod, and they are in the order of the names' ranks.
For pods with distinct numbers this is the order of the numbers, and no other order of the pods
makes it a different one. -/
theorem ofPods_sorted (pods : List Pod) :
    ∃ listed : List Pod, listed.Perm pods ∧ ofPods pods = listed.map ofPod ∧
      List.Forall₂ Shows (ofPods pods) listed ∧
      (listed.Pairwise fun pod pod' => pod.rank.key ≤ pod'.rank.key) ∧
      ∀ (base : String) (ordinal : Pod → Nat),
        (∀ pod ∈ pods, pod.Numbered base (ordinal pod)) → (pods.map ordinal).Nodup →
          listed.Pairwise (ordinal · < ordinal ·) ∧
            ∀ pods' : List Pod, pods'.Perm pods → ofPods pods' = ofPods pods := by
  refine ⟨listed pods, listed_perm pods, ofPods_eq_map_listed pods, shows_ofPods pods,
    pairwise_listed pods, fun base ordinal hnumbered hdistinct => ?_⟩
  have hsorted := pairwise_ordinal hnumbered hdistinct
  refine ⟨hsorted, fun pods' hperm => ?_⟩
  have hsorted' := pairwise_ordinal (fun pod hpod => hnumbered pod (hperm.subset hpod))
    ((hperm.map ordinal).nodup_iff.2 hdistinct)
  have hsame : listed pods' = listed pods := by
    have hlisted := (listed_perm pods').trans (hperm.trans (listed_perm pods).symm)
    exact hlisted.eq_of_pairwise (fun _ _ _ _ hlt hgt => absurd hgt hlt.asymm) hsorted' hsorted
  rw [ofPods_eq_map_listed, ofPods_eq_map_listed, hsame]

/-- A pod of a set whose name has dashes and digits itself. -/
def podOfSet (n : Nat) : Pod where
  metadata := { name := some ("hz-2" ++ "-" ++ toString n) }

theorem ofPods_sorted_podOfSet :
    (∀ n ∈ [2, 7, 10], (podOfSet n).Numbered "hz-2" n) ∧
      ofPods [podOfSet 10, podOfSet 2, podOfSet 7] =
        ofPods [podOfSet 2, podOfSet 7, podOfSet 10] := by
  have hnumbered : ∀ n ∈ [2, 7, 10], (podOfSet n).Numbered "hz-2" n :=
    fun n hn => ⟨rfl, lt_of_le_of_lt (b := 10) (by revert n; decide) (by decide)⟩
  let ordinal (pod : Pod) : Nat := pod.rank.ordinal.getD 0
  have hordinal : ∀ n ∈ [2, 7, 10], ordinal (podOfSet n) = n :=
    fun n hn => congrArg (·.ordinal.getD 0) (hnumbered n hn).rank_eq
  refine ⟨hnumbered, ?_⟩
  obtain ⟨_, -, -, -, -, hordered⟩ := ofPods_sorted ([2, 7, 10].map podOfSet)
  refine (hordered "hz-2" ordinal ?_ ?_).2 _ (by decide)
  · refine List.forall_mem_map.2 fun n hn => ?_
    rw [hordinal n hn]
    exact hnumbered n hn
  · rw [List.map_map, List.map_congr_left (f := ordinal ∘ podOfSet) (g := id) hordinal]
    decide

end MemberStatus

end GridOperator
