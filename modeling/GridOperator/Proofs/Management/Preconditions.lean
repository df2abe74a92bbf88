import GridOperator.Management.Commands
import GridOperator.Observed.Status
import GridOperator.Proofs.Script.Interleaving
import Mathlib.Data.List.Basic

/-!
# What has to be seen before a cluster is commanded

A pass reads the pods of a cluster, makes a status of them, and on the strength
of that status and of one question to the cluster itself makes it active or
starts its members by force. Here the conditions are read back to the pods.
-/

namespace GridOperator

open Kubernetes Script

/-! ## Members and restores -/

namespace MemberStatus

/-- What is known of the container that a pod's member runs in. -/
def container? (pod : Pod) : Option ContainerStatus :=
  pod.status.bind fun s => (s.containers.getD []).find? (·.name = Names.member)

/-- Members as the pods show them, each in whatever state it was found. -/
def FilledIn (pods : List Pod) (members : List MemberStatus) : Prop :=
  members.map (fun m => { m with state := none }) = ofPods pods

theorem ofPod_ready_iff {pod : Pod} :
    (ofPod pod).ready = true ↔ ∃ container, container? pod = some container ∧ container.ready := by
  show (container? pod).any (·.ready) = true ↔ _
  exact Option.any_eq_true _ _

theorem ofPod_isCrashing_iff {pod : Pod} : (ofPod pod).isCrashing = true ↔
    ∃ container, container? pod = some container ∧ container.ready = false ∧
      ∃ waiting, container.waiting = some waiting ∧ waiting.reason = some Names.crashLoop := by
  have h : (ofPod pod).isCrashing = (!(container? pod).any (·.ready) &&
      ((container? pod).bind (·.waiting)).bind (·.reason) = some Names.crashLoop) := rfl
  rw [h]
  cases container? pod with
  | none => simp
  | some container => cases hw : container.waiting <;> simp [hw]

section

variable {pods : List Pod} {members : List MemberStatus}

theorem FilledIn.perm (h : FilledIn pods members) :
    (members.map fun m => { m with state := none }).Perm (pods.map ofPod) :=
  h ▸ List.mergeSort_perm _ _

theorem FilledIn.length_eq (h : FilledIn pods members) : members.length = pods.length := by
  simpa using h.perm.length_eq

/-- Members have all been shown by some pod, and every pod shows one. -/
theorem FilledIn.exists_iff (h : FilledIn pods members) {P : MemberStatus → Prop}
    (hP : ∀ m : MemberStatus, P { m with state := none } ↔ P m) :
    (∃ m ∈ members, P m) ↔ ∃ pod ∈ pods, P (ofPod pod) := by
  have hmem : (∃ m ∈ members.map fun m => { m with state := none }, P m) ↔
      ∃ m ∈ pods.map ofPod, P m := by
    simp only [h.perm.mem_iff]
  simpa [hP] using hmem

theorem FilledIn.forall_iff (h : FilledIn pods members) {P : MemberStatus → Prop}
    (hP : ∀ m : MemberStatus, P { m with state := none } ↔ P m) :
    (∀ m ∈ members, P m) ↔ ∀ pod ∈ pods, P (ofPod pod) := by
  have := h.exists_iff (P := fun m => ¬ P m) fun m => not_congr (hP m)
  simpa using not_congr this

end

end MemberStatus

namespace RestoreState

/-- A restore has succeeded when the agent of every pod, of which there is one, has ended well. -/
theorem ofPods_eq_succeeded_iff {pods : List Pod} : ofPods pods = .succeeded ↔
    pods ≠ [] ∧ ∀ pod ∈ pods, ∃ agent, agent? pod = some agent ∧ agent.exitCode = some 0 := by
  unfold ofPods
  extract_lets agents codes
  have hagents : agents.length = pods.length ↔ ∀ pod ∈ pods, (agent? pod).isSome :=
    List.filterMap_length_eq_length
  have hcodes : codes.length = agents.length ↔ ∀ agent ∈ agents, agent.exitCode.isSome :=
    List.filterMap_length_eq_length
  have hmem : ∀ agent, agent ∈ agents ↔ ∃ pod ∈ pods, agent? pod = some agent := by
    simp [agents]
  have hcode : ∀ code, code ∈ codes ↔ ∃ agent ∈ agents, agent.exitCode = some code := by
    simp [codes]
  constructor
  · intro h
    split at h
    · cases h
    split at h
    · cases h
    split at h
    · rename_i hsome hfailed hall
      refine ⟨?_, fun pod hpod => ?_⟩
      · rintro rfl
        exact hsome rfl
      obtain ⟨agent, hagent⟩ := Option.isSome_iff_exists.1 (hagents.1 hall.2 pod hpod)
      have hin : agent ∈ agents := (hmem agent).2 ⟨pod, hpod, hagent⟩
      obtain ⟨code, hc⟩ := Option.isSome_iff_exists.1 (hcodes.1 hall.1 agent hin)
      have hzero : code = 0 := by
        by_contra hne
        exact hfailed (List.any_eq_true.2 ⟨code, (hcode code).2 ⟨agent, hin, hc⟩, by simpa⟩)
      exact ⟨agent, hagent, hzero ▸ hc⟩
    · cases h
  · rintro ⟨hne, h⟩
    have hlen : agents.length = pods.length := hagents.2 fun pod hpod => by
      obtain ⟨agent, hagent, -⟩ := h pod hpod
      simp [hagent]
    have hended : ∀ agent ∈ agents, agent.exitCode = some 0 := fun agent hin => by
      obtain ⟨pod, hpod, hagent⟩ := (hmem agent).1 hin
      obtain ⟨agent', hagent', hc⟩ := h pod hpod
      rw [hagent] at hagent'
      exact Option.some.inj hagent' ▸ hc
    have hall : codes.length = agents.length := hcodes.2 fun agent hin => by
      simp [hended agent hin]
    rw [if_neg, if_neg, if_pos ⟨hall, hlen⟩]
    · rw [List.any_eq_true]
      rintro ⟨code, hin, hcne⟩
      obtain ⟨agent, hagent, hc⟩ := (hcode code).1 hin
      rw [hended agent hagent] at hc
      simp [← Option.some.inj hc] at hcne
    · rw [List.isEmpty_iff, ← List.length_eq_zero_iff, hlen, List.length_eq_zero_iff]
      exact hne

end RestoreState

namespace Cluster

/-! ## The conditions, in terms of pods -/

/-- The cluster with a status made from its pods. -/
def observed (c : Cluster) (members : List MemberStatus) (pods : List Pod)
    (addresses : List String) (message : Option String) : Cluster :=
  { c with status := some (c.observedStatus members pods addresses message) }

/-- A restore that all members of a cluster have been through. -/
structure Restored (c : Cluster) (pods : List Pod) (members : List MemberStatus) : Prop where
  asked : ∃ p r, c.spec.persistence = some p ∧ p.baseDir ≠ "" ∧ p.restore = some r
  size : 1 ≤ c.spec.clusterSize.toInt
  complete : (pods.length : Int) = c.spec.clusterSize.toInt
  ready : ∀ pod ∈ pods, ∃ container, MemberStatus.container? pod = some container ∧ container.ready
  ended : ∀ pod ∈ pods, ∃ agent, RestoreState.agent? pod = some agent ∧ agent.exitCode = some 0
  passive : ∀ m ∈ members, m.state = some "PASSIVE"

/-- A member that keeps crashing in a cluster that may be started without its data. -/
structure Crashing (c : Cluster) (pods : List Pod) : Prop where
  allowed : ∃ p, c.spec.persistence = some p ∧ p.baseDir ≠ "" ∧ p.autoForceStart
  crashes : ∃ pod ∈ pods, ∃ container, MemberStatus.container? pod = some container ∧
    container.ready = false ∧
      ∃ waiting, container.waiting = some waiting ∧ waiting.reason = some "CrashLoopBackOff"

section

variable {c : Cluster} {pods : List Pod} {members : List MemberStatus} {addresses : List String}
  {message : Option String}

theorem enabledPersistence_eq_some_iff {s : ClusterSpec} {p : Persistence} :
    s.enabledPersistence = some p ↔ s.persistence = some p ∧ p.baseDir ≠ "" := by
  simp [ClusterSpec.enabledPersistence, Option.filter_eq_some_iff, Persistence.isEnabled]

theorem restore_isSome_iff {s : ClusterSpec} : s.restore.isSome = true ↔
    ∃ p r, s.persistence = some p ∧ p.baseDir ≠ "" ∧ p.restore = some r := by
  simp only [ClusterSpec.restore, Option.isSome_iff_exists, Option.bind_eq_some_iff,
    enabledPersistence_eq_some_iff]
  constructor
  · rintro ⟨r, p, ⟨hp, hd⟩, hr⟩
    exact ⟨p, r, hp, hd, hr⟩
  · rintro ⟨p, r, hp, hd, hr⟩
    exact ⟨r, p, ⟨hp, hd⟩, hr⟩

theorem observedPhase_ne_pending_iff (live : c.metadata.isDeleted = false) :
    c.observedPhase members ≠ .pending ↔
      members.length = c.spec.memberCount ∧ ∀ m ∈ members, m.ready := by
  unfold observedPhase
  rw [if_neg (by simp [live])]
  have hcount : (members.length = c.spec.memberCount ∧
        MemberStatus.readyCount members = c.spec.memberCount) ↔
      members.length = c.spec.memberCount ∧ ∀ m ∈ members, m.ready := by
    refine and_congr_right fun hlen => ?_
    rw [← hlen]
    exact List.countP_eq_length
  rw [← hcount]
  split <;> simp_all

/-- With no member asked for, no agent has ended, so that the size need not be looked at. -/
theorem awaitsActivation_observed_iff (live : c.metadata.isDeleted = false)
    (filled : MemberStatus.FilledIn pods members) :
    (c.observed members pods addresses message).awaitsActivation = true ↔
      c.Restored pods members := by
  have hstatus : (c.observed members pods addresses message).awaitsActivation = true ↔
      c.spec.restore.isSome = true ∧ RestoreState.ofPods pods = .succeeded ∧
        c.observedPhase members ≠ .pending ∧ ∀ m ∈ members, m.state = some "PASSIVE" := by
    have hall : members.all (·.state = some ClusterState.passive.name) = true ↔
        ∀ m ∈ members, m.state = some "PASSIVE" := by
      rw [List.all_eq_true]
      exact forall₂_congr fun _ _ => decide_eq_true_iff
    unfold awaitsActivation observed
    cases hr : c.spec.restore <;> simp [observedStatus, hr, hall, and_assoc]
  have hready := filled.forall_iff (P := fun m => m.ready = true) fun _ => Iff.rfl
  simp only [MemberStatus.ofPod_ready_iff] at hready
  rw [hstatus, restore_isSome_iff, RestoreState.ofPods_eq_succeeded_iff,
    observedPhase_ne_pending_iff live, hready, filled.length_eq]
  have hcount : c.spec.memberCount = c.spec.clusterSize.toInt.toNat := rfl
  constructor
  · rintro ⟨asked, ⟨hne, ended⟩, ⟨hlen, ready⟩, passive⟩
    have hpos : 0 < pods.length := List.length_pos_of_ne_nil hne
    exact ⟨asked, by omega, by omega, ready, ended, passive⟩
  · rintro ⟨asked, size, complete, ready, ended, passive⟩
    have hpos : 0 < pods.length := by omega
    exact ⟨asked, ⟨List.ne_nil_of_length_pos hpos, ended⟩, ⟨by omega, ready⟩, passive⟩

theorem wantsForceStart_observed_iff (filled : MemberStatus.FilledIn pods members) :
    (c.observed members pods addresses message).wantsForceStart = true ↔ c.Crashing pods := by
  have hcrash := filled.exists_iff (P := fun m => m.isCrashing = true) fun _ => Iff.rfl
  simp only [MemberStatus.ofPod_isCrashing_iff] at hcrash
  have hallowed : c.spec.enabledPersistence.any (·.autoForceStart) = true ↔
      ∃ p, c.spec.persistence = some p ∧ p.baseDir ≠ "" ∧ p.autoForceStart = true := by
    simp only [Option.any_eq_true, enabledPersistence_eq_some_iff, and_assoc]
  show (_ && members.any _) = true ↔ _
  rw [Bool.and_eq_true, List.any_eq_true, hcrash]
  constructor
  · rintro ⟨allowed, crashes⟩
    exact ⟨hallowed.1 allowed, crashes⟩
  · rintro ⟨allowed, crashes⟩
    exact ⟨hallowed.2 allowed, crashes⟩

end

end Cluster

/-! ## Commands to a passive cluster -/

namespace Management

/-- A command that is given, if it is wanted, to a cluster that has just said that it is passive. -/
def toPassive {α : Type} (wanted : Bool) (command : ManageCall) (ended : command.Answer → α)
    (otherwise : Except Error ClusterState → α) (unwanted : α) : Script management α :=
  if wanted then ask (I := management) .getState fun
    | .ok .passive => ask (I := management) command fun answer => done (ended answer)
    | mode => done (otherwise mode)
  else done unwanted

theorem toPassive_sends_iff {α : Type} {wanted : Bool} {command : ManageCall}
    {ended : command.Answer → α} {otherwise : Except Error ClusterState → α} {unwanted : α}
    {call : ManageCall} (changes : call ≠ .getState) {events : List (Event management)} :
    (∃ next, Follows (toPassive wanted command ended otherwise unwanted) events
        (ask (I := management) call next)) ↔
      call = command ∧ wanted = true ∧ events = [⟨.getState, .ok .passive⟩] := by
  constructor
  · rintro ⟨next, h⟩
    unfold toPassive at h
    cases wanted with
    | false => cases h.done_cases.2
    | true =>
      rcases h.ask_cases with ⟨-, h₁⟩ | ⟨mode, later, rfl, h₁⟩
      · cases h₁
        exact absurd rfl changes
      rcases mode with e | ⟨⟨⟩ | ⟨⟩⟩
      · cases h₁.done_cases.2
      · cases h₁.done_cases.2
      rcases h₁.ask_cases with ⟨rfl, h₂⟩ | ⟨_, later, rfl, h₂⟩
      · cases h₂
        exact ⟨rfl, rfl, rfl⟩
      · cases h₂.done_cases.2
  · rintro ⟨rfl, rfl, rfl⟩
    exact ⟨_, .step (I := management) (c := .getState) (.ok .passive) .start⟩

theorem run_ensureActive (c : Cluster) : c.ensureActive.run =
    toPassive c.awaitsActivation (.changeState .active) (·.map fun _ => true)
      (fun
        | .ok _ | .error (.unexpectedState _) => .ok false
        | .error e => .error e)
      (.ok false) := by
  unfold Cluster.ensureActive toPassive
  cases c.awaitsActivation with
  | false => rfl
  | true =>
    refine congrArg (ask _) (funext fun mode => ?_)
    rcases mode with e | ⟨⟨⟩ | ⟨⟩⟩
    · cases e <;> rfl
    · rfl
    · exact congrArg (ask _) (funext fun changed => by cases changed <;> rfl)

theorem run_checkForceStart (c : Cluster) : c.checkForceStart.run =
    toPassive c.wantsForceStart .forceStart (·.map fun _ => true)
      (fun
        | .ok _ | .error (.unexpectedState _) => .ok false
        | .error e => .error e)
      (.ok false) := by
  unfold Cluster.checkForceStart toPassive
  cases c.wantsForceStart with
  | false => rfl
  | true =>
    refine congrArg (ask _) (funext fun mode => ?_)
    rcases mode with e | ⟨⟨⟩ | ⟨⟩⟩
    · cases e <;> rfl
    · rfl
    · exact congrArg (ask _) (funext fun changed => by cases changed <;> rfl)

/-- A live cluster is told to become active exactly after a restore that all members have been
through, and to start by force exactly where a member keeps crashing; either one right after the
answer that it is passive, and nothing else that changes it is ever sent. -/
theorem sends_iff {c : Cluster} {pods : List Pod} {members : List MemberStatus}
    {addresses : List String} {message : Option String} (live : c.metadata.isDeleted = false)
    (filled : MemberStatus.FilledIn pods members) {call : ManageCall}
    (changes : call ≠ .getState) {events : List (Event management)} :
    ((∃ next, Follows (c.observed members pods addresses message).ensureActive.run events
          (ask (I := management) call next)) ↔
        call = .changeState .active ∧ c.Restored pods members ∧
          events = [⟨.getState, .ok .passive⟩]) ∧
      ((∃ next, Follows (c.observed members pods addresses message).checkForceStart.run events
          (ask (I := management) call next)) ↔
        call = .forceStart ∧ c.Crashing pods ∧ events = [⟨.getState, .ok .passive⟩]) := by
  rw [run_ensureActive, run_checkForceStart, toPassive_sends_iff changes,
    toPassive_sends_iff changes, Cluster.awaitsActivation_observed_iff live filled,
    Cluster.wantsForceStart_observed_iff filled]
  exact ⟨Iff.rfl, Iff.rfl⟩

/-- A cluster of one member that has been restored from a bucket. -/
def refilled : Cluster where
  metadata := { name := some "hz" }
  spec :=
    { clusterSize := 1
      persistence := some { baseDir := "/data", restore := some { bucketURI := "s3://backups" } } }

/-- The pod of a member whose agent has ended well. -/
def refilledPod : Pod where
  metadata := { name := some "hz-0" }
  status := some {
    containers := some [{ name := Names.member, ready := true }]
    initContainers := some [{ name := Names.restoreAgent, exitCode := some 0 }] }

def refilledMember : MemberStatus :=
  { MemberStatus.ofPod refilledPod with state := some "PASSIVE" }

theorem sends_iff_refilled : ∃ next,
    Follows (refilled.observed [refilledMember] [refilledPod] [] none).ensureActive.run
      [⟨.getState, .ok .passive⟩] (ask (I := management) (.changeState .active) next) := by
  have hfilled : MemberStatus.FilledIn [refilledPod] [refilledMember] :=
    (List.mergeSort_singleton _).symm
  refine ((sends_iff rfl hfilled (by decide)).1).2 ⟨rfl, ?_, rfl⟩
  exact {
    asked := ⟨_, _, rfl, by decide, rfl⟩
    size := by decide
    complete := by decide
    ready := List.forall_mem_singleton.2 ⟨_, rfl, rfl⟩
    ended := List.forall_mem_singleton.2 ⟨_, rfl, rfl⟩
    passive := List.forall_mem_singleton.2 rfl }

end Management

end GridOperator
