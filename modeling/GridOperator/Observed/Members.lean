import GridOperator.Cluster.Basic
import GridOperator.Kubernetes.Pod
import GridOperator.Names
import GridOperator.Text.Number
import GridOperator.Text.Split

/-!
# Members and their restores, as their pods show them
-/

namespace GridOperator

open Kubernetes

/-- The number at the end of a pod's name, and what stands before it. Pods of one stateful set are
ordered by that number; a name without one stands for itself. -/
structure PodRank where
  base : String
  ordinal : Option Nat
  deriving DecidableEq

namespace PodRank

def ofName (name : String) : PodRank :=
  match Text.splitOnceLast '-' name.toList with
  | some (base, digits) =>
    match Text.readNatural 0xffffffff digits with
    | .ok n => ⟨String.ofList base, some n⟩
    | .error _ => ⟨name, none⟩
  | none => ⟨name, none⟩

/-- By bases, and by numbers for one base; no number comes first. -/
def le (a b : PodRank) : Bool :=
  if a.base = b.base then
    match a.ordinal, b.ordinal with
    | none, _ => true
    | some _, none => false
    | some m, some n => m ≤ n
  else a.base < b.base

end PodRank

namespace MemberStatus

/-- What a pod shows of its member. The operating mode is not among it. -/
def ofPod (pod : Pod) : MemberStatus :=
  let container := pod.status.bind fun s =>
    (s.containers.getD []).find? (·.name = Names.member)
  let waiting := container.bind (·.waiting)
  { podName := pod.metadata.name.getD ""
    ip := pod.status.bind (·.podIP)
    ready := container.any (·.ready)
    reason := waiting.bind (·.reason)
    message := waiting.bind (·.message)
    restartCount := Int32.ofInt ((container.map (·.restartCount)).getD 0) }

/-- The order in which members are listed. -/
def listedBefore (a b : MemberStatus) : Bool :=
  (PodRank.ofName a.podName).le (PodRank.ofName b.podName)

/-- One status for each pod, in the order of the pods' names. -/
def ofPods (pods : List Pod) : List MemberStatus := (pods.map ofPod).mergeSort listedBefore

def readyCount (members : List MemberStatus) : Nat := members.countP (·.ready)

end MemberStatus

namespace RestoreState

/-- The agent that fetches the data of a pod's member. -/
def agent? (pod : Pod) : Option ContainerStatus :=
  pod.status.bind fun s => (s.initContainers.getD []).find? (·.name = Names.restoreAgent)

/-- A restore has succeeded when it has in every pod, and failed when it has in some. -/
def ofPods (pods : List Pod) : RestoreState :=
  let agents := pods.filterMap agent?
  let codes := agents.filterMap (·.exitCode)
  if agents.isEmpty then .notStarted
  else if codes.any (· ≠ 0) then .failed
  else if codes.length = agents.length ∧ agents.length = pods.length then .succeeded
  else .inProgress

end RestoreState

end GridOperator
