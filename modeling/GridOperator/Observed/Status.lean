import GridOperator.Observed.Members

/-!
# The status of a cluster
-/

namespace GridOperator

open Kubernetes

namespace Cluster

/-- A cluster is running when it has exactly the members asked for and all of them are ready. -/
def observedPhase (c : Cluster) (members : List MemberStatus) : Phase :=
  if c.metadata.isDeleted then .terminating
  else if members.length = c.spec.memberCount
      ∧ MemberStatus.readyCount members = c.spec.memberCount then .running
  else .pending

def observedStatus (c : Cluster) (members : List MemberStatus) (pods : List Pod)
    (externalAddresses : List String) (message : Option String) : ClusterStatus where
  phase := c.observedPhase members
  readyMembers :=
    toString (MemberStatus.readyCount members) ++ "/" ++ toString c.spec.clusterSize.toInt
  message := message
  members := members
  restore := c.spec.restore.map fun _ => .ofPods pods
  externalAddresses := externalAddresses

end Cluster

end GridOperator
