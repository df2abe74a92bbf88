import GridOperator.Cluster.Basic
import GridOperator.Kubernetes.Rbac
import GridOperator.Store.Calls

/-!
# Cleaning up after a cluster

What does not go away with the cluster by itself: its role, the binding of the
role, which goes first, and the client. What is not there any more is done.
-/

namespace GridOperator

open Kubernetes

inductive TeardownCall where
  | roles (call : StoreCall ClusterRole)
  | bindings (call : StoreCall ClusterRoleBinding)
  /-- Forgets the client of a cluster. Tells whether there was one. -/
  | release (key : ObjectKey)

namespace TeardownCall

abbrev Answer : TeardownCall → Type
  | roles call => call.Answer
  | bindings call => call.Answer
  | release _ => Bool

end TeardownCall

def teardownCalls : Interface := ⟨TeardownCall, TeardownCall.Answer⟩

namespace Cluster

def teardown (c : Cluster) : Pass teardownCalls Unit := do
  let _ ← (Store.delete (K := ClusterRoleBinding) c.scopedName).embed (J := teardownCalls)
    ⟨.bindings, fun _ a => a⟩
  let _ ← (Store.delete (K := ClusterRole) c.scopedName).embed (J := teardownCalls)
    ⟨.roles, fun _ a => a⟩
  let _ ← ExceptT.lift (Script.call (I := teardownCalls) (.release (Resource.key c)))

end Cluster

end GridOperator
