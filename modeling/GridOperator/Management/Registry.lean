import GridOperator.Management.Endpoint

/-!
# One client per cluster

Clients are kept until the cluster goes away or changes its name, since requests
prove themselves by that name. Each client has a number of its own.
-/

namespace GridOperator

open Kubernetes

structure Client where
  serial : Nat
  endpoint : Endpoint
  deriving DecidableEq

structure Registry where
  clients : Table ObjectKey Client := []
  /-- The number of the next client. -/
  next : Nat := 0
  deriving DecidableEq

namespace Registry

/-- The client of a cluster, a new one unless there is one for its present name. -/
def clientFor (c : Cluster) (r : Registry) : Client × Registry :=
  let key := Resource.key c
  let made : Client := ⟨r.next, Endpoint.ofCluster c⟩
  match r.clients.get? key with
  | some held =>
    if held.endpoint.clusterName = c.spec.clusterName then (held, r)
    else (made, { clients := r.clients.set key made, next := r.next + 1 })
  | none => (made, { clients := r.clients.set key made, next := r.next + 1 })

/-- Forgets a client. Tells whether there was one. -/
def release (key : ObjectKey) (r : Registry) : Bool × Registry :=
  (r.clients.contains key, { r with clients := r.clients.erase key })

end Registry

end GridOperator
