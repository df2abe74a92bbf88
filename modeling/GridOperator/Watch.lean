import GridOperator.ApiServer.Server

/-!
# Which resources are passed over when

A change of an object leads to passes over the resources that it may concern: a
resource itself, the clusters that own the object, the cluster whose pod it is,
the cluster that a map is for.
-/

namespace GridOperator

open Kubernetes

/-- A resource to pass over. -/
structure Target where
  kind : Kind
  key : ObjectKey
  deriving DecidableEq

namespace Target

/-- The clusters that own an object of their namespace. -/
def ofOwners (m : ObjectMeta) : List Target :=
  (m.ownerReferences.getD []).filterMap fun r =>
    if r.apiVersion = resourceVersionGroup ∧ r.kind = Cluster.kind then
      some ⟨.cluster, ⟨m.space.getD "", r.name⟩⟩
    else none

/-- The labels of the pods that are watched. -/
def podLabels : TextMap := [(Names.managedByLabel, Names.operator)]

/-- The cluster that a watched pod is a member of. -/
def ofPod? (p : Pod) : Option Target := do
  return ⟨.cluster, ⟨← p.metadata.space, ← p.metadata.label? Names.instanceLabel⟩⟩

/-- The cluster that a map is for. -/
def ofMap? (m : DataMap) : Option Target := do
  return ⟨.cluster, ⟨← m.metadata.space, m.spec.clusterResource⟩⟩

end Target

namespace Server

/-- The objects of a kind in all namespaces that carry all the labels; none if one of them does not
read. -/
def watched? (k : Kind) (labels : TextMap) (s : Server) : Option (List k.Object) :=
  ((s.shelf k).filter fun e => list.carries labels e.2.document).mapM (·.2.reading)

def watched (k : Kind) (labels : TextMap) (s : Server) : List k.Object :=
  (s.watched? k labels).getD []

/-- The clusters that other objects lead to. -/
def ledTo (s : Server) : List Target :=
  let owners (k : Kind) := (s.watched k []).flatMap fun object =>
    Target.ofOwners (Resource.metadata object)
  owners .statefulSet ++ owners .service ++ owners .configMap
    ++ (s.watched .pod Target.podLabels).filterMap Target.ofPod?
    ++ (s.watched .dataMap []).filterMap Target.ofMap?

/-- The resources that are passed over when the operator starts. No cluster is before all clusters
are known. -/
def initialTargets (s : Server) : List Target :=
  let own (k : Kind) (objects : List k.Object) :=
    objects.map fun object => Target.mk k (Resource.key object)
  own .hotBackup (s.watched .hotBackup []) ++
    match s.watched? .cluster [] with
    | some clusters => own .cluster clusters ++ s.ledTo
    | none => []

/-- The requests by which the operator starts to watch. -/
def watchRequests : List Request :=
  [.configMap, .cluster, .hotBackup, .dataMap, .pod, .service, .statefulSet].map fun k =>
    ⟨.list, k, ⟨"", ""⟩, if k = .pod then Target.podLabels else []⟩

/-- A target in words; a resource that is not there cannot be passed over. -/
def describe (s : Server) (t : Target) : String :=
  (if (s.find? t.kind t.key).isSome then "" else "missing ") ++ t.kind.name ++ " " ++ t.key.render

end Server

end GridOperator
