import GridOperator.Cluster.Spec
import GridOperator.Cluster.Status
import GridOperator.Kubernetes.Meta

/-!
# Cluster resources
-/

namespace GridOperator

open Kubernetes

/-- The group and version of the operator's own kinds of resources. -/
def resourceVersionGroup : String := "hazelcast.com/v1alpha1"

structure Cluster where
  metadata : ObjectMeta
  spec : ClusterSpec
  status : Option ClusterStatus := none
  deriving DecidableEq

namespace Cluster

def kind : String := "Hazelcast"

def ofJson? (j : Json) : Option Cluster := do
  let r ← Record.ofJson? ["metadata", "spec", "status"] j
  return {
    metadata := ← r.required "metadata" ObjectMeta.ofJson?
    spec := ← r.required "spec" ClusterSpec.ofJson?
    status := ← r.optional "status" ClusterStatus.ofJson? }

def toJson (c : Cluster) : Json := .obj <| Json.ofSome [
  ("apiVersion", some (.str resourceVersionGroup)),
  ("kind", some (.str kind)),
  ("metadata", some c.metadata.toJson),
  ("spec", some c.spec.toJson),
  ("status", c.status.map ClusterStatus.toJson)]

instance : Resource Cluster where
  kind := kind
  metadata := metadata
  withMetadata c m := { c with metadata := m }
  toJson := toJson
  ofJson? := ofJson?

/-- The name, which is empty when there is none. -/
def name (c : Cluster) : String := c.metadata.name.getD ""

/-- The name of objects without a namespace that belong to the cluster. -/
def scopedName (c : Cluster) : String := c.name ++ "-" ++ c.metadata.space.getD ""

end Cluster

end GridOperator
