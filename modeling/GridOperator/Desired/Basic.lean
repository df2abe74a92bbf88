import GridOperator.Cluster.Basic
import GridOperator.Names

/-!
# What the objects of a cluster have in common

The modules of this folder say which objects a cluster should have. They look at
the resource alone and not at what there is.
-/

namespace GridOperator.Cluster

open Kubernetes

def labels (c : Cluster) : TextMap :=
  .ofEntries [(Names.applicationLabel, Names.member), (Names.instanceLabel, c.name),
    (Names.managedByLabel, Names.operator)]

/-- The cluster as the controlling owner of another object. -/
def ownerReference (c : Cluster) : OwnerReference where
  apiVersion := resourceVersionGroup
  kind := kind
  name := c.name
  uid := c.metadata.uid.getD ""
  controller := some true
  blockOwnerDeletion := some true

/-- The metadata of objects that go away with the cluster. -/
def ownedMetadata (c : Cluster) : ObjectMeta where
  name := c.metadata.name
  space := c.metadata.space
  labels := some c.labels
  ownerReferences := some [c.ownerReference]

/-- The metadata of objects without a namespace. They cannot have an owner in one. -/
def scopedMetadata (c : Cluster) : ObjectMeta where
  name := some c.scopedName
  labels := some c.labels

end GridOperator.Cluster
