import GridOperator.Desired.Basic
import GridOperator.Json.Reader
import GridOperator.Kubernetes.ConfigMap
import GridOperator.MemberConfig

/-!
# The configuration map

It holds the file with the configuration of the members. A map of the cluster
goes into it as it is once it has been accepted; a map whose last edit has not
come through goes in as it was when it last did.
-/

namespace GridOperator

open Kubernetes

namespace DataMap

/-- The specification that last came through, if one is recorded. -/
def lastSpec? (m : DataMap) : Option DataMapSpec :=
  (m.metadata.annotation? Names.lastSpecAnnotation).bind fun text =>
    (Json.parse? text).bind DataMapSpec.ofJson?

/-- The specification that may go into the configuration. -/
def eligibleSpec? (m : DataMap) : Option DataMapSpec :=
  match m.state with
  | .persisting | .success => some m.spec
  | .failed | .pending => m.lastSpec?
  | .terminating => none

/-- The maps that may go into the configuration, with their names in the cluster. -/
def eligible (ms : List DataMap) : List (String × DataMapSpec) :=
  ms.filterMap fun m => m.eligibleSpec?.map (m.mapName, ·)

end DataMap

namespace Cluster

def memberConfig (c : Cluster) (maps : List DataMap) : MemberConfig :=
  (MemberConfig.ofCluster c).withMaps (DataMap.eligible maps)

def configMap (c : Cluster) (maps : List DataMap) : ConfigMap where
  metadata := c.ownedMetadata
  data := some [(Names.configFile, (c.memberConfig maps).render)]

end Cluster

end GridOperator
