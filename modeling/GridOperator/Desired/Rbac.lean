import GridOperator.Desired.Basic
import GridOperator.Kubernetes.Rbac
import GridOperator.Settings

/-!
# The account of the members and its rights

Members find each other by asking the platform for their pods and services.
-/

namespace GridOperator.Cluster

open Kubernetes

def discoveryRule : PolicyRule where
  apiGroups := some [""]
  resources := some ["endpoints", "pods", "nodes", "services", "secrets"]
  verbs := ["get", "list"]

/-- The right to run under the security constraints of OpenShift. -/
def constraintsRule : PolicyRule where
  apiGroups := some ["security.openshift.io"]
  resources := some ["securitycontextconstraints"]
  verbs := ["use"]

def clusterRole (c : Cluster) (platform : Platform) : ClusterRole where
  metadata := c.scopedMetadata
  rules := some (discoveryRule :: if platform = .openShift then [constraintsRule] else [])

def serviceAccount (c : Cluster) : ServiceAccount where
  metadata := c.ownedMetadata

def clusterRoleBinding (c : Cluster) : ClusterRoleBinding where
  metadata := c.scopedMetadata
  roleRef := {
    apiGroup := "rbac.authorization.k8s.io"
    kind := "ClusterRole"
    name := c.scopedName }
  subjects := some [{ kind := "ServiceAccount", name := c.name, space := c.metadata.space }]

end GridOperator.Cluster
