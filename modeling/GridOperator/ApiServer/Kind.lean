import GridOperator.DataMap
import GridOperator.HotBackup
import GridOperator.Kubernetes.ConfigMap
import GridOperator.Kubernetes.Pod
import GridOperator.Kubernetes.Rbac
import GridOperator.Kubernetes.Service
import GridOperator.Kubernetes.StatefulSet

/-!
# Kinds of objects that the platform keeps
-/

namespace GridOperator

open Kubernetes

inductive Kind where
  | cluster
  | hotBackup
  | dataMap
  | pod
  | service
  | serviceAccount
  | clusterRole
  | clusterRoleBinding
  | configMap
  | statefulSet
  deriving DecidableEq

namespace Kind

def all : List Kind :=
  [cluster, hotBackup, dataMap, pod, service, serviceAccount, clusterRole, clusterRoleBinding,
    configMap, statefulSet]

/-- The type of the objects of a kind. -/
abbrev Object : Kind → Type
  | cluster => Cluster
  | hotBackup => HotBackup
  | dataMap => DataMap
  | pod => Pod
  | service => Service
  | serviceAccount => ServiceAccount
  | clusterRole => ClusterRole
  | clusterRoleBinding => ClusterRoleBinding
  | configMap => ConfigMap
  | statefulSet => StatefulSet

instance : (k : Kind) → Resource k.Object
  | cluster => inferInstanceAs (Resource Cluster)
  | hotBackup => inferInstanceAs (Resource HotBackup)
  | dataMap => inferInstanceAs (Resource DataMap)
  | pod => inferInstanceAs (Resource Pod)
  | service => inferInstanceAs (Resource Service)
  | serviceAccount => inferInstanceAs (Resource ServiceAccount)
  | clusterRole => inferInstanceAs (Resource ClusterRole)
  | clusterRoleBinding => inferInstanceAs (Resource ClusterRoleBinding)
  | configMap => inferInstanceAs (Resource ConfigMap)
  | statefulSet => inferInstanceAs (Resource StatefulSet)

def name (k : Kind) : String := Resource.kind k.Object

def ofName? (name : String) : Option Kind := all.find? (·.name = name)

end Kind

end GridOperator
