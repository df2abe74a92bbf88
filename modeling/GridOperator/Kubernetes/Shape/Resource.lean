import GridOperator.Kubernetes.Shape.Pod

/-!
# Shapes: the objects an operator creates
-/

namespace GridOperator.Kubernetes.Shape

def servicePort : Shape := .object [
  opt "appProtocol" .text, opt "name" .text, opt "nodePort" .int32, req "port" .int32,
  opt "protocol" .text, opt "targetPort" .intOrText]

def serviceSpec : Shape := .object [
  opt "allocateLoadBalancerNodePorts" .flag, opt "clusterIP" .text, opt "clusterIPs" texts,
  opt "externalIPs" texts, opt "externalName" .text, opt "externalTrafficPolicy" .text,
  opt "healthCheckNodePort" .int32, opt "internalTrafficPolicy" .text, opt "ipFamilies" texts,
  opt "ipFamilyPolicy" .text, opt "loadBalancerClass" .text, opt "loadBalancerIP" .text,
  opt "loadBalancerSourceRanges" texts, opt "ports" (.list servicePort),
  opt "publishNotReadyAddresses" .flag, opt "selector" textMap, opt "sessionAffinity" .text,
  opt "sessionAffinityConfig" (.object [
    opt "clientIP" (.object [opt "timeoutSeconds" .int32])]),
  opt "trafficDistribution" .text, opt "type" .text]

def loadBalancerIngress : Shape := .object [
  opt "hostname" .text, opt "ip" .text, opt "ipMode" .text,
  opt "ports" (.list (.object [opt "error" .text, req "port" .int32, req "protocol" .text]))]

def serviceStatus : Shape := .object [
  opt "conditions" (.list condition),
  opt "loadBalancer" (.object [opt "ingress" (.list loadBalancerIngress)])]

def service : Shape := .resource "v1" "Service" [
  req "metadata" objectMeta, opt "spec" serviceSpec, opt "status" serviceStatus]

def configMap : Shape := .resource "v1" "ConfigMap" [
  opt "binaryData" (.map .octets), opt "data" textMap, opt "immutable" .flag,
  req "metadata" objectMeta]

def serviceAccount : Shape := .resource "v1" "ServiceAccount" [
  opt "automountServiceAccountToken" .flag, opt "imagePullSecrets" (.list localReference),
  req "metadata" objectMeta, opt "secrets" (.list objectReference)]

def policyRule : Shape := .object [
  opt "apiGroups" texts, opt "nonResourceURLs" texts, opt "resourceNames" texts,
  opt "resources" texts, req "verbs" texts]

def clusterRole : Shape := .resource "rbac.authorization.k8s.io/v1" "ClusterRole" [
  opt "aggregationRule" (.object [opt "clusterRoleSelectors" (.list labelSelector)]),
  req "metadata" objectMeta, opt "rules" (.list policyRule)]

def roleRef : Shape := .object [req "apiGroup" .text, req "kind" .text, req "name" .text]

def subject : Shape := .object [
  opt "apiGroup" .text, req "kind" .text, req "name" .text, opt "namespace" .text]

def clusterRoleBinding : Shape :=
  .resource "rbac.authorization.k8s.io/v1" "ClusterRoleBinding" [
    req "metadata" objectMeta, req "roleRef" roleRef, opt "subjects" (.list subject)]

def statefulSetSpec : Shape := .object [
  opt "minReadySeconds" .int32, opt "ordinals" (.object [opt "start" .int32]),
  opt "persistentVolumeClaimRetentionPolicy" (.object [
    opt "whenDeleted" .text, opt "whenScaled" .text]),
  opt "podManagementPolicy" .text, opt "replicas" .int32, opt "revisionHistoryLimit" .int32,
  req "selector" labelSelector, opt "serviceName" .text, req "template" podTemplate,
  opt "updateStrategy" (.object [
    opt "rollingUpdate" (.object [opt "maxUnavailable" .intOrText, opt "partition" .int32]),
    opt "type" .text]),
  opt "volumeClaimTemplates" (.list claim)]

def statefulSetStatus : Shape := .object [
  opt "availableReplicas" .int32, opt "collisionCount" .int32,
  opt "conditions" (.list (.object [
    opt "lastTransitionTime" .time, opt "message" .text, opt "reason" .text,
    req "status" .text, req "type" .text])),
  opt "currentReplicas" .int32, opt "currentRevision" .text, opt "observedGeneration" .int64,
  opt "readyReplicas" .int32, req "replicas" .int32, opt "updateRevision" .text,
  opt "updatedReplicas" .int32]

def statefulSet : Shape := .resource "apps/v1" "StatefulSet" [
  req "metadata" objectMeta, opt "spec" statefulSetSpec, opt "status" statefulSetStatus]

end GridOperator.Kubernetes.Shape
