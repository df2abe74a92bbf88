import GridOperator.Kubernetes.Shape.Meta

/-!
# Shapes: volumes and claims
-/

namespace GridOperator.Kubernetes.Shape

/-! ## Claims -/

def volumeResources : Shape := .object [opt "limits" quantities, opt "requests" quantities]

def claimSpec : Shape := .object [
  opt "accessModes" texts,
  opt "dataSource" (.object [opt "apiGroup" .text, req "kind" .text, req "name" .text]),
  opt "dataSourceRef" (.object [
    opt "apiGroup" .text, req "kind" .text, req "name" .text, opt "namespace" .text]),
  opt "resources" volumeResources, opt "selector" labelSelector,
  opt "storageClassName" .text, opt "volumeAttributesClassName" .text, opt "volumeMode" .text,
  opt "volumeName" .text]

def claimCondition : Shape := .object [
  opt "lastProbeTime" .time, opt "lastTransitionTime" .time, opt "message" .text,
  opt "reason" .text, req "status" .text, req "type" .text]

def claimStatus : Shape := .object [
  opt "accessModes" texts, opt "allocatedResourceStatuses" textMap,
  opt "allocatedResources" quantities, opt "capacity" quantities,
  opt "conditions" (.list claimCondition), opt "currentVolumeAttributesClassName" .text,
  opt "modifyVolumeStatus" (.object [
    req "status" .text, opt "targetVolumeAttributesClassName" .text]),
  opt "phase" .text]

def claim : Shape := .resource "v1" "PersistentVolumeClaim" [
  req "metadata" objectMeta, opt "spec" claimSpec, opt "status" claimStatus]

/-! ## Sources of volumes -/

def fieldReference : Shape := .object [opt "apiVersion" .text, req "fieldPath" .text]

def resourceReference : Shape := .object [
  opt "containerName" .text, opt "divisor" .quantity, req "resource" .text]

def keyToPath : Shape := .object [req "key" .text, opt "mode" .int32, req "path" .text]

def downwardFile : Shape := .object [
  opt "fieldRef" fieldReference, opt "mode" .int32, req "path" .text,
  opt "resourceFieldRef" resourceReference]

def projection : Shape := .object [
  opt "clusterTrustBundle" (.object [
    opt "labelSelector" labelSelector, opt "name" .text, opt "optional" .flag, req "path" .text,
    opt "signerName" .text]),
  opt "configMap" (.object [
    opt "items" (.list keyToPath), req "name" .text, opt "optional" .flag]),
  opt "downwardAPI" (.object [opt "items" (.list downwardFile)]),
  opt "podCertificate" (.object [
    opt "certificateChainPath" .text, opt "credentialBundlePath" .text, opt "keyPath" .text,
    req "keyType" .text, opt "maxExpirationSeconds" .int32, req "signerName" .text]),
  opt "secret" (.object [
    opt "items" (.list keyToPath), req "name" .text, opt "optional" .flag]),
  opt "serviceAccountToken" (.object [
    opt "audience" .text, opt "expirationSeconds" .int64, req "path" .text])]

def volume : Shape := .object [
  opt "awsElasticBlockStore" (.object [
    opt "fsType" .text, opt "partition" .int32, opt "readOnly" .flag, req "volumeID" .text]),
  opt "azureDisk" (.object [
    opt "cachingMode" .text, req "diskName" .text, req "diskURI" .text, opt "fsType" .text,
    opt "kind" .text, opt "readOnly" .flag]),
  opt "azureFile" (.object [opt "readOnly" .flag, req "secretName" .text, req "shareName" .text]),
  opt "cephfs" (.object [
    req "monitors" texts, opt "path" .text, opt "readOnly" .flag, opt "secretFile" .text,
    opt "secretRef" localReference, opt "user" .text]),
  opt "cinder" (.object [
    opt "fsType" .text, opt "readOnly" .flag, opt "secretRef" localReference,
    req "volumeID" .text]),
  opt "configMap" (.object [
    opt "defaultMode" .int32, opt "items" (.list keyToPath), req "name" .text,
    opt "optional" .flag]),
  opt "csi" (.object [
    req "driver" .text, opt "fsType" .text, opt "nodePublishSecretRef" localReference,
    opt "readOnly" .flag, opt "volumeAttributes" textMap]),
  opt "downwardAPI" (.object [opt "defaultMode" .int32, opt "items" (.list downwardFile)]),
  opt "emptyDir" (.object [opt "medium" .text, opt "sizeLimit" .quantity]),
  opt "ephemeral" (.object [
    opt "volumeClaimTemplate" (.object [opt "metadata" objectMeta, req "spec" claimSpec])]),
  opt "fc" (.object [
    opt "fsType" .text, opt "lun" .int32, opt "readOnly" .flag, opt "targetWWNs" texts,
    opt "wwids" texts]),
  opt "flexVolume" (.object [
    req "driver" .text, opt "fsType" .text, opt "options" textMap, opt "readOnly" .flag,
    opt "secretRef" localReference]),
  opt "flocker" (.object [opt "datasetName" .text, opt "datasetUUID" .text]),
  opt "gcePersistentDisk" (.object [
    opt "fsType" .text, opt "partition" .int32, req "pdName" .text, opt "readOnly" .flag]),
  opt "gitRepo" (.object [opt "directory" .text, req "repository" .text, opt "revision" .text]),
  opt "glusterfs" (.object [req "endpoints" .text, req "path" .text, opt "readOnly" .flag]),
  opt "hostPath" (.object [req "path" .text, opt "type" .text]),
  opt "image" (.object [opt "pullPolicy" .text, opt "reference" .text]),
  opt "iscsi" (.object [
    opt "chapAuthDiscovery" .flag, opt "chapAuthSession" .flag, opt "fsType" .text,
    opt "initiatorName" .text, req "iqn" .text, opt "iscsiInterface" .text, req "lun" .int32,
    opt "portals" texts, opt "readOnly" .flag, opt "secretRef" localReference,
    req "targetPortal" .text]),
  req "name" .text,
  opt "nfs" (.object [req "path" .text, opt "readOnly" .flag, req "server" .text]),
  opt "persistentVolumeClaim" (.object [req "claimName" .text, opt "readOnly" .flag]),
  opt "photonPersistentDisk" (.object [opt "fsType" .text, req "pdID" .text]),
  opt "portworxVolume" (.object [
    opt "fsType" .text, opt "readOnly" .flag, req "volumeID" .text]),
  opt "projected" (.object [opt "defaultMode" .int32, opt "sources" (.list projection)]),
  opt "quobyte" (.object [
    opt "group" .text, opt "readOnly" .flag, req "registry" .text, opt "tenant" .text,
    opt "user" .text, req "volume" .text]),
  opt "rbd" (.object [
    opt "fsType" .text, req "image" .text, opt "keyring" .text, req "monitors" texts,
    opt "pool" .text, opt "readOnly" .flag, opt "secretRef" localReference, opt "user" .text]),
  opt "scaleIO" (.object [
    opt "fsType" .text, req "gateway" .text, opt "protectionDomain" .text,
    opt "readOnly" .flag, req "secretRef" localReference, opt "sslEnabled" .flag,
    opt "storageMode" .text, opt "storagePool" .text, req "system" .text,
    opt "volumeName" .text]),
  opt "secret" (.object [
    opt "defaultMode" .int32, opt "items" (.list keyToPath), opt "optional" .flag,
    opt "secretName" .text]),
  opt "storageos" (.object [
    opt "fsType" .text, opt "readOnly" .flag, opt "secretRef" localReference,
    opt "volumeName" .text, opt "volumeNamespace" .text]),
  opt "vsphereVolume" (.object [
    opt "fsType" .text, opt "storagePolicyID" .text, opt "storagePolicyName" .text,
    req "volumePath" .text])]

end GridOperator.Kubernetes.Shape
