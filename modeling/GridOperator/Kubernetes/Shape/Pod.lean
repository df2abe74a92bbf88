import GridOperator.Kubernetes.Shape.Scheduling
import GridOperator.Kubernetes.Shape.Volume

/-!
# Shapes: containers and pods
-/

namespace GridOperator.Kubernetes.Shape

/-! ## Environment -/

/-- A key of a config map or a secret. -/
def keySelector : Shape := .object [req "key" .text, req "name" .text, opt "optional" .flag]

/-- All keys of a config map or a secret. -/
def environmentSource : Shape := .object [req "name" .text, opt "optional" .flag]

def envVar : Shape := .object [
  req "name" .text, opt "value" .text,
  opt "valueFrom" (.object [
    opt "configMapKeyRef" keySelector, opt "fieldRef" fieldReference,
    opt "fileKeyRef" (.object [
      req "key" .text, opt "optional" .flag, req "path" .text, req "volumeName" .text]),
    opt "resourceFieldRef" resourceReference, opt "secretKeyRef" keySelector])]

def envFrom : Shape := .object [
  opt "configMapRef" environmentSource, opt "prefix" .text, opt "secretRef" environmentSource]

/-! ## Probes and hooks -/

def execAction : Shape := .object [opt "command" texts]

def httpGetAction : Shape := .object [
  opt "host" .text,
  opt "httpHeaders" (.list (.object [req "name" .text, req "value" .text])),
  opt "path" .text, req "port" .intOrText, opt "scheme" .text]

def tcpSocketAction : Shape := .object [opt "host" .text, req "port" .intOrText]

def lifecycleHandler : Shape := .object [
  opt "exec" execAction, opt "httpGet" httpGetAction,
  opt "sleep" (.object [req "seconds" .int64]), opt "tcpSocket" tcpSocketAction]

def probe : Shape := .object [
  opt "exec" execAction, opt "failureThreshold" .int32,
  opt "grpc" (.object [req "port" .int32, opt "service" .text]), opt "httpGet" httpGetAction,
  opt "initialDelaySeconds" .int32, opt "periodSeconds" .int32, opt "successThreshold" .int32,
  opt "tcpSocket" tcpSocketAction, opt "terminationGracePeriodSeconds" .int64,
  opt "timeoutSeconds" .int32]

/-! ## Security -/

def appArmorProfile : Shape := .object [opt "localhostProfile" .text, req "type" .text]

def seLinuxOptions : Shape := .object [
  opt "level" .text, opt "role" .text, opt "type" .text, opt "user" .text]

def seccompProfile : Shape := .object [opt "localhostProfile" .text, req "type" .text]

def windowsOptions : Shape := .object [
  opt "gmsaCredentialSpec" .text, opt "gmsaCredentialSpecName" .text, opt "hostProcess" .flag,
  opt "runAsUserName" .text]

def securityContext : Shape := .object [
  opt "allowPrivilegeEscalation" .flag, opt "appArmorProfile" appArmorProfile,
  opt "capabilities" (.object [opt "add" texts, opt "drop" texts]), opt "privileged" .flag,
  opt "procMount" .text, opt "readOnlyRootFilesystem" .flag, opt "runAsGroup" .int64,
  opt "runAsNonRoot" .flag, opt "runAsUser" .int64, opt "seLinuxOptions" seLinuxOptions,
  opt "seccompProfile" seccompProfile, opt "windowsOptions" windowsOptions]

def podSecurityContext : Shape := .object [
  opt "appArmorProfile" appArmorProfile, opt "fsGroup" .int64,
  opt "fsGroupChangePolicy" .text, opt "runAsGroup" .int64, opt "runAsNonRoot" .flag,
  opt "runAsUser" .int64, opt "seLinuxChangePolicy" .text,
  opt "seLinuxOptions" seLinuxOptions, opt "seccompProfile" seccompProfile,
  opt "supplementalGroups" (.list .int64), opt "supplementalGroupsPolicy" .text,
  opt "sysctls" (.list (.object [req "name" .text, req "value" .text])),
  opt "windowsOptions" windowsOptions]

/-! ## Containers -/

def containerPort : Shape := .object [
  req "containerPort" .int32, opt "hostIP" .text, opt "hostPort" .int32, opt "name" .text,
  opt "protocol" .text]

def volumeMount : Shape := .object [
  req "mountPath" .text, opt "mountPropagation" .text, req "name" .text, opt "readOnly" .flag,
  opt "recursiveReadOnly" .text, opt "subPath" .text, opt "subPathExpr" .text]

/-- The fields of every kind of container up to `tty`. -/
def containerFields : List Field := [
  opt "args" texts, opt "command" texts, opt "env" (.list envVar), opt "envFrom" (.list envFrom),
  opt "image" .text, opt "imagePullPolicy" .text,
  opt "lifecycle" (.object [
    opt "postStart" lifecycleHandler, opt "preStop" lifecycleHandler, opt "stopSignal" .text]),
  opt "livenessProbe" probe, req "name" .text, opt "ports" (.list containerPort),
  opt "readinessProbe" probe,
  opt "resizePolicy" (.list (.object [req "resourceName" .text, req "restartPolicy" .text])),
  opt "resources" resourceRequirements, opt "restartPolicy" .text,
  opt "restartPolicyRules" (.list (.object [
    req "action" .text,
    opt "exitCodes" (.object [req "operator" .text, opt "values" (.list .int32)])])),
  opt "securityContext" securityContext, opt "startupProbe" probe, opt "stdin" .flag,
  opt "stdinOnce" .flag]

def containerLastFields : List Field := [
  opt "terminationMessagePath" .text, opt "terminationMessagePolicy" .text, opt "tty" .flag,
  opt "volumeDevices" (.list (.object [req "devicePath" .text, req "name" .text])),
  opt "volumeMounts" (.list volumeMount), opt "workingDir" .text]

def container : Shape := .object (containerFields ++ containerLastFields)

def ephemeralContainer : Shape :=
  .object (containerFields ++ opt "targetContainerName" .text :: containerLastFields)

/-! ## Pods -/

def podSpec : Shape := .object [
  opt "activeDeadlineSeconds" .int64, opt "affinity" affinity,
  opt "automountServiceAccountToken" .flag, req "containers" (.list container),
  opt "dnsConfig" (.object [
    opt "nameservers" texts,
    opt "options" (.list (.object [opt "name" .text, opt "value" .text])),
    opt "searches" texts]),
  opt "dnsPolicy" .text, opt "enableServiceLinks" .flag,
  opt "ephemeralContainers" (.list ephemeralContainer),
  opt "hostAliases" (.list (.object [opt "hostnames" texts, req "ip" .text])),
  opt "hostIPC" .flag, opt "hostNetwork" .flag, opt "hostPID" .flag, opt "hostUsers" .flag,
  opt "hostname" .text, opt "hostnameOverride" .text,
  opt "imagePullSecrets" (.list localReference), opt "initContainers" (.list container),
  opt "nodeName" .text, opt "nodeSelector" textMap, opt "os" (.object [req "name" .text]),
  opt "overhead" quantities, opt "preemptionPolicy" .text, opt "priority" .int32,
  opt "priorityClassName" .text,
  opt "readinessGates" (.list (.object [req "conditionType" .text])),
  opt "resourceClaims" (.list (.object [
    req "name" .text, opt "resourceClaimName" .text, opt "resourceClaimTemplateName" .text])),
  opt "resources" resourceRequirements, opt "restartPolicy" .text,
  opt "runtimeClassName" .text, opt "schedulerName" .text,
  opt "schedulingGates" (.list (.object [req "name" .text])),
  opt "securityContext" podSecurityContext, opt "serviceAccount" .text,
  opt "serviceAccountName" .text, opt "setHostnameAsFQDN" .flag,
  opt "shareProcessNamespace" .flag, opt "subdomain" .text,
  opt "terminationGracePeriodSeconds" .int64, opt "tolerations" (.list toleration),
  opt "topologySpreadConstraints" (.list topologySpreadConstraint),
  opt "volumes" (.list volume)]

def podTemplate : Shape := .object [opt "metadata" objectMeta, opt "spec" podSpec]

def containerState : Shape := .object [
  opt "running" (.object [opt "startedAt" .time]),
  opt "terminated" (.object [
    opt "containerID" .text, req "exitCode" .int32, opt "finishedAt" .time,
    opt "message" .text, opt "reason" .text, opt "signal" .int32, opt "startedAt" .time]),
  opt "waiting" (.object [opt "message" .text, opt "reason" .text])]

def containerStatus : Shape := .object [
  opt "allocatedResources" quantities,
  opt "allocatedResourcesStatus" (.list (.object [
    req "name" .text,
    opt "resources" (.list (.object [opt "health" .text, req "resourceID" .text]))])),
  opt "containerID" .text, req "image" .text, req "imageID" .text,
  opt "lastState" containerState, req "name" .text, req "ready" .flag,
  opt "resources" resourceRequirements, req "restartCount" .int32, opt "started" .flag,
  opt "state" containerState, opt "stopSignal" .text,
  opt "user" (.object [
    opt "linux" (.object [
      req "gid" .int64, opt "supplementalGroups" (.list .int64), req "uid" .int64])]),
  opt "volumeMounts" (.list (.object [
    req "mountPath" .text, req "name" .text, opt "readOnly" .flag,
    opt "recursiveReadOnly" .text]))]

def podStatus : Shape := .object [
  opt "conditions" (.list (.object [
    opt "lastProbeTime" .time, opt "lastTransitionTime" .time, opt "message" .text,
    opt "observedGeneration" .int64, opt "reason" .text, req "status" .text,
    req "type" .text])),
  opt "containerStatuses" (.list containerStatus),
  opt "ephemeralContainerStatuses" (.list containerStatus),
  opt "extendedResourceClaimStatus" (.object [
    req "requestMappings" (.list (.object [
      req "containerName" .text, req "requestName" .text, req "resourceName" .text])),
    req "resourceClaimName" .text]),
  opt "hostIP" .text, opt "hostIPs" (.list (.object [req "ip" .text])),
  opt "initContainerStatuses" (.list containerStatus), opt "message" .text,
  opt "nominatedNodeName" .text, opt "observedGeneration" .int64, opt "phase" .text,
  opt "podIP" .text, opt "podIPs" (.list (.object [req "ip" .text])), opt "qosClass" .text,
  opt "reason" .text, opt "resize" .text,
  opt "resourceClaimStatuses" (.list (.object [
    req "name" .text, opt "resourceClaimName" .text])),
  opt "startTime" .time]

def pod : Shape := .resource "v1" "Pod" [
  req "metadata" objectMeta, opt "spec" podSpec, opt "status" podStatus]

end GridOperator.Kubernetes.Shape
