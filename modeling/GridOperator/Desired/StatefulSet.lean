import GridOperator.MemberConfig
import GridOperator.RestoreProvider
import GridOperator.Settings
import GridOperator.Topology

/-!
# The stateful set

`Cluster.newStatefulSet?` is the whole object, as it is made once.
`StatefulSet.sync` brings the part of it that may change in line with the
cluster; claims and agents stay as they were made.
-/

namespace GridOperator

open Kubernetes

namespace Cluster

/-- The user that stands for nobody. -/
def nobody : Int := 65534

/-! ## Containers -/

def httpProbe (path : String) (port initialDelay : Int) : Probe where
  httpGet := some { path := some path, port := .int port, scheme := some "HTTP" }
  initialDelaySeconds := some initialDelay
  timeoutSeconds := some 10
  periodSeconds := some 10
  successThreshold := some 1
  failureThreshold := some 10

def dataMount (p : Persistence) : VolumeMount where
  name := Names.dataVolume
  mountPath := p.baseDir

def memberMounts (c : Cluster) : List VolumeMount :=
  { name := Names.configVolume, mountPath := Names.configDir }
    :: (c.spec.enabledPersistence.map dataMount).toList

/-- What a member may do. Members with persistence write to their own file system. -/
def memberSecurity (c : Cluster) : SecurityContext where
  runAsNonRoot := some true
  runAsUser := some nobody
  privileged := some false
  readOnlyRootFilesystem := some !c.spec.persistenceEnabled
  allowPrivilegeEscalation := some false
  dropped := some ["ALL"]

def memberContainer (c : Cluster) : Container :=
  let probe := httpProbe "/hazelcast/health/node-state" Names.memberPortNumber 0
  { name := Names.member
    image := some c.spec.image
    ports := some [{
      containerPort := Names.memberPortNumber
      name := some Names.member
      protocol := some "TCP" }]
    livenessProbe := some probe
    readinessProbe := some probe
    securityContext := some c.memberSecurity
    volumeMounts := some c.memberMounts }

/-- Rights for directories of the node, which belong to its root. -/
def hostPathSecurity (platform : Platform) (s : SecurityContext) : SecurityContext :=
  let s := { s with runAsNonRoot := some false, runAsUser := some 0 }
  if platform = .openShift then
    { s with privileged := some true, allowPrivilegeEscalation := some true }
  else s

def backupAgentContainer (c : Cluster) (p : Persistence) : Container :=
  let probe := httpProbe "/health" Names.agentPortNumber 10
  { name := Names.backupAgent
    image := some c.spec.agent.image
    ports := some [{
      containerPort := Names.agentPortNumber
      name := some Names.backupAgent
      protocol := some "TCP" }]
    args := some ["backup"]
    livenessProbe := some probe
    readinessProbe := some probe
    volumeMounts := some [dataMount p] }

def restoreAgentContainer (c : Cluster) (p : Persistence) (r : Restore)
    (provider : RestoreProvider) : Container where
  name := Names.restoreAgent
  image := some c.spec.agent.image
  args := some ["restore"]
  env := some <| provider.credentials r.secret ++ [
    { name := "RESTORE_BUCKET", value := some r.bucketURI },
    { name := "RESTORE_DESTINATION", value := some p.baseDir },
    { name := "RESTORE_HOSTNAME", valueFrom := some { fieldPath := some "metadata.name" } }]
  volumeMounts := some (dataMount p :: provider.mounts)

/-! ## Volumes -/

def configVolume (c : Cluster) : Volume where
  name := Names.configVolume
  configMap := some c.name

def hostPathVolume (p : Persistence) : Volume where
  name := Names.dataVolume
  hostPath := some { path := p.hostPath, type := some "DirectoryOrCreate" }

def dataClaim (c : Cluster) (p : Persistence) : Claim :=
  let settings := p.pvc.getD {}
  { metadata := {
      name := some Names.dataVolume
      space := c.metadata.space
      labels := some c.labels }
    spec := some {
      accessModes := some <|
        if settings.accessModes.isEmpty then ["ReadWriteOnce"] else settings.accessModes
      resources := some <| .obj <| (settings.requestStorage.map fun q =>
        ("requests", Json.obj [("storage", .str q)])).toList
      storageClassName := settings.storageClassName } }

/-! ## The part that may change -/

/-- The environment that members run in. -/
def environment (c : Cluster) (settings : Settings) : List EnvVar :=
  [{ name := "JAVA_OPTS"
     value := some ("-Dhazelcast.config=" ++ Names.configDir ++ "/" ++ Names.configFile) },
    { name := "HZ_PARDOT_ID", value := some "operator" },
    { name := "HZ_PHONE_HOME_ENABLED", value := some (toString settings.phoneHome) }]
  ++ if c.spec.licenseKeySecret.isEmpty then []
    else [RestoreProvider.secretVariable Names.licenseVariable c.spec.licenseKeySecret
      Names.licenseKey]

/-- The annotations of the pods, which are replaced when one of these changes. -/
def podAnnotations (c : Cluster) : TextMap :=
  .ofEntries <|
    (c.spec.exposeExternally.filter (·.isSmart)).toList.map
      (fun e => (Names.memberAccessAnnotation, e.access.name))
    ++ [(Names.checksumAnnotation, (MemberConfig.ofCluster c).restartChecksum)]

end Cluster

namespace Kubernetes

/-- Image and settings of the container of the member. A policy that is not asked for is written as
the platform would fill it in, so that the object reads back as it was written. -/
def Container.sync (c : Cluster) (settings : Settings) (m : Container) : Container :=
  { m with
    image := some c.spec.image
    imagePullPolicy := some (c.spec.imagePullPolicy.getD "IfNotPresent")
    env := some (c.environment settings)
    resources := some (c.spec.resources.getD (.obj [])) }

/-- Placement and pull secrets of the pods; their first container is the member. -/
def PodSpec.sync (c : Cluster) (settings : Settings) (p : PodSpec) : PodSpec :=
  let scheduling := c.spec.scheduling.getD {}
  { p with
    imagePullSecrets := c.spec.imagePullSecrets
    affinity := scheduling.affinity
    tolerations := scheduling.tolerations
    nodeSelector := scheduling.nodeSelector
    topologySpreadConstraints := scheduling.topologySpreadConstraints
    containers := match p.containers with
      | [] => [c.memberContainer.sync c settings]
      | m :: ms => m.sync c settings :: ms }

def PodTemplate.sync (c : Cluster) (settings : Settings) (t : PodTemplate) : PodTemplate where
  metadata := some { t.metadata.getD {} with annotations := some c.podAnnotations }
  spec := some ((t.spec.getD .empty).sync c settings)

/-- `s` in line with the cluster where it may change. -/
def StatefulSet.sync (c : Cluster) (settings : Settings) (s : StatefulSet) : StatefulSet :=
  let spec := s.spec.getD {}
  { s with
    metadata := s.metadata.annotate Names.topologyAnnotation (Topology.desired c).render
    spec := some { spec with
      replicas := some c.spec.clusterSize.toInt
      template := spec.template.sync c settings } }

end Kubernetes

namespace Cluster

/-! ## The whole object -/

/-- The pods of a cluster without persistence. -/
def basicPodSpec (c : Cluster) : PodSpec where
  containers := [c.memberContainer]
  volumes := some [c.configVolume]
  serviceAccountName := some c.name
  securityContext := some {
    fsGroup := some nobody
    runAsNonRoot := some true
    runAsUser := some nobody }
  terminationGracePeriodSeconds := some 600

/-- Gives the pods a place to keep data on the node, unless it is claimed. -/
def withHostPath (platform : Platform) (p : Persistence) (pod : PodSpec) : PodSpec :=
  if p.usesHostPath then
    { pod with
      volumes := some (pod.volumes.getD [] ++ [hostPathVolume p])
      containers := match pod.containers with
        | m :: ms =>
          { m with securityContext := some (hostPathSecurity platform (m.securityContext.getD {})) }
            :: ms
        | [] => [] }
  else pod

/-- Puts an agent beside the member if backups leave the volumes. -/
def withBackupAgent (c : Cluster) (p : Persistence) (pod : PodSpec) : PodSpec :=
  if p.isExternal then { pod with containers := pod.containers ++ [c.backupAgentContainer p] }
  else pod

/-- Lets an agent fetch the data before the member starts, if a restore is asked for. -/
def withRestoreAgent? (c : Cluster) (p : Persistence) (pod : PodSpec) : Except Error PodSpec := do
  match p.restore with
  | none => return pod
  | some r =>
    let provider ← r.provider
    return { pod with
      volumes := some (pod.volumes.getD [] ++ provider.volumes r.secret)
      initContainers := some <|
        c.restoreAgentContainer p r provider :: pod.initContainers.getD [] }

def podSpec? (c : Cluster) (platform : Platform) : Except Error PodSpec :=
  match c.spec.enabledPersistence with
  | none => .ok c.basicPodSpec
  | some p => c.withRestoreAgent? p (c.withBackupAgent p (withHostPath platform p c.basicPodSpec))

/-- The claims for data, if the data is not kept on the node. -/
def claims (c : Cluster) : Option (List Claim) :=
  (c.spec.enabledPersistence.filter (!·.usesHostPath)).map fun p => [c.dataClaim p]

def newStatefulSet? (c : Cluster) (settings : Settings) : Except Error StatefulSet := do
  let pod ← c.podSpec? settings.platform
  let made : StatefulSet := {
    metadata := c.ownedMetadata
    spec := some {
      selector := { matchLabels := some c.labels }
      serviceName := some c.name
      template := {
        metadata := some { labels := some c.labels }
        spec := some pod }
      volumeClaimTemplates := c.claims } }
  return made.sync c settings

end Cluster

end GridOperator
