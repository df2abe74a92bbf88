import GridOperator.DataMap
import GridOperator.Definition.Schema
import GridOperator.HotBackup

/-!
# Definitions of the operator's resources

What the platform is told of the kinds of resources that the operator adds.
-/

namespace GridOperator

/-- A kind of resources. -/
structure Definition where
  kind : String
  plural : String
  singular : String
  shortName : String
  spec : Schema
  /-- The schema of the status, if there is one that is written apart. -/
  status : Option Schema

namespace Definition

/-! ## Schemas of specifications -/

def agent : Schema :=
  let agent : Agent := {}
  .describe "Image of the backup/restore agent running next to the members." <|
    .default agent.toJson <| .record [] [
      ("repository", .default (.str agent.repository) .text),
      ("version", .default (.str agent.version) .text)]

def exposure : Schema :=
  let exposure : Exposure := {}
  .record [] [
    ("type", .default (.str exposure.type.name) <|
      .choice ([ExposureType.unisocket, .smart].map (·.name))),
    ("discoveryServiceType",
      .describe "Service type of the discovery service: NodePort or LoadBalancer" <|
        .default (.str exposure.discoveryServiceType) .text),
    ("memberAccess", .describe "How members are reached from outside; only valid for Smart" <|
      .nullable <| .choice <|
        [MemberAccess.nodePortExternalIP, .nodePortNodeName, .loadBalancer].map (·.name))]

def claim : Schema := .record [] [
  ("accessModes", .default (.strings ["ReadWriteOnce"]) (.list .text)),
  ("requestStorage", .nullable .text),
  ("storageClassName", .nullable .text)]

def restore : Schema := .record [] [
  ("bucketURI",
    .describe "Source of the backup, e.g. s3://bucket/path, gs://bucket, azblob://container" <|
      .default (.str "") .text),
  ("secret", .describe "Secret with the storage provider credentials" <| .default (.str "") .text)]

def persistence : Schema :=
  let persistence : Persistence := {}
  .record [] [
    ("baseDir", .describe "Persistence is enabled when the base directory is set" <|
      .default (.str persistence.baseDir) .text),
    ("clusterDataRecoveryPolicy", .default (.str persistence.recoveryPolicy.name) <| .choice <|
      [RecoveryPolicy.fullRecoveryOnly, .partialRecoveryMostRecent,
        .partialRecoveryMostComplete].map (·.name)),
    ("autoForceStart",
      .describe "Force-start members stuck in a crash loop while the cluster is passive" <|
        .default (.bool persistence.autoForceStart) .flag),
    ("dataRecoveryTimeout", .describe "Overrides validation and data-load timeouts, in seconds" <|
      .default (.ofInt32 persistence.dataRecoveryTimeout) .int32),
    ("backupType", .default (.str persistence.backupType.name) <|
      .choice ([BackupType.disk, .external].map (·.name))),
    ("hostPath", .describe "Node directory used instead of provisioned volumes" <|
      .default (.str persistence.hostPath) .text),
    ("pvc", .nullable claim),
    ("restore", .nullable restore)]

def scheduling : Schema := .record [] [
  ("affinity", .nullable .platformObject),
  ("tolerations", .nullable (.list .platformObject)),
  ("nodeSelector", .nullable (.map .text)),
  ("topologySpreadConstraints", .nullable (.list .platformObject))]

def clusterSpec : Schema :=
  let spec : ClusterSpec := {}
  .record [] [
    ("clusterSize", .describe "Number of members in the cluster" <|
      .default (.ofInt32 spec.clusterSize) .int32),
    ("repository", .default (.str spec.repository) .text),
    ("version", .default (.str spec.version) .text),
    ("imagePullPolicy", .nullable .text),
    ("imagePullSecrets", .nullable (.list .platformObject)),
    ("licenseKeySecret",
      .describe "Name of the Secret holding the enterprise license under `license-key`" <|
        .default (.str spec.licenseKeySecret) .text),
    ("clusterName", .default (.str spec.clusterName) .text),
    ("exposeExternally", .nullable exposure),
    ("persistence", .nullable persistence),
    ("scheduling", .nullable scheduling),
    ("resources", .nullable .platformObject),
    ("agent", agent)]

def backupSpec : Schema := .record
  [("hazelcastResourceName",
    .describe "Name of the Hazelcast resource in the same namespace" .text)]
  [("schedule", .describe "Cron expression; when empty the backup runs once" <|
    .default (.str "") .text),
    ("secret", .describe "Secret with the external storage credentials" <|
      .default (.str "") .text)]

def eviction : Schema :=
  let eviction : Eviction := {}
  .default eviction.toJson <| .record [] [
    ("evictionPolicy", .default (.str eviction.policy) .text),
    ("maxSize", .default (.ofInt32 eviction.maxSize) .int32),
    ("maxSizePolicy", .default (.str eviction.maxSizePolicy) .text)]

def index : Schema := .record
  [("type", .describe "SORTED, HASH or BITMAP" .text)]
  [("name", .nullable .text),
    ("attributes", .default (.arr []) (.list .text)),
    ("bitmapIndexOptions", .nullable <|
      .record [("uniqueKey", .text), ("uniqueKeyTransition", .text)] [])]

def mapSpec : Schema := .record
  [("hazelcastResourceName", .text)]
  [("name", .describe "Map name inside the cluster; defaults to the resource name" <|
    .nullable .text),
    ("backupCount", .default (.ofInt32 1) .int32),
    ("timeToLiveSeconds", .default (.ofInt32 0) .int32),
    ("eviction", eviction),
    ("indexes", .default (.arr []) (.list index)),
    ("persistenceEnabled", .default (.bool false) .flag)]

/-! ## Schemas of statuses -/

def memberStatus : Schema := .record
  [("podName", .text)]
  [("ip", .nullable .text),
    ("ready", .default (.bool false) .flag),
    ("state",
      .describe "Last cluster state reported by the member, e.g. \"ACTIVE\" or \"PASSIVE\"" <|
        .nullable .text),
    ("reason", .nullable .text),
    ("message", .nullable .text),
    ("restartCount", .default (.ofInt32 0) .int32)]

def clusterStatus : Schema := .record [] [
  ("phase", .default (.str Phase.pending.name) <|
    .choice ([Phase.pending, .running, .terminating].map (·.name))),
  ("cluster", .default (.obj [("readyMembers", .str "")]) <| .record [] [
    ("readyMembers", .describe "e.g. \"2/3\"" <| .default (.str "") .text)]),
  ("message", .nullable .text),
  ("members", .default (.arr []) (.list memberStatus)),
  ("restore", .nullable <| .record
    [("state", .choice <|
      [RestoreState.notStarted, .inProgress, .succeeded, .failed].map (·.name))] []),
  ("externalAddresses", .default (.arr []) (.list .text))]

def mapStatus : Schema := .record [] [
  ("state", .default (.str DataMapState.pending.name) <| .choice <|
    [DataMapState.pending, .persisting, .success, .failed, .terminating].map (·.name))]

/-! ## Definitions -/

def cluster : Definition where
  kind := Cluster.kind
  plural := "hazelcasts"
  singular := "hazelcast"
  shortName := "hz"
  spec := clusterSpec
  status := some clusterStatus

def hotBackup : Definition where
  kind := HotBackup.kind
  plural := "hotbackups"
  singular := "hotbackup"
  shortName := "hb"
  spec := backupSpec
  status := none

def dataMap : Definition where
  kind := DataMap.kind
  plural := "maps"
  singular := "map"
  shortName := "hzmap"
  spec := mapSpec
  status := some mapStatus

def all : List Definition := [cluster, hotBackup, dataMap]

def group : String := "hazelcast.com"

/-- The schema of a whole resource. -/
def schema (d : Definition) : Schema :=
  let status := (d.status.map fun s => ("status", Schema.nullable s)).toList
  ("title", .str d.kind) ::
    Schema.describe ("Auto-generated derived type for " ++ d.kind ++ "Spec via `CustomResource`")
      (.record [("spec", d.spec)] status)

def version (d : Definition) : Json := .obj [
  ("name", .str "v1alpha1"),
  ("served", .bool true),
  ("storage", .bool true),
  ("schema", .obj [("openAPIV3Schema", .obj d.schema)]),
  ("additionalPrinterColumns", .arr []),
  ("subresources", .obj (d.status.map fun _ => ("status", Json.obj [])).toList)]

/-- The definition as the platform is told it. -/
def toJson (d : Definition) : Json := .obj [
  ("apiVersion", .str "apiextensions.k8s.io/v1"),
  ("kind", .str "CustomResourceDefinition"),
  ("metadata", .obj [("name", .str (d.plural ++ "." ++ group))]),
  ("spec", .obj [
    ("group", .str group),
    ("names", .obj [
      ("categories", .arr []),
      ("kind", .str d.kind),
      ("plural", .str d.plural),
      ("shortNames", .strings [d.shortName]),
      ("singular", .str d.singular)]),
    ("scope", .str "Namespaced"),
    ("versions", .arr [d.version])])]

end Definition

end GridOperator
