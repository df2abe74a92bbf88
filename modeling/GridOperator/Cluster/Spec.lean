import GridOperator.Json.Record
import GridOperator.Kubernetes.Shape.Scheduling
import GridOperator.Kubernetes.TextMap
import GridOperator.Text.Split

/-!
# What is asked of a cluster

`ClusterSpec` is the part of a cluster resource that its users write. Each
record comes with its reader (`ofJson?`) and its JSON (`toJson`), which names
every field, in the order of declaration.
-/

namespace GridOperator

open Kubernetes

/-! ## Exposure to clients outside the platform -/

inductive ExposureType where
  /-- One service; clients talk to a single member. -/
  | unisocket
  /-- One service per member; clients talk to the member that owns the data. -/
  | smart
  deriving DecidableEq

namespace ExposureType

def name : ExposureType → String
  | unisocket => "Unisocket"
  | smart => "Smart"

def ofJson? : Json.Decoder ExposureType :=
  Json.named [("Unisocket", unisocket), ("Smart", smart)]

end ExposureType

/-- How a member is reached from outside. -/
inductive MemberAccess where
  | nodePortExternalIP
  | nodePortNodeName
  | loadBalancer
  deriving DecidableEq

namespace MemberAccess

def name : MemberAccess → String
  | nodePortExternalIP => "NodePortExternalIP"
  | nodePortNodeName => "NodePortNodeName"
  | loadBalancer => "LoadBalancer"

def ofJson? : Json.Decoder MemberAccess :=
  Json.named [("NodePortExternalIP", nodePortExternalIP), ("NodePortNodeName", nodePortNodeName),
    ("LoadBalancer", loadBalancer)]

/-- The type of the services in front of single members. -/
def serviceType : MemberAccess → String
  | loadBalancer => "LoadBalancer"
  | nodePortExternalIP | nodePortNodeName => "NodePort"

end MemberAccess

structure Exposure where
  type : ExposureType := .smart
  discoveryServiceType : String := "LoadBalancer"
  /-- Only valid for smart exposure. -/
  memberAccess : Option MemberAccess := none
  deriving DecidableEq

namespace Exposure

def ofJson? (j : Json) : Option Exposure := do
  let r ← Record.ofJson? ["type", "discoveryServiceType", "memberAccess"] j
  return {
    type := ← r.withDefault "type" ExposureType.ofJson? .smart
    discoveryServiceType := ← r.withDefault "discoveryServiceType" Json.text "LoadBalancer"
    memberAccess := ← r.optional "memberAccess" MemberAccess.ofJson? }

def toJson (e : Exposure) : Json := .obj [
  ("type", .str e.type.name),
  ("discoveryServiceType", .str e.discoveryServiceType),
  ("memberAccess", .ofOption (.str ·.name) e.memberAccess)]

def isSmart (e : Exposure) : Bool := e.type = .smart

def access (e : Exposure) : MemberAccess := e.memberAccess.getD .nodePortExternalIP

def usesNodeName (e : Exposure) : Bool := e.access = .nodePortNodeName

/-- The type of the discovery service, `LoadBalancer` when it is left empty. -/
def discoveryType (e : Exposure) : String :=
  if e.discoveryServiceType.isEmpty then "LoadBalancer" else e.discoveryServiceType

end Exposure

/-! ## Persistence -/

/-- Which data a restarting cluster insists on. -/
inductive RecoveryPolicy where
  | fullRecoveryOnly
  | partialRecoveryMostRecent
  | partialRecoveryMostComplete
  deriving DecidableEq

namespace RecoveryPolicy

def name : RecoveryPolicy → String
  | fullRecoveryOnly => "FullRecoveryOnly"
  | partialRecoveryMostRecent => "PartialRecoveryMostRecent"
  | partialRecoveryMostComplete => "PartialRecoveryMostComplete"

/-- The word for the policy in the configuration of the members. -/
def token : RecoveryPolicy → String
  | fullRecoveryOnly => "FULL_RECOVERY_ONLY"
  | partialRecoveryMostRecent => "PARTIAL_RECOVERY_MOST_RECENT"
  | partialRecoveryMostComplete => "PARTIAL_RECOVERY_MOST_COMPLETE"

/-- An unknown name means full recovery only. -/
def ofName (name : String) : RecoveryPolicy :=
  if name = "PartialRecoveryMostRecent" then partialRecoveryMostRecent
  else if name = "PartialRecoveryMostComplete" then partialRecoveryMostComplete
  else fullRecoveryOnly

def ofJson? (j : Json) : Option RecoveryPolicy := j.str?.map ofName

end RecoveryPolicy

inductive BackupType where
  /-- Backups stay on the volumes of the members. -/
  | disk
  /-- An agent beside each member ships backups to a bucket. -/
  | external
  deriving DecidableEq

namespace BackupType

def name : BackupType → String
  | disk => "Disk"
  | external => "External"

def ofJson? : Json.Decoder BackupType := Json.named [("Disk", disk), ("External", external)]

end BackupType

/-- The claim each member's data volume is made from. -/
structure ClaimSettings where
  accessModes : List String := []
  /-- The amount of storage asked for. -/
  requestStorage : Option String := none
  storageClassName : Option String := none
  deriving DecidableEq

namespace ClaimSettings

/-- An amount of a resource. -/
def quantity : Json.Decoder String := fun j => (Shape.normal? .quantity j).bind Json.str?

def ofJson? (j : Json) : Option ClaimSettings := do
  let r ← Record.ofJson? ["accessModes", "requestStorage", "storageClassName"] j
  return {
    accessModes := ← r.withDefault "accessModes" (Json.list Json.text) ["ReadWriteOnce"]
    requestStorage := ← r.optional "requestStorage" quantity
    storageClassName := ← r.optional "storageClassName" Json.text }

def toJson (c : ClaimSettings) : Json := .obj [
  ("accessModes", .strings c.accessModes),
  ("requestStorage", .ofOption .str c.requestStorage),
  ("storageClassName", .ofOption .str c.storageClassName)]

end ClaimSettings

/-- A backup that new members start from. -/
structure Restore where
  bucketURI : String := ""
  /-- The secret with the credentials of the storage provider. -/
  secret : String := ""
  deriving DecidableEq

namespace Restore

def ofJson? (j : Json) : Option Restore := do
  let r ← Record.ofJson? ["bucketURI", "secret"] j
  return {
    bucketURI := ← r.withDefault "bucketURI" Json.text ""
    secret := ← r.withDefault "secret" Json.text "" }

def toJson (r : Restore) : Json :=
  .obj [("bucketURI", .str r.bucketURI), ("secret", .str r.secret)]

end Restore

structure Persistence where
  /-- Where the members keep their data; persistence is enabled when it is set. -/
  baseDir : String := ""
  recoveryPolicy : RecoveryPolicy := .fullRecoveryOnly
  /-- Whether members stuck in a crash loop may be started without their data. -/
  autoForceStart : Bool := false
  /-- Replaces the timeouts for validating and loading data, in seconds; 0 keeps them. -/
  dataRecoveryTimeout : Int32 := 0
  backupType : BackupType := .disk
  /-- A directory of the node, used in place of claimed storage. -/
  hostPath : String := ""
  pvc : Option ClaimSettings := none
  restore : Option Restore := none
  deriving DecidableEq

namespace Persistence

def fields : List String :=
  ["baseDir", "clusterDataRecoveryPolicy", "autoForceStart", "dataRecoveryTimeout", "backupType",
    "hostPath", "pvc", "restore"]

def ofJson? (j : Json) : Option Persistence := do
  let r ← Record.ofJson? fields j
  return {
    baseDir := ← r.withDefault "baseDir" Json.text ""
    recoveryPolicy :=
      ← r.withDefault "clusterDataRecoveryPolicy" RecoveryPolicy.ofJson? .fullRecoveryOnly
    autoForceStart := ← r.withDefault "autoForceStart" Json.flag false
    dataRecoveryTimeout := ← r.withDefault "dataRecoveryTimeout" Json.int32 0
    backupType := ← r.withDefault "backupType" BackupType.ofJson? .disk
    hostPath := ← r.withDefault "hostPath" Json.text ""
    pvc := ← r.optional "pvc" ClaimSettings.ofJson?
    restore := ← r.optional "restore" Restore.ofJson? }

def toJson (p : Persistence) : Json := .obj [
  ("baseDir", .str p.baseDir),
  ("clusterDataRecoveryPolicy", .str p.recoveryPolicy.name),
  ("autoForceStart", .bool p.autoForceStart),
  ("dataRecoveryTimeout", .ofInt32 p.dataRecoveryTimeout),
  ("backupType", .str p.backupType.name),
  ("hostPath", .str p.hostPath),
  ("pvc", .ofOption ClaimSettings.toJson p.pvc),
  ("restore", .ofOption Restore.toJson p.restore)]

def isEnabled (p : Persistence) : Bool := !p.baseDir.isEmpty

def usesHostPath (p : Persistence) : Bool := !p.hostPath.isEmpty

def isExternal (p : Persistence) : Bool := p.isEnabled && p.backupType = .external

def restoresData (p : Persistence) : Bool := p.isEnabled && p.restore.isSome

/-- Data that the members do not insist on may be removed. -/
def removesStaleData (p : Persistence) : Bool := p.recoveryPolicy ≠ .fullRecoveryOnly

end Persistence

/-! ## Placement -/

/-- Where the members may run, in the normal forms of the platform's own types. -/
structure Scheduling where
  affinity : Option Json := none
  tolerations : Option (List Json) := none
  nodeSelector : Option TextMap := none
  topologySpreadConstraints : Option (List Json) := none
  deriving DecidableEq

namespace Scheduling

def ofJson? (j : Json) : Option Scheduling := do
  let r ← Record.ofJson?
    ["affinity", "tolerations", "nodeSelector", "topologySpreadConstraints"] j
  return {
    affinity := ← r.optional "affinity" Shape.affinity.normal?
    tolerations := ← r.optional "tolerations" (Json.list Shape.toleration.normal?)
    nodeSelector := ← r.optional "nodeSelector" (Json.mapOf Json.text)
    topologySpreadConstraints :=
      ← r.optional "topologySpreadConstraints" (Json.list Shape.topologySpreadConstraint.normal?) }

def toJson (s : Scheduling) : Json := .obj [
  ("affinity", .ofOption id s.affinity),
  ("tolerations", .ofOption .arr s.tolerations),
  ("nodeSelector", .ofOption TextMap.toJson s.nodeSelector),
  ("topologySpreadConstraints", .ofOption .arr s.topologySpreadConstraints)]

end Scheduling

/-! ## The whole -/

/-- The image of the agent that runs beside the members for backups and restores. -/
structure Agent where
  repository : String := "docker.io/hazelcast/platform-operator-agent"
  version : String := "0.1.0"
  deriving DecidableEq

namespace Agent

def ofJson? (j : Json) : Option Agent := do
  let r ← Record.ofJson? ["repository", "version"] j
  return {
    repository :=
      ← r.withDefault "repository" Json.text "docker.io/hazelcast/platform-operator-agent"
    version := ← r.withDefault "version" Json.text "0.1.0" }

def toJson (a : Agent) : Json :=
  .obj [("repository", .str a.repository), ("version", .str a.version)]

def image (a : Agent) : String := a.repository ++ ":" ++ a.version

end Agent

structure ClusterSpec where
  clusterSize : Int32 := 3
  repository : String := "docker.io/hazelcast/hazelcast"
  version : String := "5.1.2"
  imagePullPolicy : Option String := none
  imagePullSecrets : Option (List Json) := none
  /-- The secret with the licence of the enterprise edition. -/
  licenseKeySecret : String := ""
  clusterName : String := "dev"
  exposeExternally : Option Exposure := none
  persistence : Option Persistence := none
  scheduling : Option Scheduling := none
  /-- Limits and requests of the members, in normal form. -/
  resources : Option Json := none
  agent : Agent := {}
  deriving DecidableEq

namespace ClusterSpec

def fields : List String :=
  ["clusterSize", "repository", "version", "imagePullPolicy", "imagePullSecrets",
    "licenseKeySecret", "clusterName", "exposeExternally", "persistence", "scheduling",
    "resources", "agent"]

def ofJson? (j : Json) : Option ClusterSpec := do
  let r ← Record.ofJson? fields j
  return {
    clusterSize := ← r.withDefault "clusterSize" Json.int32 3
    repository := ← r.withDefault "repository" Json.text "docker.io/hazelcast/hazelcast"
    version := ← r.withDefault "version" Json.text "5.1.2"
    imagePullPolicy := ← r.optional "imagePullPolicy" Json.text
    imagePullSecrets := ← r.optional "imagePullSecrets" (Json.list Shape.localReference.normal?)
    licenseKeySecret := ← r.withDefault "licenseKeySecret" Json.text ""
    clusterName := ← r.withDefault "clusterName" Json.text "dev"
    exposeExternally := ← r.optional "exposeExternally" Exposure.ofJson?
    persistence := ← r.optional "persistence" Persistence.ofJson?
    scheduling := ← r.optional "scheduling" Scheduling.ofJson?
    resources := ← r.optional "resources" Shape.resourceRequirements.normal?
    agent := ← r.withDefault "agent" Agent.ofJson? {} }

def toJson (s : ClusterSpec) : Json := .obj [
  ("clusterSize", .ofInt32 s.clusterSize),
  ("repository", .str s.repository),
  ("version", .str s.version),
  ("imagePullPolicy", .ofOption .str s.imagePullPolicy),
  ("imagePullSecrets", .ofOption .arr s.imagePullSecrets),
  ("licenseKeySecret", .str s.licenseKeySecret),
  ("clusterName", .str s.clusterName),
  ("exposeExternally", .ofOption Exposure.toJson s.exposeExternally),
  ("persistence", .ofOption Persistence.toJson s.persistence),
  ("scheduling", .ofOption Scheduling.toJson s.scheduling),
  ("resources", .ofOption id s.resources),
  ("agent", s.agent.toJson)]

/-- The number of members asked for; a negative size asks for none. -/
def memberCount (s : ClusterSpec) : Nat := s.clusterSize.toInt.toNat

def isSmart (s : ClusterSpec) : Bool := s.exposeExternally.any (·.isSmart)

/-- The persistence settings, if they enable it. -/
def enabledPersistence (s : ClusterSpec) : Option Persistence :=
  s.persistence.filter (·.isEnabled)

def persistenceEnabled (s : ClusterSpec) : Bool := s.enabledPersistence.isSome

def persistenceExternal (s : ClusterSpec) : Bool := s.persistence.any (·.isExternal)

/-- The restore asked for, which needs persistence. -/
def restore (s : ClusterSpec) : Option Restore := s.enabledPersistence.bind (·.restore)

/-- The enterprise edition is told by its repository. -/
def isEnterprise (s : ClusterSpec) : Bool :=
  Text.contains "hazelcast-enterprise".toList s.repository.toList

def image (s : ClusterSpec) : String := s.repository ++ ":" ++ s.version

end ClusterSpec

end GridOperator
