import GridOperator.Checksum
import GridOperator.DataMap
import GridOperator.Names
import GridOperator.Yaml.Writer

/-!
# The configuration of the members

`MemberConfig` is what the operator says in the file that members read at their
start: `MemberConfig.ofCluster` takes it from the specification of a cluster, and
`withMaps` adds maps. The part of it whose change needs a restart
(`forcingRestart`) is watched by its checksum.
-/

namespace GridOperator

/-- How members find each other. -/
structure Discovery where
  enabled : Bool := false
  serviceName : String := ""
  usesNodeName : Bool := false
  /-- Whether each member has a service of its own. -/
  perPod : Bool := false
  deriving DecidableEq

/-- Where and how members keep their data. Timeouts are in seconds. -/
structure Storage where
  baseDir : String
  backupDir : String
  validationTimeout : Int32
  loadTimeout : Int32
  recoveryPolicy : RecoveryPolicy
  removesStaleData : Bool
  deriving DecidableEq

structure MapIndex where
  name : String
  type : String
  attributes : List String
  bitmapOptions : Option BitmapOptions
  deriving DecidableEq

structure MapConfig where
  backupCount : Int32
  timeToLiveSeconds : Int32
  eviction : Eviction
  indexes : List MapIndex
  persistent : Bool
  deriving DecidableEq

structure MemberConfig where
  /-- Whether the members run jobs. -/
  jet : Bool := false
  /-- Whether the members can be asked about their health and told what to do. -/
  restApi : Bool := false
  discovery : Discovery := {}
  clusterName : String := ""
  storage : Option Storage := none
  maps : Table String MapConfig := []
  deriving DecidableEq

namespace Storage

def ofPersistence (p : Persistence) : Storage where
  baseDir := p.baseDir
  backupDir := p.baseDir ++ "/hot-backup"
  validationTimeout := if p.dataRecoveryTimeout = 0 then 120 else p.dataRecoveryTimeout
  loadTimeout := if p.dataRecoveryTimeout = 0 then 900 else p.dataRecoveryTimeout
  recoveryPolicy := p.recoveryPolicy
  removesStaleData := p.removesStaleData

end Storage

namespace MapConfig

def ofSpec (s : DataMapSpec) : MapConfig where
  backupCount := s.backupCount
  timeToLiveSeconds := s.timeToLiveSeconds
  eviction := s.eviction
  indexes := s.indexes.map fun i => ⟨i.name.getD "", i.type, i.attributes, i.bitmapOptions⟩
  persistent := s.persistenceEnabled

end MapConfig

namespace MemberConfig

/-- The configuration of a cluster, without maps. -/
def ofCluster (c : Cluster) : MemberConfig where
  jet := true
  restApi := true
  discovery := {
    enabled := true
    serviceName := c.name
    usesNodeName := c.spec.exposeExternally.any (·.usesNodeName)
    perPod := c.spec.isSmart }
  clusterName := c.spec.clusterName
  storage := c.spec.enabledPersistence.map Storage.ofPersistence

/-- The configuration with maps, of which the last one of a name counts. -/
def withMaps (config : MemberConfig) (maps : List (String × DataMapSpec)) : MemberConfig :=
  { config with
    maps := maps.foldl (fun t m => t.set m.1 (MapConfig.ofSpec m.2)) config.maps }

/-- The part whose change needs a restart of the members. -/
def forcingRestart (config : MemberConfig) : MemberConfig where
  discovery := {
    usesNodeName := config.discovery.usesNodeName
    perPod := config.discovery.perPod }
  clusterName := config.clusterName

/-! ## The file -/

end MemberConfig

/-- An entry that is only written when it says yes. -/
def ifSet (b : Bool) : Option Yaml := if b then some (.bool true) else none

def Yaml.ofInt32 (n : Int32) : Yaml := .int n.toInt

def Discovery.toYaml (d : Discovery) : Yaml :=
  .ofSome [("enabled", ifSet d.enabled), ("service-name", Yaml.nonempty d.serviceName),
    ("use-node-name-as-external-address", ifSet d.usesNodeName),
    ("service-per-pod-label-name", if d.perPod then some (.str Names.perPodLabel) else none),
    ("service-per-pod-label-value", if d.perPod then some (.str Names.yes) else none)]

def Storage.toYaml (s : Storage) : Yaml := .map [
  ("enabled", .bool true),
  ("base-dir", .str s.baseDir),
  ("backup-dir", .str s.backupDir),
  ("parallelism", .int 1),
  ("validation-timeout-seconds", .ofInt32 s.validationTimeout),
  ("data-load-timeout-seconds", .ofInt32 s.loadTimeout),
  ("cluster-data-recovery-policy", .str s.recoveryPolicy.token),
  ("auto-remove-stale-data", .bool s.removesStaleData)]

def MapIndex.toYaml (i : MapIndex) : Yaml :=
  .ofSome [("name", Yaml.nonempty i.name), ("type", some (.str i.type)),
    ("attributes", some (.seq (i.attributes.map .str))),
    ("bitmap-index-options", i.bitmapOptions.map fun b => .map [
      ("unique-key", .str b.uniqueKey),
      ("unique-key-transformation", .str b.uniqueKeyTransition)])]

def MapConfig.toYaml (m : MapConfig) : Yaml :=
  .ofSome [("backup-count", some (.ofInt32 m.backupCount)), ("async-backup-count", some (.int 0)),
    ("time-to-live-seconds", some (.ofInt32 m.timeToLiveSeconds)),
    ("max-idle-seconds", some (.int 0)),
    ("eviction", some <| .ofSome [
      ("size", some (.ofInt32 m.eviction.maxSize)),
      ("max-size-policy", Yaml.nonempty m.eviction.maxSizePolicy),
      ("eviction-policy", Yaml.nonempty m.eviction.policy)]),
    ("read-backup-data", some (.bool false)), ("in-memory-format", some (.str "BINARY")),
    ("statistics-enabled", some (.bool true)),
    ("indexes", if m.indexes.isEmpty then none else some (.seq (m.indexes.map MapIndex.toYaml))),
    ("hot-restart", some (.map [("enabled", .bool m.persistent), ("fsync", .bool false)]))]

namespace MemberConfig

/-- The groups of operations that can be asked for. -/
def restApiYaml : Yaml :=
  let on : Yaml := .map [("enabled", .bool true)]
  .map [("enabled", .bool true), ("endpoint-groups",
    .map [("HEALTH_CHECK", on), ("CLUSTER_WRITE", on), ("PERSISTENCE", on)])]

def toYaml (config : MemberConfig) : Yaml :=
  .ofSome [("jet", if config.jet then some (.map [("enabled", .bool true)]) else none),
    ("network", some <| .ofSome [
      ("join", some (.map [("kubernetes", config.discovery.toYaml)])),
      ("rest-api", if config.restApi then some restApiYaml else none)]),
    ("cluster-name", Yaml.nonempty config.clusterName),
    ("persistence", config.storage.map Storage.toYaml),
    ("map", if config.maps.isEmpty then none
      else some (.map (config.maps.map fun m => (m.1, m.2.toYaml))))]

/-- The text of the file. -/
def render (config : MemberConfig) : String := Yaml.render [("hazelcast", config.toYaml)]

/-- The checksum of the part whose change needs a restart. -/
def restartChecksum (config : MemberConfig) : String :=
  toString (Checksum.ofText config.forcingRestart.render)

end MemberConfig

end GridOperator
