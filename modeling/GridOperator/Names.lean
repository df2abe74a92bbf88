/-!
# Names that the operator's objects share

Labels, annotations, ports, volumes and files: the words by which one object
refers to another. The names that members, agents and storage providers expect
stand beside them.
-/

namespace GridOperator.Names

def operator : String := "hazelcast-platform-operator"

/-- Who the platform is told to be the writer of an object. -/
def writer : String := "hazelcast-operator"

/-- Holds back the removal of a resource until the operator has cleaned up after it. -/
def finalizer : String := "hazelcast.com/finalizer"

/-! ## Containers and ports -/

def member : String := "hazelcast"
def backupAgent : String := "backup-agent"
def restoreAgent : String := "restore-agent"

def memberPort : String := "hazelcast-port"
def backupAgentPort : String := "backup-agent-port"
def memberPortNumber : Int := 5701
def agentPortNumber : Int := 8080

/-! ## Volumes and files -/

def configVolume : String := "hazelcast-storage"
def configDir : String := "/data/hazelcast"
def configFile : String := "hazelcast.yaml"
def dataVolume : String := "hot-restart-persistence"

def licenseKey : String := "license-key"
def licenseVariable : String := "HZ_LICENSEKEY"

/-! ## Labels -/

def applicationLabel : String := "app.kubernetes.io/name"
def instanceLabel : String := "app.kubernetes.io/instance"
def managedByLabel : String := "app.kubernetes.io/managed-by"
def podNameLabel : String := "statefulset.kubernetes.io/pod-name"
def perPodLabel : String := "hazelcast.com/service-per-pod"
def yes : String := "true"

/-! ## Annotations -/

def lastSpecAnnotation : String := "hazelcast.com/last-successful-spec"
def topologyAnnotation : String := "hazelcast.com/last-converged-topology"
def memberAccessAnnotation : String := "hazelcast.com/expose-externally-member-access"
def checksumAnnotation : String :=
  "hazelcast.com/current-hazelcast-config-forcing-restart-checksum"

/-- Why a container waits that keeps ending soon after its start. -/
def crashLoop : String := "CrashLoopBackOff"

end GridOperator.Names
