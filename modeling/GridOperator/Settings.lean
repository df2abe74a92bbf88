import GridOperator.Text.Number
import GridOperator.Text.Quoted
import GridOperator.Text.Split

/-!
# Settings of the operator

They come from variables of its environment, each of which may be left out.
-/

namespace GridOperator

/-- The flavour of the platform; OpenShift wants privileges to be asked for. -/
inductive Platform where
  | kubernetes
  | openShift
  deriving DecidableEq

namespace Platform

def name : Platform → String
  | kubernetes => "Kubernetes"
  | openShift => "OpenShift"

end Platform

structure Settings where
  space : String := "hazelcast-operator"
  platform : Platform := .kubernetes
  /-- Whether the members may report statistics to their maker. -/
  phoneHome : Bool := false
  /-- How long an operation of a cluster may take. -/
  timeoutSeconds : Nat := 10
  /-- The time between two looks at the schedules. -/
  tickMillis : Nat := 1000
  deriving DecidableEq

/-- What is wrong with a variable. -/
inductive SettingFault where
  | platform (value : String)
  | phoneHome (value : String)
  | number (name value : String) (fault : Text.NumberFault)
  deriving DecidableEq

namespace SettingFault

/-- The complaint and the reasons for it. -/
def texts : SettingFault → List String
  | platform value => ["unknown platform type " ++ Text.quoted value]
  | phoneHome value =>
    ["PHONE_HOME_ENABLED=" ++ Text.quoted value, "provided string was not `true` or `false`"]
  | number name value fault => [name ++ "=" ++ Text.quoted value, fault.text]

end SettingFault

namespace Settings

/-- The letters' case does not matter. -/
def readPlatform (value : String) : Except SettingFault Platform :=
  let word := Text.asciiLower value
  if word = "" ∨ word = "kubernetes" ∨ word = "k8s" then .ok .kubernetes
  else if word = "openshift" then .ok .openShift
  else .error (.platform word)

def readFlag (value : String) : Except SettingFault Bool :=
  if value = "true" then .ok true
  else if value = "false" then .ok false
  else .error (.phoneHome value)

def readNumber (name value : String) : Except SettingFault Nat :=
  (Text.readNatural 0xffffffffffffffff value.toList).mapError (.number name value)

/-- The setting that a variable holds, or its default. -/
def orDefault (value : Option String) (read : String → Except SettingFault α) (default : α) :
    Except SettingFault α :=
  match value with
  | some text => read text
  | none => .ok default

/-- The settings in an environment; the first faulty variable counts. -/
def ofEnvironment (lookup : String → Option String) : Except SettingFault Settings := do
  let defaults : Settings := {}
  let platform ← orDefault (lookup "PLATFORM_TYPE") readPlatform defaults.platform
  let phoneHome ← orDefault (lookup "PHONE_HOME_ENABLED") readFlag defaults.phoneHome
  let timeoutSeconds ← orDefault (lookup "CLUSTER_API_TIMEOUT_SECS")
    (readNumber "CLUSTER_API_TIMEOUT_SECS") defaults.timeoutSeconds
  let tickMillis ← orDefault (lookup "CRON_TICK_MILLIS")
    (readNumber "CRON_TICK_MILLIS") defaults.tickMillis
  return {
    space := (lookup "OPERATOR_NAMESPACE").getD defaults.space
    platform, phoneHome, timeoutSeconds, tickMillis }

end Settings

end GridOperator
