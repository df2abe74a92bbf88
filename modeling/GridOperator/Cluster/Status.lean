import GridOperator.Json.Record

/-!
# What is known of a cluster

`ClusterStatus` is the part of a cluster resource that the operator writes.
-/

namespace GridOperator

inductive Phase where
  | pending
  | running
  | terminating
  deriving DecidableEq

namespace Phase

def name : Phase → String
  | pending => "Pending"
  | running => "Running"
  | terminating => "Terminating"

def ofJson? : Json.Decoder Phase :=
  Json.named [("Pending", pending), ("Running", running), ("Terminating", terminating)]

end Phase

/-- How far the members are with their restore. -/
inductive RestoreState where
  | notStarted
  | inProgress
  | succeeded
  | failed
  deriving DecidableEq

namespace RestoreState

def name : RestoreState → String
  | notStarted => "NotStarted"
  | inProgress => "InProgress"
  | succeeded => "Succeeded"
  | failed => "Failed"

def ofJson? : Json.Decoder RestoreState :=
  Json.named [("NotStarted", notStarted), ("InProgress", inProgress), ("Succeeded", succeeded),
    ("Failed", failed)]

end RestoreState

structure MemberStatus where
  podName : String
  ip : Option String := none
  ready : Bool := false
  /-- The operating mode the member last reported, `ACTIVE` or `PASSIVE`. -/
  state : Option String := none
  reason : Option String := none
  message : Option String := none
  restartCount : Int32 := 0
  deriving DecidableEq

namespace MemberStatus

def ofJson? (j : Json) : Option MemberStatus := do
  let r ← Record.ofJson?
    ["podName", "ip", "ready", "state", "reason", "message", "restartCount"] j
  return {
    podName := ← r.required "podName" Json.text
    ip := ← r.optional "ip" Json.text
    ready := ← r.withDefault "ready" Json.flag false
    state := ← r.optional "state" Json.text
    reason := ← r.optional "reason" Json.text
    message := ← r.optional "message" Json.text
    restartCount := ← r.withDefault "restartCount" Json.int32 0 }

def toJson (m : MemberStatus) : Json := .obj [
  ("podName", .str m.podName),
  ("ip", .ofOption .str m.ip),
  ("ready", .bool m.ready),
  ("state", .ofOption .str m.state),
  ("reason", .ofOption .str m.reason),
  ("message", .ofOption .str m.message),
  ("restartCount", .ofInt32 m.restartCount)]

end MemberStatus

structure ClusterStatus where
  phase : Phase := .pending
  /-- Ready and wanted members, as in `2/3`. -/
  readyMembers : String := ""
  message : Option String := none
  members : List MemberStatus := []
  restore : Option RestoreState := none
  externalAddresses : List String := []
  deriving DecidableEq

namespace ClusterStatus

def readyMembersOfJson? (j : Json) : Option String := do
  let r ← Record.ofJson? ["readyMembers"] j
  r.withDefault "readyMembers" Json.text ""

def restoreOfJson? (j : Json) : Option RestoreState := do
  let r ← Record.ofJson? ["state"] j
  r.required "state" RestoreState.ofJson?

def ofJson? (j : Json) : Option ClusterStatus := do
  let r ← Record.ofJson?
    ["phase", "cluster", "message", "members", "restore", "externalAddresses"] j
  return {
    phase := ← r.withDefault "phase" Phase.ofJson? .pending
    readyMembers := ← r.withDefault "cluster" readyMembersOfJson? ""
    message := ← r.optional "message" Json.text
    members := ← r.withDefault "members" (Json.list MemberStatus.ofJson?) []
    restore := ← r.optional "restore" restoreOfJson?
    externalAddresses := ← r.withDefault "externalAddresses" (Json.list Json.text) [] }

def toJson (s : ClusterStatus) : Json := .obj [
  ("phase", .str s.phase.name),
  ("cluster", .obj [("readyMembers", .str s.readyMembers)]),
  ("message", .ofOption .str s.message),
  ("members", .ofList MemberStatus.toJson s.members),
  ("restore", .ofOption (fun r => .obj [("state", .str r.name)]) s.restore),
  ("externalAddresses", .strings s.externalAddresses)]

end ClusterStatus

end GridOperator
