import GridOperator.Json.Reader
import GridOperator.Json.Record
import GridOperator.Management.Commands
import GridOperator.Network.Http

/-!
# Where and how a cluster is told something

An `Endpoint` is a member, or the service in front of all members, together with
the name of the cluster, by which a request proves that it is meant for it.
-/

namespace GridOperator

open Kubernetes

structure Endpoint where
  base : String
  clusterName : String
  deriving DecidableEq

/-- What members answer. -/
structure ManageResponse where
  status : String
  state : Option String
  message : Option String
  deriving DecidableEq

namespace ManageResponse

def ofJson? (j : Json) : Option ManageResponse := do
  let r ← Record.ofJson? ["status", "state", "message"] j
  return {
    status := ← r.required "status" Json.text
    state := ← r.optional "state" Json.text
    message := ← r.optional "message" Json.text }

end ManageResponse

namespace ManageCall

/-- The last part of the address of an operation. -/
def operation : ManageCall → String
  | getState => "state"
  | changeState _ => "changeState"
  | forceStart => "forceStart"
  | hotBackup => "hotBackup"

/-- What an operation is told besides the name of the cluster. -/
def argument? : ManageCall → Option String
  | changeState state => some (Text.asciiLower state.name)
  | getState | forceStart | hotBackup => none

end ManageCall

namespace Endpoint

def withPort (host : String) : String := "http://" ++ host ++ ":" ++ toString Names.memberPortNumber

/-- Whichever member the discovery service leads to. -/
def ofCluster (c : Cluster) : Endpoint where
  base := withPort <|
    Resource.anyName c ++ "." ++ c.metadata.space.getD "" ++ ".svc.cluster.local"
  clusterName := c.spec.clusterName

def ofMember (c : Cluster) (ip : String) : Endpoint where
  base := withPort ip
  clusterName := c.spec.clusterName

/-- The request for an operation. Its form has the name of the cluster, a password, which is
empty, and the argument. -/
def request (e : Endpoint) (call : ManageCall) : HttpRequest where
  url := e.base ++ "/hazelcast/rest/management/cluster/" ++ call.operation
  body := e.clusterName ++ "&" ++ match call.argument? with
    | some argument => "&" ++ argument
    | none => ""

/-- What a response says, unless the members refuse. -/
def read (call : ManageCall) (response : HttpResponse) : Except Error ManageResponse := do
  let body ← response.accepted
  match (Json.parse? body).bind ManageResponse.ofJson? with
  | none => .error (.http .body)
  | some r =>
    if r.status = "success" then .ok r
    else .error (.clusterApi call.operation (r.message.getD r.status))

/-- Has an operation done. -/
def post (e : Endpoint) (call : ManageCall) : Pass http ManageResponse := do
  let response ← (e.request call).send
  Pass.ofExcept (read call response)

def perform (e : Endpoint) : (call : ManageCall) → Script http call.Answer
  | .getState => ExceptT.run do
    let r ← e.post .getState
    Pass.ofExcept (ClusterState.parse (r.state.getD ""))
  | .changeState state => ExceptT.run (discard (e.post (.changeState state)))
  | .forceStart => ExceptT.run (discard (e.post .forceStart))
  | .hotBackup => ExceptT.run (discard (e.post .hotBackup))

end Endpoint

end GridOperator
