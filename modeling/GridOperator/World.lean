import GridOperator.ApiServer.Server
import GridOperator.Backup.Scheduler
import GridOperator.Reconcile.Cluster

/-!
# The operator in its world

A `World` is what passes run against: the platform's server, the network, and the
tables that the operator keeps for as long as it runs, of clients and of
schedules.
-/

namespace GridOperator

open Kubernetes

/-- What can be reached from the operator. -/
structure Network where
  /-- Whether the name of a host is known. -/
  resolves : String → Bool
  respond : HttpRequest → Except HttpFailure HttpResponse

namespace Network

/-- A network where only the host itself and numbers are known and nobody answers requests. -/
def isolated : Network where
  resolves host := host = "localhost" || Host.isNumber host
  respond _ := .error .unanswered

/-- What comes of an operation that is asked for over the network. -/
def perform (n : Network) (e : Endpoint) (call : ManageCall) : call.Answer :=
  ((e.perform call).run (fun request (_ : Unit) => (n.respond request, ())) ()).1

end Network

structure World where
  server : Server := {}
  registry : Registry := {}
  scheduler : Scheduler Client := []
  network : Network := .isolated
  /-- The present time. -/
  now : Instant := 0

namespace World

/-- Lets the server answer a call. -/
def serve (k : Kind) (space : String) (call : StoreCall k.Object) (w : World) :
    call.Answer × World :=
  let (answer, server) := Server.serve k space call w.server
  (answer, { w with server })

def clientFor (c : Cluster) (w : World) : Client × World :=
  let (client, registry) := w.registry.clientFor c
  (client, { w with registry })

/-- Answers the calls of a pass over a cluster of a namespace. -/
def clusterHandler (space : String) : Script.Handler clusterCalls World
  | .roles call, w => serve .clusterRole "" call w
  | .bindings call, w => serve .clusterRoleBinding "" call w
  | .accounts call, w => serve .serviceAccount space call w
  | .services call, w => serve .service space call w
  | .configMaps call, w => serve .configMap space call w
  | .statefulSets call, w => serve .statefulSet space call w
  | .clusters call, w => serve .cluster space call w
  | .patchStatus name patch, w =>
    let (answer, server) := w.server.serveStatus space name patch
    (answer, { w with server })
  | .listMaps, w =>
    let (maps, server) := w.server.readList .dataMap space []
    (maps, { w with server })
  | .listPods labels, w =>
    let (pods, server) := w.server.readList .pod space labels
    (pods, { w with server })
  | .resolves host, w => (w.network.resolves host, w)
  | .memberState member, w => (w.network.perform member .getState, w)
  | .client cluster, w => w.clientFor cluster
  | .manage client call, w => (w.network.perform client.endpoint call, w)
  | .release key, w =>
    let (held, registry) := w.registry.release key
    (held, { w with registry })

/-- Answers the calls of a pass over a backup of a namespace. -/
def backupHandler (space : String) : Script.Handler (backupCalls Client) World
  | .backups call, w => serve .hotBackup space call w
  | .clusters call, w => serve .cluster space call w
  | .client cluster, w => w.clientFor cluster
  | .manage client call, w => (w.network.perform client.endpoint call, w)
  | .schedule key expression job, w =>
    match w.scheduler.register w.now key expression job with
    | .ok scheduler => (.ok (), { w with scheduler })
    | .error e => (.error e, w)
  | .unschedule key, w =>
    let (held, scheduler) := w.scheduler.unregister key
    (held, { w with scheduler })

/-- A pass over a cluster, which has to be in a namespace. -/
def reconcileCluster (c : Cluster) (settings : Settings) (w : World) : Except Error Next × World :=
  match c.metadata.space with
  | none => (.error (.noNamespace Cluster.kind (Resource.anyName c)), w)
  | some space => (c.reconcile settings).run.run (clusterHandler space) w

/-- A pass over a backup, which has to be in a namespace. -/
def reconcileBackup (b : HotBackup) (w : World) : Except Error Next × World :=
  match b.metadata.space with
  | none => (.error (.noNamespace HotBackup.kind (Resource.anyName b)), w)
  | some space => (HotBackup.reconcile (C := Client) b).run.run (backupHandler space) w

/-- Makes the backups that are due. Tells what came of each. -/
def tick (now : Instant) (w : World) : List (Except Error Unit) × World :=
  let (jobs, scheduler) := w.scheduler.tick now
  (jobs.map fun job => (Management.backUp.run.run
    (fun call (_ : Unit) => (w.network.perform job.endpoint call, ())) ()).1,
    { w with scheduler })

end World

end GridOperator
