import GridOperator.Backup.Pass
import GridOperator.Backup.Scheduler
import GridOperator.Reconcile.Teardown
import GridOperator.Management.Registry
import GridOperator.Store.Memory

/-!
# Rehearsals

Parts of the operator run against stores in memory and clients that answer what
they have been given to answer.
-/

namespace GridOperator

open Kubernetes

/-! ## Clients -/

/-- Answers to be given in turn. When they are used up every command succeeds, and the cluster is
passive. -/
structure ScriptedClient where
  states : List (Except Error ClusterState) := []
  changes : List (Except Error Unit) := []
  starts : List (Except Error Unit) := []
  backups : List (Except Error Unit) := []
  /-- The calls so far, the latest one first. -/
  calls : List ManageCall := []

namespace ScriptedClient

def next (answers : List α) (default : α) : α × List α :=
  match answers with
  | a :: rest => (a, rest)
  | [] => (default, [])

def handler : Script.Handler management ScriptedClient := fun call c =>
  let c := { c with calls := call :: c.calls }
  match call with
  | .getState =>
    let (answer, states) := next c.states (.ok .passive)
    (answer, { c with states })
  | .changeState _ =>
    let (answer, changes) := next c.changes (.ok ())
    (answer, { c with changes })
  | .forceStart =>
    let (answer, starts) := next c.starts (.ok ())
    (answer, { c with starts })
  | .hotBackup =>
    let (answer, backups) := next c.backups (.ok ())
    (answer, { c with backups })

/-- The calls so far, in order. -/
def lines (c : ScriptedClient) : List String := c.calls.reverse.map (·.line)

end ScriptedClient

/-! ## Backups -/

/-- Backups and clusters in memory. Clients are known by their numbers. -/
structure Rehearsal where
  backups : MemoryStore HotBackup := {}
  clusters : MemoryStore Cluster := {}
  scheduler : Scheduler Nat := []
  /-- Whether schedules are forgotten at once. -/
  forgetful : Bool := false
  clients : List ScriptedClient := []
  /-- The cluster whose client was asked for last. -/
  asked : Option ObjectKey := none
  now : Instant := 0

namespace Rehearsal

/-- Lets a client answer. -/
def ask (client : Nat) (call : ManageCall) (r : Rehearsal) : call.Answer × Rehearsal :=
  let (answer, c) := ScriptedClient.handler call (r.clients.getD client {})
  (answer, { r with clients := r.clients.set client c })

/-- Answers the calls of a pass whose cluster has the given client. -/
def handler (backupFaults clusterFaults : StoreFaults) (client : Nat) :
    Script.Handler (backupCalls Nat) Rehearsal
  | .backups call, r =>
    let (answer, backups) := MemoryStore.handler backupFaults call r.backups
    (answer, { r with backups })
  | .clusters call, r =>
    let (answer, clusters) := MemoryStore.handler clusterFaults call r.clusters
    (answer, { r with clusters })
  | .client cluster, r => (client, { r with asked := some (Resource.key cluster) })
  | .manage client call, r => r.ask client call
  | .schedule key expression job, r =>
    match r.scheduler.register r.now key expression job with
    | .ok scheduler => (.ok (), if r.forgetful then r else { r with scheduler })
    | .error e => (.error e, r)
  | .unschedule key, r =>
    let (held, scheduler) := r.scheduler.unregister key
    (held, { r with scheduler })

/-- Makes a backup through each of the clients. -/
def backUpAll : List Nat → Rehearsal → Rehearsal
  | [], r => r
  | client :: rest, r =>
    backUpAll rest (Management.backUp.run.run (fun call r => ask client call r) r).2

/-- Makes the backups that are due. Tells how many. -/
def tick (now : Instant) (r : Rehearsal) : Nat × Rehearsal :=
  let (jobs, scheduler) := r.scheduler.tick now
  (jobs.length, backUpAll jobs { r with scheduler })

/-- Forgets which calls were made. -/
def clearCalls (r : Rehearsal) : Rehearsal :=
  { r with
    backups := { r.backups with calls := [] }
    clusters := { r.clusters with calls := [] }
    clients := r.clients.map fun c => { c with calls := [] }
    asked := none }

end Rehearsal

/-! ## Removal of clusters -/

/-- Roles, bindings and clients. -/
structure Holdings where
  roles : MemoryStore ClusterRole := {}
  bindings : MemoryStore ClusterRoleBinding := {}
  registry : Registry := {}

namespace Holdings

def handler (roleFaults bindingFaults : StoreFaults) : Script.Handler teardownCalls Holdings
  | .roles call, h =>
    let (answer, roles) := MemoryStore.handler roleFaults call h.roles
    (answer, { h with roles })
  | .bindings call, h =>
    let (answer, bindings) := MemoryStore.handler bindingFaults call h.bindings
    (answer, { h with bindings })
  | .release key, h =>
    let (held, registry) := h.registry.release key
    (held, { h with registry })

end Holdings

end GridOperator
