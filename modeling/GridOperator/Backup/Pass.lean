import GridOperator.Finalizer
import GridOperator.Json.Writer
import GridOperator.Management.Commands
import GridOperator.Validity

/-!
# Passes over a backup resource

A pass registers a recurring backup or makes a single one, and then records on
the resource which specification it has carried out, so that a later pass does
not do it again.
-/

namespace GridOperator

open Kubernetes

/-- What a pass over a backup does, with clients of type `C`. Jobs are the clients that will make
the backups. -/
inductive BackupCall (C : Type) where
  | backups (call : StoreCall HotBackup)
  | clusters (call : StoreCall Cluster)
  /-- The client of a cluster. -/
  | client (cluster : Cluster)
  | manage (client : C) (call : ManageCall)
  | schedule (key : ObjectKey) (expression : String) (job : C)
  /-- Ends a recurring backup. Tells whether there was one. -/
  | unschedule (key : ObjectKey)

namespace BackupCall

abbrev Answer : BackupCall C → Type
  | backups call => call.Answer
  | clusters call => call.Answer
  | client _ => C
  | manage _ call => call.Answer
  | schedule _ _ _ => Except Error Unit
  | unschedule _ => Bool

end BackupCall

def backupCalls (C : Type) : Interface := ⟨BackupCall C, BackupCall.Answer⟩

/-- When a resource is looked at again: after some seconds, or when it changes. -/
inductive Next where
  | after (seconds : Nat)
  | onChange
  deriving DecidableEq

inductive BackupOutcome where
  | scheduled
  | triggered
  /-- The cluster is not running; nothing was done. -/
  | deferred
  deriving DecidableEq

namespace BackupOutcome

def name : BackupOutcome → String
  | scheduled => "Scheduled"
  | triggered => "Triggered"
  | deferred => "Deferred"

end BackupOutcome

namespace HotBackup

/-- The specification as it is recorded. -/
def specText (b : HotBackup) : String := b.spec.toJson.render

/-- Whether the specification is the one recorded last. -/
def alreadyApplied (b : HotBackup) : Bool :=
  b.metadata.annotation? Names.lastSpecAnnotation = some b.specText

variable {C : Type}

def viaBackups : Script.Embedding (store HotBackup) (backupCalls C) := ⟨.backups, fun _ a => a⟩

def viaClusters : Script.Embedding (store Cluster) (backupCalls C) := ⟨.clusters, fun _ a => a⟩

def viaClient (client : C) : Script.Embedding management (backupCalls C) :=
  ⟨.manage client, fun _ a => a⟩

def unschedule (key : ObjectKey) : Pass (backupCalls C) Bool :=
  ExceptT.lift (Script.call (I := backupCalls C) (.unschedule key))

/-- Registers or makes the backup of a running cluster. A single backup ends a recurring one. -/
def run (key : ObjectKey) (b : HotBackup) (cluster : Cluster) (client : C) :
    Pass (backupCalls C) BackupOutcome := do
  if (cluster.status.map (·.phase)).getD .pending ≠ .running then return .deferred
  Pass.ofExcept (b.check cluster)
  if b.spec.schedule.isEmpty then
    let _ ← unschedule key
    Management.backUp.embed (viaClient client)
    return .triggered
  else
    Pass.ofScript (Script.call (I := backupCalls C) (.schedule key b.spec.schedule client))
    return .scheduled

/-- A pass over a resource that is on its way out. -/
def finalize (b : HotBackup) : Pass (backupCalls C) Next := do
  if b.metadata.hasFinalizer then
    let _ ← unschedule (Resource.key b)
    let _ ← (Store.removeFinalizer b).embed viaBackups
  return .onChange

/-- A pass over a resource. That the record cannot be written is no error: the backup is made. -/
def reconcile (b : HotBackup) : Pass (backupCalls C) Next := do
  if b.metadata.isDeleted then return ← b.finalize
  let _ ← (Store.addFinalizer b).embed viaBackups
  if b.alreadyApplied then return .onChange
  match ← (Store.get (K := Cluster) b.spec.clusterResource).embed viaClusters with
  | none => return .after 30
  | some cluster =>
    let client ← ExceptT.lift (Script.call (I := backupCalls C) (.client cluster))
    match ← run (Resource.key b) b cluster client with
    | .deferred => return .after 30
    | .scheduled | .triggered =>
      let record := Store.annotate (K := HotBackup) (Resource.anyName b) Names.lastSpecAnnotation
        b.specText
      let _ ← (record.embed viaBackups).outcome
      return .onChange

end HotBackup

end GridOperator
