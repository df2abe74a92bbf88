import GridOperator.Backup.Pass
import GridOperator.Reconcile.Steps

/-!
# Passes over a cluster

A pass brings all objects of the cluster in line, in an order in which each one
finds what it needs, then writes what it has observed into the status and sees to
a restore. It ends with the first step that fails.
-/

namespace GridOperator.Cluster

open Kubernetes ClusterPass

/-- A patch that sets the phase, and the message if there is one. -/
def phasePatch (phase : Phase) (message : Option String) : Json :=
  .obj (("phase", .str phase.name) :: (message.map fun m => ("message", Json.str m)).toList)

/-- A pass over a cluster that is on its way out. -/
def finalize (c : Cluster) : ClusterPass Next := do
  if !c.metadata.hasFinalizer then return .onChange
  patchStatus (Resource.anyName c) (phasePatch .terminating none)
  c.teardown.embed teardownRoute
  let _ ← within (Store.removeFinalizer c)
  return .onChange

/-- Refuses a specification that is not accepted, and says so in the status. -/
def refuseInvalid (c : Cluster) : ClusterPass Unit := do
  match c.check with
  | .ok () => return
  | .error e =>
    patchStatus (Resource.anyName c) (phasePatch .pending (some e.message))
    Pass.ofExcept (.error e)

def waitingMessage : String := "waiting for per-pod services to become reachable"

/-- The specification as it is recorded. -/
def specText (c : Cluster) : String := c.spec.toJson.render

/-- The part of a pass that needs all services to be reachable. -/
def converge (c : Cluster) (settings : Settings) (perPod : List (Option Service)) :
    ClusterPass Next := do
  c.applyConfigMap
  c.applyStatefulSet settings
  let status ← c.observe perPod
  patchStatus (Resource.anyName c) status.toJson
  let observed := { c with status := some status }
  let client ← client observed
  let _ ← command client observed.checkForceStart
  let _ ← command client observed.ensureActive
  if status.phase = .running then
    let _ ← within <| Store.annotate (K := Cluster) (Resource.anyName c) Names.lastSpecAnnotation
      c.specText
    return .after 60
  else return .after 10

/-- A pass over a cluster of a namespace. -/
def reconcile (c : Cluster) (settings : Settings) : ClusterPass Next := do
  if c.metadata.isDeleted then return ← c.finalize
  let _ ← within (Store.addFinalizer c)
  c.refuseInvalid
  c.applyRbac settings.platform
  let perPod ← c.applyServices
  if !(← c.perPodReady resolves perPod) then
    patchStatus (Resource.anyName c) (phasePatch .pending (some waitingMessage))
    return .after 10
  c.converge settings perPod

end GridOperator.Cluster
