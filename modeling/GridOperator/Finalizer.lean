import GridOperator.Names
import GridOperator.Store.Calls

/-!
# The finalizer

A resource that carries it is not removed before the operator has cleaned up.
-/

namespace GridOperator

open Kubernetes

namespace Kubernetes.ObjectMeta

def hasFinalizer (m : ObjectMeta) : Bool := (m.finalizers.getD []).contains Names.finalizer

def addFinalizer (m : ObjectMeta) : ObjectMeta :=
  { m with finalizers := some (m.finalizers.getD [] ++ [Names.finalizer]) }

def removeFinalizer (m : ObjectMeta) : ObjectMeta :=
  { m with finalizers := some ((m.finalizers.getD []).filter (· ≠ Names.finalizer)) }

end Kubernetes.ObjectMeta

namespace Store

variable [Resource K]

/-- Puts the finalizer on an object that is not on its way out. Tells whether it was written. -/
def addFinalizer (object : K) : Pass (store K) Bool := do
  let m := Resource.metadata object
  if m.hasFinalizer || m.isDeleted then return false
  let _ ← update (Resource.mapMetadata (·.addFinalizer) object)
  return true

/-- Takes the finalizer off an object. Tells whether it was written. -/
def removeFinalizer (object : K) : Pass (store K) Bool := do
  if !(Resource.metadata object).hasFinalizer then return false
  let _ ← update (Resource.mapMetadata (·.removeFinalizer) object)
  return true

end Store

end GridOperator
