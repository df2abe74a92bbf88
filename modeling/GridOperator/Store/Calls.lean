import GridOperator.Kubernetes.Meta
import GridOperator.Script

/-!
# Stores of objects

A store keeps the objects of one kind by their names and gives each version of an
object a number. `StoreCall` is what it can be asked for; a write that goes out
from an old version is refused as a conflict.
-/

namespace GridOperator

open Kubernetes

inductive StoreCall (K : Type) where
  | get (name : String)
  | create (object : K)
  /-- Replaces the object of the same name, if its version is the stored one. -/
  | update (object : K)
  | delete (name : String)

namespace StoreCall

/-- A deletion tells whether there was anything to delete. -/
abbrev Answer : StoreCall K → Type
  | get _ => Except Error (Option K)
  | create _ | update _ => Except Error K
  | delete _ => Except Error Bool

/-- The answer to any call if it fails. -/
def fail (e : Error) : (c : StoreCall K) → c.Answer
  | get _ | create _ | update _ | delete _ => .error e

end StoreCall

/-- Calls to one store. -/
def store (K : Type) : Interface := ⟨StoreCall K, StoreCall.Answer⟩

/-- What became of an object that was to be brought in line. -/
inductive Applied where
  | unchanged
  | created
  | updated
  deriving DecidableEq

namespace Applied

def name : Applied → String
  | unchanged => "unchanged"
  | created => "created"
  | updated => "updated"

end Applied

namespace Store

def get (name : String) : Pass (store K) (Option K) :=
  .ofScript (Script.call (I := store K) (.get name))

def create (object : K) : Pass (store K) K :=
  .ofScript (Script.call (I := store K) (.create object))

def update (object : K) : Pass (store K) K :=
  .ofScript (Script.call (I := store K) (.update object))

def delete (name : String) : Pass (store K) Bool :=
  .ofScript (Script.call (I := store K) (.delete name))

variable [Resource K]

/-- Refuses a change that gives an object another name. -/
def checkName (name : String) (object : K) : Except Error Unit :=
  if Resource.anyName object = name then .ok ()
  else .error (.renamed name (Resource.anyName object))

/-- Brings the namesake of `template` in line by `change`, or creates what `change` makes of
`template` if there is none. An object that stays the same is not written. -/
def apply (template : K) (change : K → Except Error K) : Pass (store K) Applied := do
  let name := Resource.anyName template
  match ← get name with
  | none =>
    let made ← Pass.ofExcept (change template)
    Pass.ofExcept (checkName name made)
    let _ ← create made
    return .created
  | some found =>
    let changed ← Pass.ofExcept (change found)
    Pass.ofExcept (checkName name changed)
    if Resource.toJson changed = Resource.toJson found then return .unchanged
    let _ ← update changed
    return .updated

/-- Sets an annotation of a stored object. One that is not stored is left alone. -/
def annotate (name key value : String) : Pass (store K) Applied := do
  match ← get (K := K) name with
  | none => return .unchanged
  | some found =>
    if (Resource.metadata found).annotation? key = some value then return .unchanged
    let _ ← update (Resource.mapMetadata (·.annotate key value) found)
    return .updated

end Store

end GridOperator
