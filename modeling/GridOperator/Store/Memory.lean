import GridOperator.Store.Calls

/-!
# A store in memory

Versions are numbered throughout the store, so that a name that is used again
does not get an old number.
-/

namespace GridOperator

open Kubernetes

structure MemoryStore (K : Type) where
  objects : Table String K := []
  /-- The number of the latest version of any object. -/
  version : Nat := 0
  /-- The calls so far, the latest one first. -/
  calls : List String := []

/-- What is to go wrong. -/
structure StoreFaults where
  get : Option Error := none
  create : Option Error := none
  update : Option Error := none
  delete : Option Error := none
  /-- Whether somebody else writes each object right after it was read. -/
  race : Bool := false

namespace StoreFaults

/-- The error by which a call is to fail. -/
def of? (faults : StoreFaults) : StoreCall K → Option Error
  | .get _ => faults.get
  | .create _ => faults.create
  | .update _ => faults.update
  | .delete _ => faults.delete

end StoreFaults

namespace MemoryStore

variable [Resource K]

/-- Stores an object under a name, as a new version. -/
def put (name : String) (object : K) (s : MemoryStore K) : MemoryStore K :=
  { s with
    version := s.version + 1
    objects := s.objects.set name (Resource.withVersion object (s.version + 1)) }

def ofList (objects : List K) : MemoryStore K :=
  objects.foldl (fun s object => s.put (Resource.anyName object) object) {}

/-- Gives an object a new version, as if it had been written. -/
def bump (name : String) (s : MemoryStore K) : MemoryStore K :=
  match s.objects.get? name with
  | some object => s.put name object
  | none => s

def describe : StoreCall K → String
  | .get name => "get " ++ name
  | .create object => "create " ++ Resource.anyName object
  | .update object => "update " ++ Resource.anyName object
  | .delete name => "delete " ++ name

/-- Whether a change of `found` went out from its version. -/
def isCurrent (changed found : K) : Bool :=
  (Resource.metadata changed).resourceVersion = (Resource.metadata found).resourceVersion
    && (Resource.metadata found).resourceVersion.isSome

/-- The object just stored under a name. -/
def stored (name : String) (object : K) (s : MemoryStore K) : Except Error K × MemoryStore K :=
  let s := s.put name object
  (.ok ((s.objects.get? name).getD object), s)

/-- Answers a call that does not fail otherwise. -/
def serve : Script.Handler (store K) (MemoryStore K)
  | .get name, s => (.ok (s.objects.get? name), s)
  | .create object, s =>
    let name := Resource.anyName object
    if s.objects.contains name then (.error (.conflict (Resource.kind K) name), s)
    else s.stored name object
  | .update object, s =>
    let name := Resource.anyName object
    match s.objects.get? name with
    | none => (.error (.notFound name), s)
    | some found =>
      if isCurrent object found then s.stored name object
      else (.error (.conflict (Resource.kind K) name), s)
  | .delete name, s =>
    (.ok (s.objects.contains name), { s with objects := s.objects.erase name })

/-- Answers calls, each of which is noted first and fails if it is to. -/
def handler (faults : StoreFaults) : Script.Handler (store K) (MemoryStore K) := fun call s =>
  let s := { s with calls := describe call :: s.calls }
  match faults.of? call with
  | some e => (StoreCall.fail e call, s)
  | none =>
    let (answer, s) := serve call s
    match call with
    | .get name => (answer, if faults.race then s.bump name else s)
    | _ => (answer, s)

end MemoryStore

end GridOperator
