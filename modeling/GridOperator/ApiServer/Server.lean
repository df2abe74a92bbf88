import GridOperator.ApiServer.Request
import GridOperator.ApiServer.Stored
import GridOperator.Store.Calls

/-!
# The platform's server

It keeps objects by kind, namespace and name, and numbers their versions
throughout. A write that would change nothing makes no version; one that goes out
from an old version is refused.
-/

namespace GridOperator

open Kubernetes

structure Server where
  shelf : (k : Kind) → Shelf k.Object := fun _ => []
  /-- The number of the latest version of any object. -/
  version : Nat := 0
  faults : List Fault := []
  /-- The requests so far, the latest one first. -/
  log : List String := []

namespace Server

def setShelf (k : Kind) (shelf : Shelf k.Object) (s : Server) : Server :=
  { s with shelf := fun l => if h : l = k then h ▸ shelf else s.shelf l }

@[simp] theorem shelf_setShelf_self (k : Kind) (shelf : Shelf k.Object) (s : Server) :
    (s.setShelf k shelf).shelf k = shelf := by simp [setShelf]

theorem shelf_setShelf_of_ne {k l : Kind} (h : l ≠ k) (shelf : Shelf k.Object) (s : Server) :
    (s.setShelf k shelf).shelf l = s.shelf l := by simp [setShelf, h]

/-- The stored object of a kind. -/
def find? (k : Kind) (key : ObjectKey) (s : Server) : Option (Stored k.Object) :=
  Table.get? key (s.shelf k)

/-- Keeps an object under the next version. -/
def keep (k : Kind) (key : ObjectKey) (stored : Nat → Stored k.Object) (s : Server) : Server :=
  { s.setShelf k (Table.set key (stored (s.version + 1)) (s.shelf k)) with
    version := s.version + 1 }

def drop (k : Kind) (key : ObjectKey) (s : Server) : Server :=
  s.setShelf k (Table.erase key (s.shelf k))

/-- Gives an object a new version, as if it had been written. -/
def bump (k : Kind) (key : ObjectKey) (s : Server) : Server :=
  match s.find? k key with
  | some stored => s.keep k key stored.renew
  | none => s

/-! ## Answers to requests -/

/-- An answer, or the code of a refusal. -/
abbrev Reply (α : Type) := Except Nat α

/-- Answers a request, which may be hit by a fault, and notes it. -/
def answer (r : Request) (serve : Server → Reply α × Server) (s : Server) : Reply α × Server :=
  let (fault, faults) := Fault.take r s.faults
  let s := { s with faults }
  let (reply, s) : Reply α × Server := match fault.bind (·.code) with
    | some code => (.error code, s)
    | none => serve s
  let s := if fault.any (·.bump) then s.bump r.kind r.key else s
  let code := match reply with
    | .ok _ => 200
    | .error code => code
  (reply, { s with log := r.line code :: s.log })

def get (k : Kind) (key : ObjectKey) : Server → Reply (Stored k.Object) × Server :=
  answer ⟨.get, k, key, []⟩ fun s =>
    match s.find? k key with
    | some stored => (.ok stored, s)
    | none => (.error 404, s)

/-- The objects of a namespace that carry all the labels. -/
def list (k : Kind) (space : String) (labels : TextMap) :
    Server → Reply (List (Stored k.Object)) × Server :=
  answer ⟨.list, k, ⟨space, ""⟩, labels⟩ fun s =>
    (.ok (((s.shelf k).filter fun e => e.1.space = space && carries labels e.2.document).map (·.2)),
      s)
where
  /-- Whether a document states all the labels. -/
  carries (labels : TextMap) (document : Json) : Bool :=
    let own := ((document.get? "metadata").bind (·.get? "labels")).getD .null
    labels.all fun l => own.get? l.1 == some (.str l.2)

def post (k : Kind) (key : ObjectKey) (object : k.Object) :
    Server → Reply (Stored k.Object) × Server :=
  answer ⟨.post, k, key, []⟩ fun s =>
    if (s.find? k key).isSome then (.error 409, s)
    else (.ok (.ofObject object (s.version + 1)), s.keep k key (.ofObject object))

def put (k : Kind) (key : ObjectKey) (object : k.Object) :
    Server → Reply (Stored k.Object) × Server :=
  answer ⟨.put, k, key, []⟩ fun s =>
    match s.find? k key with
    | none => (.error 404, s)
    | some found =>
      let version := (Resource.metadata object).resourceVersion
      if version.isSome && version ≠ found.version? then (.error 409, s)
      else if found.isSame object then (.ok found, s)
      else (.ok (.ofObject object (s.version + 1)), s.keep k key (.ofObject object))

def delete (k : Kind) (key : ObjectKey) : Server → Reply Unit × Server :=
  answer ⟨.delete, k, key, []⟩ fun s =>
    if (s.find? k key).isSome then (.ok (), s.drop k key) else (.error 404, s)

/-- Merges a patch into the status of a cluster. -/
def patchStatus (key : ObjectKey) (patch : Json) : Server → Reply (Stored Cluster) × Server :=
  answer ⟨.patch, .cluster, key, []⟩ fun s =>
    match s.find? .cluster key with
    | none => (.error 404, s)
    | some found =>
      let patched := found.patchStatus patch
      if patched.document = found.document then (.ok found, s)
      else (.ok (patched.renew (s.version + 1)), s.keep .cluster key patched.renew)

/-! ## The server as a store -/

/-- A stored object as it reads, an error if it does not. -/
def readable (stored : Stored K) : Except Error K :=
  match stored.reading with
  | some object => .ok object
  | none => .error (.api none)

/-- The answer to a write; a version that is out of date is a conflict. -/
def written (k : Kind) (name : String) : Reply (Stored k.Object) → Except Error k.Object
  | .ok stored => readable stored
  | .error 409 => .error (.conflict k.name name)
  | .error code => .error (.api (some code))

/-- Answers the calls of a store of one kind and namespace. No request is made for an object that
has no key to ask by. -/
def serve (k : Kind) (space : String) : Script.Handler (store k.Object) Server
  | .get name, s =>
    match Request.key? space name with
    | none => (.error (.api none), s)
    | some key =>
      match s.get k key with
      | (.ok stored, s) => ((readable stored).map some, s)
      | (.error 404, s) => (.ok none, s)
      | (.error code, s) => (.error (.api (some code)), s)
  | .create object, s =>
    let name := Resource.anyName object
    if Request.isAddressable space then
      let (reply, s) := s.post k ⟨space, name⟩ object
      (written k name reply, s)
    else (.error (.api none), s)
  | .update object, s =>
    let name := Resource.anyName object
    match Request.key? space name with
    | none => (.error (.api none), s)
    | some key =>
      let (reply, s) := s.put k key object
      (written k name reply, s)
  | .delete name, s =>
    match Request.key? space name with
    | none => (.error (.api none), s)
    | some key =>
      match s.delete k key with
      | (.ok (), s) => (.ok true, s)
      | (.error 404, s) => (.ok false, s)
      | (.error code, s) => (.error (.api (some code)), s)

/-- Patches the status of a cluster, which has to read afterwards. -/
def serveStatus (space name : String) (patch : Json) (s : Server) : Except Error Unit × Server :=
  match Request.key? space name with
  | none => (.error (.api none), s)
  | some key =>
    match s.patchStatus key patch with
    | (.ok stored, s) => ((readable stored).map fun _ => (), s)
    | (.error code, s) => (.error (.api (some code)), s)

/-- The objects of a namespace that carry all the labels, as they read. -/
def readList (k : Kind) (space : String) (labels : TextMap) (s : Server) :
    Except Error (List k.Object) × Server :=
  if Request.isAddressable space then
    match s.list k space labels with
    | (.ok found, s) => (found.mapM readable, s)
    | (.error code, s) => (.error (.api (some code)), s)
  else (.error (.api none), s)

/-! ## Changes by others -/

/-- The key that a document states. -/
def keyOf (document : Json) : ObjectKey :=
  let text (name : String) := ((document.get? "metadata").bind fun m =>
    (m.get? name).bind Json.str?).getD ""
  ⟨text "namespace", text "name"⟩

/-- Keeps a document in place of whatever has its key. -/
def place (k : Kind) (document : Json) (s : Server) : Server :=
  s.keep k (keyOf document) (.ofDocument document)

/-- Merges a patch into a whole object. Tells whether there is one. -/
def merge (k : Kind) (key : ObjectKey) (patch : Json) (s : Server) : Bool × Server :=
  match s.find? k key with
  | some found => (true, s.keep k key (.ofDocument (found.document.mergePatch patch)))
  | none => (false, s)

/-- The documents of a kind with their keys. -/
def documents (k : Kind) (s : Server) : List (ObjectKey × Json) :=
  (s.shelf k).map fun e => (e.1, e.2.document)

/-- The documents that differ between two states, and those that are gone. -/
def changes (before after : Server) : List (String × Option Json) :=
  Kind.all.flatMap fun k =>
    let name (key : ObjectKey) := k.name ++ "/" ++ key.render
    let old := before.documents k
    let new := after.documents k
    let written := new.filterMap fun e =>
      if Table.get? e.1 old = some e.2 then none else some (name e.1, some e.2)
    let gone := old.filterMap fun e =>
      if Table.contains e.1 new then none else some (name e.1, none)
    written ++ gone

end Server

end GridOperator
