import GridOperator.ApiServer.Kind
import GridOperator.Json.Canonical
import GridOperator.Json.Patch

/-!
# Stored objects

The platform keeps documents. `Stored` keeps beside a document what it reads as,
which is nothing for a document that is not of its kind.
-/

namespace GridOperator

open Kubernetes

structure Stored (K : Type) where
  document : Json
  reading : Option K

namespace Stored

variable [Resource K]

/-- A document that states its version. -/
def stamp (version : String) (document : Json) : Json :=
  Json.mergePatch document <|
    .obj [("metadata", .obj [("resourceVersion", .str version)])]

/-- The version that a document states. -/
def versionOf? (document : Json) : Option String :=
  (document.get? "metadata").bind fun m => (m.get? "resourceVersion").bind Json.str?

/-- A document as it is kept under a version. -/
def ofDocument (document : Json) (version : Nat) : Stored K :=
  let d := (stamp (toString version) document).canonical
  ⟨d, Resource.ofJson? d⟩

/-- An object as it is kept under a version. -/
def ofObject (object : K) (version : Nat) : Stored K :=
  let o := Resource.withVersion object version
  ⟨(Resource.toJson o).canonical, some o⟩

def version? (s : Stored K) : Option String := versionOf? s.document

/-- The same object under another version. -/
def renew (s : Stored K) (version : Nat) : Stored K where
  document := (stamp (toString version) s.document).canonical
  reading := s.reading.map (Resource.withVersion · version)

/-- Whether writing `object` would change nothing but the version. -/
def isSame (s : Stored K) (object : K) : Bool :=
  let unversioned (d : Json) := (d.mergePatch (.obj [("metadata",
    .obj [("resourceVersion", .null)])])).canonical
  unversioned (Resource.toJson object) == unversioned s.document

/-- The document with a patch merged into its status. -/
def patchedDocument (s : Stored K) (patch : Json) : Json :=
  (s.document.mergePatch (.obj [("status", patch)])).canonical

/-- An object whose status has been patched; it may read again where it did not before. -/
def patchStatus (s : Stored K) (patch : Json) : Stored K :=
  let d := s.patchedDocument patch
  ⟨d, Resource.ofJson? d⟩

end Stored

/-- The objects of one kind. -/
abbrev Shelf (K : Type) := Table ObjectKey (Stored K)

end GridOperator
