import GridOperator.Kubernetes.Shape.Meta
import GridOperator.Kubernetes.TextMap

/-!
# Metadata of platform objects

The types of this folder name the fields that the operator reads or writes; the
remaining fields of a normal form are kept under `other`. `Resource` is what all
kinds of objects have in common.
-/

namespace GridOperator.Kubernetes

/-- The object that another one belongs to. -/
structure OwnerReference where
  apiVersion : String
  kind : String
  name : String
  uid : String
  controller : Option Bool := none
  blockOwnerDeletion : Option Bool := none
  deriving DecidableEq

namespace OwnerReference

def toJson (r : OwnerReference) : Json :=
  .sorted [("apiVersion", some (.str r.apiVersion)), ("kind", some (.str r.kind)),
    ("name", some (.str r.name)), ("uid", some (.str r.uid)),
    ("controller", r.controller.map .bool),
    ("blockOwnerDeletion", r.blockOwnerDeletion.map .bool)] []

def ofNormal (j : Json) : OwnerReference :=
  let ms := j.members
  { apiVersion := ms.text "apiVersion"
    kind := ms.text "kind"
    name := ms.text "name"
    uid := ms.text "uid"
    controller := ms.flag? "controller"
    blockOwnerDeletion := ms.flag? "blockOwnerDeletion" }

end OwnerReference

structure ObjectMeta where
  name : Option String := none
  generateName : Option String := none
  /-- The namespace; none for cluster-scoped objects. -/
  space : Option String := none
  uid : Option String := none
  resourceVersion : Option String := none
  labels : Option TextMap := none
  annotations : Option TextMap := none
  finalizers : Option (List String) := none
  ownerReferences : Option (List OwnerReference) := none
  /-- When the deletion of the object was asked for. -/
  deletionTimestamp : Option String := none
  other : Members := []
  deriving DecidableEq

namespace ObjectMeta

def toJson (m : ObjectMeta) : Json :=
  .sorted [("name", m.name.map .str), ("generateName", m.generateName.map .str),
    ("namespace", m.space.map .str), ("uid", m.uid.map .str),
    ("resourceVersion", m.resourceVersion.map .str), ("labels", m.labels.map TextMap.toJson),
    ("annotations", m.annotations.map TextMap.toJson), ("finalizers", m.finalizers.map .strings),
    ("ownerReferences", m.ownerReferences.map (.ofList OwnerReference.toJson)),
    ("deletionTimestamp", m.deletionTimestamp.map .str)] m.other

def ofNormal (j : Json) : ObjectMeta :=
  let ms := j.members
  { name := ms.text? "name"
    generateName := ms.text? "generateName"
    space := ms.text? "namespace"
    uid := ms.text? "uid"
    resourceVersion := ms.text? "resourceVersion"
    labels := ms.textMap? "labels"
    annotations := ms.textMap? "annotations"
    finalizers := ms.texts? "finalizers"
    ownerReferences := ms.list? "ownerReferences" OwnerReference.ofNormal
    deletionTimestamp := ms.text? "deletionTimestamp"
    other := ms.without ["name", "generateName", "namespace", "uid", "resourceVersion", "labels",
      "annotations", "finalizers", "ownerReferences", "deletionTimestamp"] }

def ofJson? (j : Json) : Option ObjectMeta := (Shape.objectMeta.normal? j).map ofNormal

/-- The name, or the beginning of a name that is still to be made up, or nothing. -/
def anyName (m : ObjectMeta) : String := (m.name <|> m.generateName).getD ""

def label? (m : ObjectMeta) (key : String) : Option String := m.labels.bind (Table.get? key)

def annotation? (m : ObjectMeta) (key : String) : Option String :=
  m.annotations.bind (Table.get? key)

def annotate (m : ObjectMeta) (key value : String) : ObjectMeta :=
  { m with annotations := some (Table.set key value (m.annotations.getD [])) }

def isDeleted (m : ObjectMeta) : Bool := m.deletionTimestamp.isSome

end ObjectMeta

/-- A selection of objects by their labels. -/
structure LabelSelector where
  matchLabels : Option TextMap := none
  other : Members := []
  deriving DecidableEq

namespace LabelSelector

def toJson (s : LabelSelector) : Json :=
  .sorted [("matchLabels", s.matchLabels.map TextMap.toJson)] s.other

def ofNormal (j : Json) : LabelSelector :=
  { matchLabels := j.members.textMap? "matchLabels"
    other := j.members.without ["matchLabels"] }

end LabelSelector

/-- A number or a name, as for ports. -/
inductive IntOrText where
  | int (n : Int)
  | text (s : String)
  deriving DecidableEq

namespace IntOrText

def toJson : IntOrText → Json
  | .int n => .int n
  | .text s => .str s

def ofNormal : Json → IntOrText
  | .int n => .int n
  | j => .text (j.str?.getD "")

end IntOrText

/-- Namespace and name of an object. -/
structure ObjectKey where
  space : String
  name : String
  deriving DecidableEq, Repr

namespace ObjectKey

/-- By namespaces, and by names within a namespace. -/
instance : LT ObjectKey := ⟨fun a b => a.space < b.space ∨ (a.space = b.space ∧ a.name < b.name)⟩

instance : DecidableLT ObjectKey := fun a b =>
  inferInstanceAs (Decidable (a.space < b.space ∨ (a.space = b.space ∧ a.name < b.name)))

def render (k : ObjectKey) : String := k.space ++ "/" ++ k.name

end ObjectKey

/-- A kind of objects, with its metadata and its JSON. -/
class Resource (K : Type) where
  kind : String
  metadata : K → ObjectMeta
  withMetadata : K → ObjectMeta → K
  toJson : K → Json
  ofJson? : Json → Option K

namespace Resource

variable [Resource K]

def anyName (obj : K) : String := (metadata obj).anyName

/-- Namespace and name, empty where there is none. -/
def key (obj : K) : ObjectKey := ⟨(metadata obj).space.getD "", anyName obj⟩

def mapMetadata (f : ObjectMeta → ObjectMeta) (obj : K) : K := withMetadata obj (f (metadata obj))

def withVersion (obj : K) (version : Nat) : K :=
  mapMetadata (fun m => { m with resourceVersion := some (toString version) }) obj

end Resource

end GridOperator.Kubernetes
