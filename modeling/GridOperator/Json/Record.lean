import GridOperator.Json.Basic

/-!
# Reading records

A record with declared fields is written as an object, where members of other
names are ignored and a repeated field is an error, or as an array with the
fields in their declared order, where trailing ones may be missing.

A field is read in one of three ways: `required`, `withDefault` (may be missing
but not null) and `optional` (may be null, and in an object also missing).
-/

namespace GridOperator

namespace Json

/-- Reads a value of some type; `none` refuses it. -/
abbrev Decoder (α : Type) := Json → Option α

def text : Decoder String := str?

def flag : Decoder Bool := bool?

def int32 : Decoder Int32
  | .int n => if -0x80000000 ≤ n ∧ n < 0x80000000 then some (Int32.ofInt n) else none
  | _ => none

def uint32 : Decoder UInt32
  | .int n => if 0 ≤ n ∧ n < 0x100000000 then some (UInt32.ofNat n.toNat) else none
  | _ => none

def ofInt32 (n : Int32) : Json := .int n.toInt

def ofUInt32 (n : UInt32) : Json := .int n.toNat

def list (item : Decoder α) : Decoder (List α)
  | .arr xs => xs.mapM item
  | _ => none

def nullable (value : Decoder α) : Decoder (Option α)
  | .null => some none
  | j => (value j).map some

/-- A map from texts, in the order of its keys; of a repeated key the last value stands. -/
def mapOf (value : Decoder α) : Decoder (List (String × α))
  | .obj ms => do
    -- every value has to be readable, the replaced ones too
    let _ ← ms.mapM fun m => value m.2
    (Members.sort ms).mapM fun m => do return (m.1, ← value m.2)
  | _ => none

/-- One of a set of names, alone or as the only member of an object, with the value null. -/
def named (names : List (String × α)) : Decoder α
  | .str s => names.lookup s
  | .obj [(s, .null)] => names.lookup s
  | _ => none

end Json

/-- A record's members under reading; `positional` tells that it was an array. -/
structure Record where
  members : Members
  positional : Bool

namespace Record

/-- The record in `j` with the given fields. -/
def ofJson? (fields : List String) : Json → Option Record
  | .obj ms =>
    let own := ms.filter fun m => fields.contains m.1
    if (own.map (·.1)).eraseDups.length = own.length then some ⟨own, false⟩ else none
  | .arr xs => if xs.length ≤ fields.length then some ⟨fields.zip xs, true⟩ else none
  | _ => none

def get? (r : Record) (field : String) : Option Json := r.members.lookup field

def required (r : Record) (field : String) (value : Json.Decoder α) : Option α :=
  r.get? field |>.bind value

def withDefault (r : Record) (field : String) (value : Json.Decoder α) (default : α) : Option α :=
  match r.get? field with
  | none => some default
  | some j => value j

def optional (r : Record) (field : String) (value : Json.Decoder α) : Option (Option α) :=
  match r.get? field with
  | none => if r.positional then none else some none
  | some j => Json.nullable value j

end Record

end GridOperator
