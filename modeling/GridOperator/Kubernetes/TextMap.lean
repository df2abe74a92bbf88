import GridOperator.Json.Basic

/-!
# Maps from texts to texts

Labels, annotations, selectors and data.
-/

namespace GridOperator

abbrev TextMap := Table String String

namespace TextMap

/-- Whether every entry of `sub` is one of `m`. -/
def includes (m sub : TextMap) : Bool := sub.all fun e => Table.get? e.1 m == some e.2

def toJson (m : TextMap) : Json := .obj (m.map fun e => (e.1, .str e.2))

def ofJson (j : Json) : TextMap := j.members.filterMap fun e => e.2.str?.map (e.1, ·)

end TextMap

/-! ## Members of normal forms

A normal form is known to be of its shape, so reading it cannot fail; a member
that is not there, or not of the expected kind, counts as missing.
-/

namespace Members

def text? (ms : Members) (name : String) : Option String := (ms.get? name).bind Json.str?

def text (ms : Members) (name : String) : String := (ms.text? name).getD ""

def int? (ms : Members) (name : String) : Option Int := (ms.get? name).bind Json.int?

def int (ms : Members) (name : String) : Int := (ms.int? name).getD 0

def flag? (ms : Members) (name : String) : Option Bool := (ms.get? name).bind Json.bool?

def flag (ms : Members) (name : String) : Bool := (ms.flag? name).getD false

def sub? (ms : Members) (name : String) (read : Json → α) : Option α := (ms.get? name).map read

def list? (ms : Members) (name : String) (read : Json → α) : Option (List α) :=
  ms.sub? name fun j => j.items.map read

def list (ms : Members) (name : String) (read : Json → α) : List α :=
  (ms.list? name read).getD []

def texts? (ms : Members) (name : String) : Option (List String) :=
  ms.sub? name fun j => j.items.filterMap Json.str?

def textMap? (ms : Members) (name : String) : Option TextMap := ms.sub? name TextMap.ofJson

end Members

namespace Json

/-- The object with the members that have a value and further ones, in the order of their names. -/
def sorted (known : List (String × Option Json)) (other : Members) : Json :=
  .obj (Members.sort (ofSome known ++ other))

end Json

end GridOperator
