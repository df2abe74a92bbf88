/-!
# YAML documents
-/

namespace GridOperator

/-- A document, or a part of one. -/
inductive Yaml where
  | str (value : String)
  | int (value : Int)
  | bool (value : Bool)
  | seq (items : List Yaml)
  | map (entries : List (String × Yaml))
  deriving Inhabited

namespace Yaml

/-- The entries that have a value. -/
def ofSome (es : List (String × Option Yaml)) : Yaml :=
  .map (es.filterMap fun e => e.2.map (e.1, ·))

/-- A text that counts as missing when it is empty. -/
def nonempty (s : String) : Option Yaml := if s.isEmpty then none else some (.str s)

end Yaml

end GridOperator
