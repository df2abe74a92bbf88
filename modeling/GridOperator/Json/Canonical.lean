import GridOperator.Json.Basic

/-!
# Values whose objects are maps

Read as a map, an object is the same whatever the order of its members, and of
those with one name only the last counts. `Json.canonical` has one form for each
such value.
-/

namespace GridOperator.Json

mutual

/-- The value with the members of all its objects in the order of their names, the last one of each
name. -/
def canonical : Json → Json
  | .arr xs => .arr (canonicalItems xs)
  | .obj ms => .obj (Members.sort (canonicalMembers ms))
  | j => j

def canonicalItems : List Json → List Json
  | [] => []
  | x :: xs => canonical x :: canonicalItems xs

def canonicalMembers : List (String × Json) → List (String × Json)
  | [] => []
  | (k, x) :: ms => (k, canonical x) :: canonicalMembers ms

end

mutual

/-- Whether nothing in the value is unreadable. -/
def isReadable : Json → Bool
  | .unreadable => false
  | .arr xs => areItemsReadable xs
  | .obj ms => areMembersReadable ms
  | _ => true

def areItemsReadable : List Json → Bool
  | [] => true
  | x :: xs => isReadable x && areItemsReadable xs

def areMembersReadable : List (String × Json) → Bool
  | [] => true
  | (_, x) :: ms => isReadable x && areMembersReadable ms

end

/-- The canonical form of a value that can be read throughout, replaced members too. -/
def canonical? (j : Json) : Option Json := if j.isReadable then some j.canonical else none

end GridOperator.Json
