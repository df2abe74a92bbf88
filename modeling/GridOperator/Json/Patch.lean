import GridOperator.Json.Basic
import GridOperator.Text.Digits

/-!
# Merge patches and pointers

`Json.mergePatch` applies a merge patch: members of the patch replace members of
the target, objects are merged, `null` removes. `Json.at?` follows a pointer.
-/

namespace GridOperator

namespace Members

def erase (ms : Members) (name : String) : Members := ms.filter (·.1 != name)

end Members

namespace Json

mutual

/-- `target` changed as `patch` says. -/
def mergePatch (target : Json) : Json → Json
  | .obj ps => .obj (mergeMembers target.members ps)
  | patch => patch

/-- Each member of the patch in turn removes its namesake or takes its place. -/
def mergeMembers (ms : Members) : List (String × Json) → Members
  | [] => ms
  | (k, .null) :: ps => mergeMembers (ms.erase k) ps
  | (k, p) :: ps => mergeMembers (ms.set k (mergePatch ((ms.get? k).getD .null) p)) ps

end

/-- The members of a pointer's text, with its two escapes undone. -/
def pointerSteps (cs : List Char) : List (List Char) :=
  match cs with
  | [] => [[]]
  | '/' :: cs => [] :: pointerSteps cs
  | '~' :: '1' :: cs => put '/' (pointerSteps cs)
  | '~' :: '0' :: cs => put '~' (pointerSteps cs)
  | c :: cs => put c (pointerSteps cs)
where
  put (c : Char) : List (List Char) → List (List Char)
    | p :: ps => (c :: p) :: ps
    | [] => [[c]]

/-- The place of an item in an array: digits without a leading zero. -/
def index? (cs : List Char) : Option Nat :=
  if cs.isEmpty || !cs.all Char.isDigit || (cs.length ≠ 1 && cs.head? == some '0') then none
  else some (Text.decimal cs)

/-- The value inside `j` that a path leads to. -/
def follow (j : Json) : List (List Char) → Option Json
  | [] => some j
  | p :: ps =>
    match j with
    | .obj ms =>
      match Members.get? ms (String.ofList p) with
      | some x => follow x ps
      | none => none
    | .arr xs =>
      match (index? p).bind (xs[·]?) with
      | some x => follow x ps
      | none => none
    | _ => none

/-- The value at a pointer: the whole value for the empty one; any other starts with a slash. -/
def at? (j : Json) (pointer : String) : Option Json :=
  match pointer.toList with
  | [] => some j
  | '/' :: cs => follow j (pointerSteps cs)
  | _ => none

end Json

end GridOperator
