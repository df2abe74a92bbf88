import GridOperator.Json.Canonical
import GridOperator.Time.Timestamp

/-!
# Normal forms of platform objects

A `Shape` says which JSON values are accepted for a type of the platform's API,
and `Shape.normal?` brings an accepted one to normal form: members without a
declared field are dropped, null counts as missing, a missing required field gets
its zero value if its type has one, maps are in the order of their keys, times are
in UTC.

Fields are declared in the order of their names, which is the order of the
members of a normal form.
-/

namespace GridOperator.Kubernetes

inductive Shape where
  | text
  /-- An amount of a resource, kept as a text; an integer is one without a unit. -/
  | quantity
  | int32
  | int64
  | flag
  | intOrText
  | time
  /-- Octets in base 64. -/
  | octets
  | anything
  | list (item : Shape)
  | map (value : Shape)
  /-- Each field with whether it is required. -/
  | object (fields : List (String × Bool × Shape))
  /-- An object that states its version and kind, which are checked when they are there. -/
  | resource (apiVersion kind : String) (fields : List (String × Bool × Shape))

/-- A declared field. -/
abbrev Field := String × Bool × Shape

def opt (name : String) (shape : Shape) : Field := (name, false, shape)

def req (name : String) (shape : Shape) : Field := (name, true, shape)

/-- Whether a text is base 64, padded. -/
def isBase64 (s : String) : Bool :=
  let cs := s.toList
  let digit? (c : Char) : Option Nat :=
    if 'A' ≤ c ∧ c ≤ 'Z' then some (c.toNat - 65)
    else if 'a' ≤ c ∧ c ≤ 'z' then some (c.toNat - 71)
    else if '0' ≤ c ∧ c ≤ '9' then some (c.toNat + 4)
    else if c = '+' then some 62
    else if c = '/' then some 63
    else none
  let ds := cs.takeWhile (· != '=')
  let pad := cs.dropWhile (· != '=')
  -- the bits of the last digit that belong to no octet are zero
  let spare := (ds.getLast?.bind digit?).getD 0
  cs.length % 4 == 0 && ds.all (fun c => (digit? c).isSome) && pad.all (· == '=')
    && pad.length ≤ 2 && (pad.length != 1 || spare % 4 == 0) && (pad.length != 2 || spare % 16 == 0)

namespace Shape

mutual

/-- The value of a required field that is missing; there is no such moment in time. -/
def zero? : Shape → Option Json
  | .text | .quantity | .octets => some (.str "")
  | .int32 | .int64 | .intOrText => some (.int 0)
  | .flag => some (.bool false)
  | .time => none
  | .anything => some .null
  | .list _ => some (.arr [])
  | .map _ => some (.obj [])
  | .object fields => (zeroFields? fields).map .obj
  | .resource v k fields =>
    (zeroFields? fields).map fun fs => .obj (("apiVersion", .str v) :: ("kind", .str k) :: fs)

def zeroFields? : List (String × Bool × Shape) → Option Members
  | [] => some []
  | (name, required, s) :: fs => do
    let rest ← zeroFields? fs
    if required then return (name, ← zero? s) :: rest else return rest

end

/-- Whether every member of a name is a certain text. -/
def states (ms : Members) (name value : String) : Bool :=
  ms.all fun m => m.1 != name || m.2 == .str value

/-- The last value of a repeated member; each of them has to be acceptable, or null. -/
def lastNormal? (normal? : Json → Option Json) (name : String) (ms : Members) :
    Option (Option Json) := do
  let values ← (List.filter (·.1 == name) ms).mapM fun m =>
    if m.2.isNull then some none else (normal? m.2).map some
  return values.getLast?.join

mutual

/-- The normal form of an accepted value. -/
def normal? : Shape → Json → Option Json
  | .text, .str s => some (.str s)
  | .quantity, .str s => some (.str s)
  | .quantity, .int n => some (.str (toString n))
  | .int32, .int n => if -0x80000000 ≤ n ∧ n < 0x80000000 then some (.int n) else none
  | .int64, .int n =>
    if -0x8000000000000000 ≤ n ∧ n < 0x8000000000000000 then some (.int n) else none
  | .flag, .bool b => some (.bool b)
  | .intOrText, .str s => some (.str s)
  | .intOrText, .int n => if -0x80000000 ≤ n ∧ n < 0x80000000 then some (.int n) else none
  | .time, .str s => (Timestamp.parseLoose? s).map fun t => .str t.render
  | .octets, .str s => if isBase64 s then some (.str s) else none
  | .anything, j => j.canonical?
  | .list s, .arr xs => (xs.mapM (normal? s)).map .arr
  | .map s, .obj ms => do
    let values ← ms.mapM fun m => normal? s m.2
    return .obj (Members.sort ((ms.map (·.1)).zip values))
  | .object fields, .obj ms => (normalFields? fields ms).map .obj
  | .resource v k fields, .obj ms =>
    if states ms "apiVersion" v && states ms "kind" k then
      (normalFields? fields ms).map fun fs =>
        .obj (("apiVersion", .str v) :: ("kind", .str k) :: fs)
    else none
  | _, _ => none

def normalFields? : List (String × Bool × Shape) → Members → Option Members
  | [], _ => some []
  | (name, required, s) :: fs, ms => do
    let value ← lastNormal? (normal? s) name ms
    let rest ← normalFields? fs ms
    match value with
    | some x => return (name, x) :: rest
    | none => if required then return (name, ← zero? s) :: rest else return rest

end

end Shape

end GridOperator.Kubernetes
