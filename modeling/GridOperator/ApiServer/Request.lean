import GridOperator.ApiServer.Kind
import GridOperator.Names

/-!
# Requests to the platform, and how they are made to fail
-/

namespace GridOperator

open Kubernetes

inductive Method where
  | get
  | list
  | post
  | put
  | patch
  | delete
  deriving DecidableEq

namespace Method

def name : Method → String
  | get => "GET"
  | list => "LIST"
  | post => "POST"
  | put => "PUT"
  | patch => "PATCH"
  | delete => "DELETE"

def all : List Method := [get, list, post, put, patch, delete]

def ofName? (name : String) : Option Method := all.find? (·.name = name)

/-- Whether requests of the method say who writes. -/
def namesWriter : Method → Bool
  | post | put | patch => true
  | get | list | delete => false

end Method

/-- A request; a list has the labels it selects by in place of a name. -/
structure Request where
  method : Method
  kind : Kind
  key : ObjectKey
  labels : TextMap := []

namespace Request

/-- Whether a character may stand unescaped anywhere in an address. -/
def isVisible (c : Char) : Bool := 0x20 < c.toNat && c != '<' && c != '>'

/-- Whether a name can stand in an address as it is. From a question mark on it is a query, where
other characters are refused than in a path; the mark of a place ends what is sent. -/
def isAddressable (name : String) : Bool := inPath name.toList
where
  inPath : List Char → Bool
    | [] => true
    | c :: cs =>
      if c = '#' then true
      else if c = '?' then inQuery cs
      else isVisible c && c != '\x60' && inPath cs
  inQuery : List Char → Bool
    | [] => true
    | c :: cs => c = '#' || (isVisible c && c != '\"' && inQuery cs)

/-- The part of a name that a path holds; what follows is a query or the mark of a place. -/
def addressed (name : String) : String :=
  String.ofList (name.toList.takeWhile fun c => c != '?' && c != '#')

/-- The key by which an object is asked for, if its name can stand in an address. -/
def key? (space name : String) : Option ObjectKey :=
  if !name.isEmpty && isAddressable space && isAddressable name then some ⟨space, addressed name⟩
  else none

def selector (labels : TextMap) : String :=
  ",".intercalate (labels.map fun l => l.1 ++ "=" ++ l.2)

/-- The line that notes a request and the code of its answer. -/
def line (r : Request) (code : Nat) : String :=
  let start := r.method.name ++ " " ++ r.kind.name ++ " "
  match r.method with
  | .list => start ++ r.key.space ++ " " ++ toString code ++ " [" ++ selector r.labels ++ "]"
  | method =>
    start ++ r.key.render ++ (if method = .patch then " status" else "") ++ " " ++ toString code
      ++ if method.namesWriter then " by " ++ Names.writer else ""

end Request

/-- What is to go wrong with the next requests of a sort. -/
structure Fault where
  method : Method
  kind : Kind
  name : Option String := none
  /-- The code by which requests are refused. -/
  code : Option Nat := none
  /-- Whether somebody else writes the object right after the request. -/
  bump : Bool := false
  /-- How many requests are hit. -/
  times : Nat := 1

namespace Fault

def hits (f : Fault) (r : Request) : Bool :=
  f.method = r.method && f.kind = r.kind && f.name.all (· = r.key.name)

/-- The first fault that hits a request, and the faults left over. -/
def take (r : Request) : List Fault → Option Fault × List Fault
  | [] => (none, [])
  | f :: fs =>
    if f.hits r then (some f, if f.times ≤ 1 then fs else { f with times := f.times - 1 } :: fs)
    else
      let (hit, rest) := take r fs
      (hit, f :: rest)

end Fault

end GridOperator
