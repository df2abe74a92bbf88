import GridOperator.Desired.Service
import GridOperator.Json.Reader
import GridOperator.Json.Record
import GridOperator.Json.Writer
import GridOperator.Kubernetes.StatefulSet

/-!
# The topology a cluster was last brought to

It is noted on the stateful set. When a cluster shrinks, the note tells which
services of single members are left over.
-/

namespace GridOperator

open Kubernetes

structure Topology where
  version : UInt32 := 0
  perPodCount : Int32 := 0
  deriving DecidableEq

namespace Topology

/-- The version of notes that are written now; others are not understood. -/
def current : UInt32 := 1

def ofJson? (j : Json) : Option Topology := do
  let r ← Record.ofJson? ["version", "servicePerPodCount"] j
  return {
    version := ← r.required "version" Json.uint32
    perPodCount := ← r.required "servicePerPodCount" Json.int32 }

def toJson (t : Topology) : Json := .obj [
  ("version", .ofUInt32 t.version),
  ("servicePerPodCount", .ofInt32 t.perPodCount)]

def render (t : Topology) : String := t.toJson.render

/-- The topology that a cluster should have. -/
def desired (c : Cluster) : Topology where
  version := current
  perPodCount := if c.spec.isSmart then max c.spec.clusterSize 0 else 0

/-- The topology noted on a stateful set, if there is a note that is understood. -/
def ofStatefulSet? (s : StatefulSet) : Option Topology :=
  ((s.metadata.annotation? Names.topologyAnnotation).bind fun text =>
    (Json.parse? text).bind ofJson?).filter (·.version = current)

/-- The first index that is too high for `desired`, and the first that `previous` never had. -/
def staleBounds (previous desired : Topology) : Int32 × Int32 :=
  (desired.perPodCount, max previous.perPodCount desired.perPodCount)

/-- The indices of services that `previous` had and `desired` has not. -/
def staleIndices (previous desired : Topology) : List Nat :=
  let (lo, hi) := staleBounds previous desired
  List.range' lo.toInt.toNat (hi.toInt - lo.toInt).toNat

end Topology

end GridOperator
