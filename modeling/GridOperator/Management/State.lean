import GridOperator.Error
import GridOperator.Text.Split

/-!
# Operating modes of a cluster
-/

namespace GridOperator

/-- The mode a live cluster is in. A passive one keeps still, for a backup or after a restore. -/
inductive ClusterState where
  | active
  | passive
  deriving DecidableEq

namespace ClusterState

def name : ClusterState → String
  | active => "ACTIVE"
  | passive => "PASSIVE"

/-- The letters' case does not matter. -/
def parse (raw : String) : Except Error ClusterState :=
  let word := Text.asciiLower raw
  if word = "active" then .ok active
  else if word = "passive" then .ok passive
  else .error (.unexpectedState raw)

end ClusterState

end GridOperator
