import GridOperator.Cluster.Basic
import GridOperator.Management.State
import GridOperator.Names
import GridOperator.Script

/-!
# Commands to a live cluster

Every command that changes the mode of a cluster is preceded by a question for
its mode: what a status says was true when it was written.
-/

namespace GridOperator

/-- What a cluster can be asked or told. -/
inductive ManageCall where
  | getState
  | changeState (state : ClusterState)
  | forceStart
  | hotBackup
  deriving DecidableEq

namespace ManageCall

abbrev Answer : ManageCall → Type
  | getState => Except Error ClusterState
  | changeState _ | forceStart | hotBackup => Except Error Unit

def line : ManageCall → String
  | getState => "get_state"
  | changeState state => "change_state " ++ state.name
  | forceStart => "force_start"
  | hotBackup => "hot_backup"

end ManageCall

def management : Interface := ⟨ManageCall, ManageCall.Answer⟩

namespace Management

def getState : Pass management ClusterState := .ofScript (Script.call (I := management) .getState)

def changeState (state : ClusterState) : Pass management Unit :=
  .ofScript (Script.call (I := management) (.changeState state))

def forceStart : Pass management Unit := .ofScript (Script.call (I := management) .forceStart)

def hotBackup : Pass management Unit := .ofScript (Script.call (I := management) .hotBackup)

/-- Makes the cluster passive, lets it back up its data, and makes it active again whatever came of
the backup. Only what comes of the first two counts. -/
def backUp : Pass management Unit := do
  changeState .passive
  let backup ← hotBackup.outcome
  let _ ← (changeState .active).outcome
  .ofExcept backup

/-- Whether the cluster says that it is passive. A mode that is not known is not passive. -/
def isPassive : Pass management Bool := do
  match ← getState.outcome with
  | .ok state => return state = .passive
  | .error (.unexpectedState _) => return false
  | .error e => .ofExcept (.error e)

end Management

/-- A member that keeps ending while it loads its data. -/
def MemberStatus.isCrashing (m : MemberStatus) : Bool :=
  !m.ready && m.reason = some Names.crashLoop

namespace Cluster

/-- The status's members; none without a status. -/
def members (c : Cluster) : List MemberStatus := (c.status.map (·.members)).getD []

/-- Whether members that crash may be started without their data, and one does. -/
def wantsForceStart (c : Cluster) : Bool :=
  c.spec.enabledPersistence.any (·.autoForceStart) && c.members.any (·.isCrashing)

/-- Starts the members of a passive cluster without their data if they cannot load it. Tells
whether it did. -/
def checkForceStart (c : Cluster) : Pass management Bool := do
  if !c.wantsForceStart then return false
  if !(← Management.isPassive) then return false
  Management.forceStart
  return true

/-- Whether all members have restored their data and wait to become active. -/
def awaitsActivation (c : Cluster) : Bool :=
  c.spec.restore.isSome && c.status.any fun s =>
    s.restore = some .succeeded && s.phase ≠ .pending
      && s.members.all (·.state = some ClusterState.passive.name)

/-- Makes a passive cluster active after a restore. Tells whether it did. -/
def ensureActive (c : Cluster) : Pass management Bool := do
  if !c.awaitsActivation then return false
  if !(← Management.isPassive) then return false
  Management.changeState .active
  return true

end Cluster

end GridOperator
