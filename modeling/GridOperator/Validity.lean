import GridOperator.Cron.Crontab
import GridOperator.HotBackup
import GridOperator.RestoreProvider

/-!
# Which specifications are accepted
-/

namespace GridOperator

namespace Cluster

def checkExposure (c : Cluster) : Except Error Unit :=
  match c.spec.exposeExternally with
  | some e =>
    if e.type = .unisocket ∧ e.memberAccess.isSome then
      .error (.invalid .unisocketMemberAccess)
    else .ok ()
  | none => .ok ()

def checkLicense (c : Cluster) : Except Error Unit :=
  if c.spec.isEnterprise && c.spec.licenseKeySecret.isEmpty then
    .error (.invalid .licenseMissing)
  else .ok ()

def checkRestore (c : Cluster) : Except Error Unit :=
  match c.spec.restore with
  | some r => discard r.provider
  | none => .ok ()

/-- Accepts a specification that can be carried out; of several objections the first counts. -/
def check (c : Cluster) : Except Error Unit := do
  c.checkExposure
  c.checkLicense
  c.checkRestore

end Cluster

namespace HotBackup

/-- Accepts a backup that `cluster` can make. -/
def check (b : HotBackup) (cluster : Cluster) : Except Error Unit :=
  if cluster.spec.persistenceExternal && b.spec.secret.isEmpty then
    .error (.invalid .backupSecretMissing)
  else if !cluster.spec.persistenceEnabled then
    .error (.invalid (.notPersistent b.spec.clusterResource))
  else if b.spec.schedule.isEmpty then .ok ()
  else match Cron.Crontab.parse? b.spec.schedule with
    | some _ => .ok ()
    | none => .error (.schedule b.spec.schedule)

end HotBackup

end GridOperator
