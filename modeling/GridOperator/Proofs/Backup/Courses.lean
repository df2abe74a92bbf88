import GridOperator.Backup.Pass
import GridOperator.Proofs.Script.Execution

/-!
# The courses of a pass over a backup

What the parts of a pass call, and what the pass makes of the answers, is the same in
every world. `RunCourse`, `AttendCourse`, `FinalizeCourse` and `PassCourse` have a case
for each way through; what the calls do is left to the world.
-/

namespace GridOperator

open Kubernetes Pass
open Script (Environment)

/-- The expression by which a backup is repeated; none for a single one. -/
def HotBackupSpec.recurrence? (s : HotBackupSpec) : Option String :=
  if s.schedule.isEmpty then none else some s.schedule

/-- The phase in the status; a cluster without a status is still to come up. -/
def Cluster.phase (c : Cluster) : Phase := (c.status.map (·.phase)).getD .pending

namespace HotBackup

variable {C : Type}

/-- How a pass ends that has done what the backup asks for. That the record cannot be written is no
error. -/
def record (b : HotBackup) : Pass (backupCalls C) Next := do
  let record := Store.annotate (K := HotBackup) (Resource.anyName b) Names.lastSpecAnnotation
    b.specText
  let _ ← (record.embed viaBackups).outcome
  return .onChange

/-- What a pass does about a live backup whose specification is not recorded. -/
def attend (b : HotBackup) : Pass (backupCalls C) Next := do
  match ← (Store.get (K := Cluster) b.spec.clusterResource).embed viaClusters with
  | none => return .after 30
  | some cluster =>
    let client ← ExceptT.lift (Script.call (I := backupCalls C) (.client cluster))
    match ← run (Resource.key b) b cluster client with
    | .deferred => return .after 30
    | .scheduled | .triggered => b.record

theorem reconcile_of_isDeleted {b : HotBackup} (h : b.metadata.isDeleted) :
    b.reconcile (C := C) = b.finalize := by
  unfold reconcile
  exact if_pos h

theorem reconcile_eq {b : HotBackup} (hlive : b.metadata.isDeleted = false) :
    b.reconcile (C := C) = (do
      let _ ← (Store.addFinalizer b).embed viaBackups
      if b.alreadyApplied then return .onChange else b.attend) := by
  unfold reconcile
  exact if_neg (Bool.not_eq_true _ ▸ hlive)

/-! ## Courses -/

variable {σ : Type}

/-- What the work on a cluster that is stored may come to. -/
inductive RunCourse (env : Environment (backupCalls C) σ) (key : ObjectKey) (b : HotBackup)
    (cluster : Cluster) (client : C) (w : σ) : Except Error BackupOutcome → σ → Prop where
  | deferred (hphase : cluster.phase ≠ .running) :
      RunCourse env key b cluster client w (.ok .deferred) w
  | refused {e : Error} (hcheck : b.check cluster = .error e) :
      RunCourse env key b cluster client w (.error e) w
  | single {held : Bool} {v w' : σ} {backup : Except Error Unit} (hsingle : b.spec.schedule.isEmpty)
      (hended : env (.unschedule key) w held v)
      (hbackup : Exec env (Management.backUp.embed (viaClient client)) v backup w') :
      RunCourse env key b cluster client w (backup.map fun _ => .triggered) w'
  | recurring {told : Except Error Unit} {w' : σ} (hrecurring : ¬ b.spec.schedule.isEmpty)
      (htold : env (.schedule key b.spec.schedule client) w told w') :
      RunCourse env key b cluster client w (told.map fun _ => .scheduled) w'

/-- What the work on a live backup may come to whose specification is not recorded. -/
inductive AttendCourse (env : Environment (backupCalls C) σ) (b : HotBackup) (w : σ) :
    Except Error Next → σ → Prop where
  | unseen {e : Error} {w' : σ}
      (hget : Exec env ((Store.get b.spec.clusterResource).embed viaClusters) w (.error e) w') :
      AttendCourse env b w (.error e) w'
  | absent {w' : σ}
      (hget : Exec env ((Store.get b.spec.clusterResource).embed viaClusters) w (.ok none) w') :
      AttendCourse env b w (.ok (.after 30)) w'
  | failed {cluster : Cluster} {client : C} {u v w' : σ} {e : Error}
      (hget : Exec env ((Store.get b.spec.clusterResource).embed viaClusters) w
        (.ok (some cluster)) u)
      (hclient : env (.client cluster) u client v)
      (hrun : Exec env (b.run (Resource.key b) cluster client) v (.error e) w') :
      AttendCourse env b w (.error e) w'
  | deferred {cluster : Cluster} {client : C} {u v w' : σ}
      (hget : Exec env ((Store.get b.spec.clusterResource).embed viaClusters) w
        (.ok (some cluster)) u)
      (hclient : env (.client cluster) u client v)
      (hrun : Exec env (b.run (Resource.key b) cluster client) v (.ok .deferred) w') :
      AttendCourse env b w (.ok (.after 30)) w'
  | done {cluster : Cluster} {client : C} {u v x w' : σ} {outcome : BackupOutcome}
      {r : Except Error Next}
      (hget : Exec env ((Store.get b.spec.clusterResource).embed viaClusters) w
        (.ok (some cluster)) u)
      (hclient : env (.client cluster) u client v)
      (hrun : Exec env (b.run (Resource.key b) cluster client) v (.ok outcome) x)
      (houtcome : outcome ≠ .deferred) (hrecord : Exec env b.record x r w') :
      AttendCourse env b w r w'

/-- What a pass over a backup may come to that is on its way out. -/
inductive FinalizeCourse (env : Environment (backupCalls C) σ) (b : HotBackup) (w : σ) :
    Except Error Next → σ → Prop where
  | bare (hbare : b.metadata.hasFinalizer = false) : FinalizeCourse env b w (.ok .onChange) w
  | ended {held : Bool} {v w' : σ} {removed : Except Error Bool}
      (hcarries : b.metadata.hasFinalizer)
      (hended : env (.unschedule (Resource.key b)) w held v)
      (hremove : Exec env ((Store.removeFinalizer b).embed viaBackups) v removed w') :
      FinalizeCourse env b w (removed.map fun _ => .onChange) w'

/-- What a pass over a backup may come to. -/
inductive PassCourse (env : Environment (backupCalls C) σ) (b : HotBackup) (w : σ) :
    Except Error Next → σ → Prop where
  | finalized {r : Except Error Next} {w' : σ} (hdeleted : b.metadata.isDeleted)
      (hfinalize : Exec env b.finalize w r w') : PassCourse env b w r w'
  | refused {e : Error} {w' : σ} (hlive : b.metadata.isDeleted = false)
      (hadd : Exec env ((Store.addFinalizer b).embed viaBackups) w (.error e) w') :
      PassCourse env b w (.error e) w'
  | applied {added : Bool} {w' : σ} (hlive : b.metadata.isDeleted = false)
      (hadd : Exec env ((Store.addFinalizer b).embed viaBackups) w (.ok added) w')
      (happlied : b.alreadyApplied) : PassCourse env b w (.ok .onChange) w'
  | attended {added : Bool} {v w' : σ} {r : Except Error Next}
      (hlive : b.metadata.isDeleted = false)
      (hadd : Exec env ((Store.addFinalizer b).embed viaBackups) w (.ok added) v)
      (hunrecorded : b.alreadyApplied = false) (hattend : Exec env b.attend v r w') :
      PassCourse env b w r w'

variable {env : Environment (backupCalls C) σ} {key : ObjectKey} {b : HotBackup} {cluster : Cluster}
  {client : C} {w w' : σ} {r : Except Error Next}

theorem runCourse_of_exec {r : Except Error BackupOutcome}
    (h : Exec env (b.run key cluster client) w r w') :
    RunCourse env key b cluster client w r w' := by
  unfold run at h
  split at h
  · rename_i hphase
    obtain ⟨rfl, rfl⟩ := exec_pure.1 h
    exact .deferred hphase
  cases hcheck : b.check cluster with
  | error e =>
    rw [hcheck] at h
    obtain ⟨_, v, hrefused, hend⟩ := exec_bind.1 h
    obtain ⟨rfl, rfl⟩ := exec_ofExcept.1 hrefused
    obtain ⟨rfl, rfl⟩ := hend
    exact .refused hcheck
  | ok =>
    rw [hcheck] at h
    replace h := exec_ok_bind.1 h
    split at h
    · rename_i hsingle
      obtain ⟨_, v, hended, h⟩ := exec_bind.1 h
      obtain ⟨held, rfl, hcall⟩ := exec_lift.1 hended
      obtain ⟨backup, hbackup, rfl⟩ := exec_bind_pure.1 h
      exact .single hsingle (Script.exec_call.1 hcall) hbackup
    · rename_i hrecurring
      obtain ⟨told, htold, rfl⟩ := exec_bind_pure.1 h
      exact .recurring hrecurring (Script.exec_call.1 htold)

theorem attendCourse_of_exec (h : Exec env b.attend w r w') : AttendCourse env b w r w' := by
  obtain ⟨found, u, hget, h⟩ := exec_bind.1 h
  rcases found with e | _ | cluster
  · obtain ⟨rfl, rfl⟩ := h
    exact .unseen hget
  · obtain ⟨rfl, rfl⟩ := exec_pure.1 h
    exact .absent hget
  obtain ⟨_, v, hclient, h⟩ := exec_bind.1 h
  obtain ⟨client, rfl, hcall⟩ := exec_lift.1 hclient
  replace hclient := Script.exec_call.1 hcall
  obtain ⟨outcome, x, hrun, h⟩ := exec_bind.1 h
  rcases outcome with e | _ | _ | _
  · obtain ⟨rfl, rfl⟩ := h
    exact .failed hget hclient hrun
  · exact .done hget hclient hrun nofun h
  · exact .done hget hclient hrun nofun h
  · obtain ⟨rfl, rfl⟩ := exec_pure.1 h
    exact .deferred hget hclient hrun

theorem finalizeCourse_of_exec (h : Exec env b.finalize w r w') : FinalizeCourse env b w r w' := by
  unfold finalize at h
  split at h
  · rename_i hcarries
    obtain ⟨_, v, hended, h⟩ := exec_bind.1 h
    obtain ⟨held, rfl, hcall⟩ := exec_lift.1 hended
    obtain ⟨removed, hremove, rfl⟩ := exec_bind_pure.1 h
    exact .ended hcarries (Script.exec_call.1 hcall) hremove
  · rename_i hbare
    obtain ⟨rfl, rfl⟩ := exec_pure.1 h
    exact .bare (eq_false_of_ne_true hbare)

theorem passCourse_of_exec (h : Exec env b.reconcile w r w') : PassCourse env b w r w' := by
  cases hlive : b.metadata.isDeleted with
  | true =>
    rw [reconcile_of_isDeleted hlive] at h
    exact .finalized hlive h
  | false =>
    rw [reconcile_eq hlive] at h
    obtain ⟨added, v, hadd, h⟩ := exec_bind.1 h
    cases added with
    | error e =>
      obtain ⟨rfl, rfl⟩ := h
      exact .refused hlive hadd
    | ok added =>
      dsimp only at h
      split at h
      · rename_i happlied
        obtain ⟨rfl, rfl⟩ := exec_pure.1 h
        exact .applied hlive hadd happlied
      · rename_i hunrecorded
        exact .attended hlive hadd (eq_false_of_ne_true hunrecorded) h

end HotBackup

end GridOperator
