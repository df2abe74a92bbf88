import GridOperator.Backup.Scheduler
import GridOperator.Proofs.Backup.Courses
import GridOperator.Proofs.Store.Outcomes

/-!
# What a pass over a backup does to the scheduler

A `BackupWorld` has the stores and the scheduler that passes over backups work
on, and keeps what the scheduler has been told. All calls but those to the
scheduler may fail. `exec_reconcile` tells apart the passes that leave the
scheduler alone and those that bring their specification to it.
-/

namespace GridOperator

open Kubernetes Pass
open Script (Environment)

/-! ## The scheduler -/

namespace Scheduler

variable {Job : Type}

/-- The expression of the job under a key. -/
def expression? (s : Scheduler Job) (key : ObjectKey) : Option String :=
  (s.get? key).map (·.expression)

theorem expression?_register {now : Instant} {key : ObjectKey} {expression : String} {job : Job}
    {s s' : Scheduler Job} (h : s.register now key expression job = .ok s') :
    s'.expression? key = some expression := by
  unfold register at h
  cases hr : read expression with
  | error e => rw [hr] at h; cases h
  | ok schedule =>
    rw [hr] at h
    obtain rfl := (Except.ok.inj h).symm
    unfold expression?
    rw [Table.get?_set_self]
    rfl

/-- The job under a key is the one that was registered last. -/
theorem get?_register {now : Instant} {key : ObjectKey} {expression : String} {job : Job}
    {s s' : Scheduler Job} (h : s.register now key expression job = .ok s') :
    (s'.get? key).map (·.job) = some job := by
  unfold register at h
  cases hr : read expression with
  | error e => rw [hr] at h; cases h
  | ok schedule =>
    rw [hr] at h
    obtain rfl := (Except.ok.inj h).symm
    rw [Table.get?_set_self]
    rfl

theorem get?_of_expression? {s : Scheduler Job} {key : ObjectKey} (h : s.expression? key = none) :
    s.get? key = none := Option.map_eq_none_iff.1 h

theorem expression?_unregister (s : Scheduler Job) (key : ObjectKey) :
    (s.unregister key).2.expression? key = none := by
  unfold unregister expression?
  rw [Table.get?_erase_self]
  rfl

end Scheduler

/-! ## The world of a pass -/

/-- What passes over backups work on. -/
structure BackupWorld (C : Type) where
  backups : MemoryStore HotBackup := {}
  clusters : MemoryStore Cluster := {}
  scheduler : Scheduler C := []
  /-- The expressions registered, or none where a job was ended, the latest one first. -/
  told : List (ObjectKey × Option String) := []

namespace BackupWorld

variable {C : Type}

/-- Registers a job, if its expression is one. -/
def register (now : Instant) (key : ObjectKey) (expression : String) (job : C)
    (w : BackupWorld C) : Except Error Unit × BackupWorld C :=
  match w.scheduler.register now key expression job with
  | .ok s => (.ok (), { w with scheduler := s, told := (key, some expression) :: w.told })
  | .error e => (.error e, w)

/-- Ends a job. Tells whether there was one. -/
def unregister (key : ObjectKey) (w : BackupWorld C) : Bool × BackupWorld C :=
  let (held, s) := w.scheduler.unregister key
  (held, { w with scheduler := s, told := (key, none) :: w.told })

/-- A world where the stores may fail and clients may answer anything. The scheduler does as it is
told, at whatever time. -/
def unreliable : Environment (backupCalls C) (BackupWorld C)
  | .backups call, w, answer, w' =>
    ∃ s, w.backups.Answers call answer s ∧ w' = { w with backups := s }
  | .clusters call, w, answer, w' =>
    ∃ s, w.clusters.Answers call answer s ∧ w' = { w with clusters := s }
  | .client _, w, _, w' | .manage _ _, w, _, w' => w' = w
  | .schedule key expression job, w, answer, w' =>
    ∃ now, (answer, w') = w.register now key expression job
  | .unschedule key, w, answer, w' => (answer, w') = w.unregister key

/-- A world where only commands to clusters may fail. -/
def serve (commands : (call : ManageCall) → call.Answer) :
    Script.Handler (backupCalls Unit) (BackupWorld Unit)
  | .backups call, w =>
    let (answer, s) := MemoryStore.serve call w.backups
    (answer, { w with backups := s })
  | .clusters call, w =>
    let (answer, s) := MemoryStore.serve call w.clusters
    (answer, { w with clusters := s })
  | .client _, w => ((), w)
  | .manage _ call, w => (commands call, w)
  | .schedule key expression job, w => w.register 0 key expression job
  | .unschedule key, w => w.unregister key

/-- The specification recorded on a stored backup. -/
def recorded? (w : BackupWorld C) (name : String) : Option String :=
  (w.backups.objects.get? name).bind (·.metadata.annotation? Names.lastSpecAnnotation)

/-- Whether the cluster that a backup is of is stored and running. -/
def Runs (w : BackupWorld C) (b : HotBackup) : Prop :=
  ∃ cluster, w.clusters.objects.get? b.spec.clusterResource = some cluster ∧
    cluster.phase = .running

/-- Whether the scheduler was left alone. -/
def Untold (w w' : BackupWorld C) : Prop := w'.scheduler = w.scheduler ∧ w'.told = w.told

/-- Whether the scheduler was told once how a backup is repeated, and goes by it. -/
def Told (key : ObjectKey) (e : Option String) (w w' : BackupWorld C) : Prop :=
  w'.scheduler.expression? key = e ∧ w'.told = (key, e) :: w.told

variable {α : Type} {w v w' : BackupWorld C} {key : ObjectKey}

theorem Told.untold {e : Option String} (h : Told key e w v) (hv : Untold v w') :
    Told key e w w' := by
  unfold Told
  rw [hv.1, hv.2]
  exact h

theorem unreliable_serve (commands : (call : ManageCall) → call.Answer) (c : BackupCall Unit)
    (w : BackupWorld Unit) : unreliable c w (serve commands c w).1 (serve commands c w).2 := by
  cases c with
  | backups call => exact ⟨_, .inl ⟨rfl, rfl⟩, rfl⟩
  | clusters call => exact ⟨_, .inl ⟨rfl, rfl⟩, rfl⟩
  | client cluster => rfl
  | manage client call => rfl
  | schedule key expression job => exact ⟨0, rfl⟩
  | unschedule key => rfl

theorem exec_serve (commands : (call : ManageCall) → call.Answer) (p : Pass (backupCalls Unit) α)
    (w : BackupWorld Unit) :
    Exec unreliable p w (p.run.run (serve commands) w).1 (p.run.run (serve commands) w).2 :=
  Script.exec_of_run (unreliable_serve commands) p.run w

/-! ## Parts of a pass -/

def backupsPart : Script.Part (unreliable (C := C)) HotBackup.viaBackups
    MemoryStore.unreliable where
  get := backups
  put w s := { w with backups := s }

def clustersPart : Script.Part (unreliable (C := C)) HotBackup.viaClusters
    MemoryStore.unreliable where
  get := clusters
  put w s := { w with clusters := s }

theorem exec_viaBackups {p : Pass (store HotBackup) α} {r : Except Error α} :
    Exec unreliable (p.embed (HotBackup.viaBackups (C := C))) w r w' ↔
      ∃ s, Exec MemoryStore.unreliable p w.backups r s ∧ w' = { w with backups := s } :=
  exec_part backupsPart

theorem exec_viaClusters {p : Pass (store Cluster) α} {r : Except Error α} :
    Exec unreliable (p.embed (HotBackup.viaClusters (C := C))) w r w' ↔
      ∃ s, Exec MemoryStore.unreliable p w.clusters r s ∧ w' = { w with clusters := s } :=
  exec_part clustersPart

/-- Asking for a cluster changes nothing, and what is found is what is stored. -/
theorem exec_getCluster {name : String} {found : Except Error (Option Cluster)}
    (h : Exec unreliable ((Store.get name).embed (HotBackup.viaClusters (C := C))) w found w') :
    w' = w ∧ ∀ o, found = .ok o → o = w.clusters.objects.get? name := by
  obtain ⟨t, hstore, rfl⟩ := exec_viaClusters.1 h
  obtain ⟨rfl, hfound⟩ := Store.exec_get hstore
  exact ⟨rfl, hfound⟩

theorem exec_viaClient {client : C} {p : Pass management α} {r : Except Error α}
    (h : Exec unreliable (p.embed (HotBackup.viaClient client)) w r w') : w' = w :=
  (exec_embed.1 h).preserves (P := (· = w)) (fun _ _ _ _ ⟨_, hc, _⟩ hw => hc.trans hw) rfl

theorem told_of_unschedule {held : Bool} (h : unreliable (.unschedule key) w held w') :
    Told key none w w' := by
  cases h
  exact ⟨Scheduler.expression?_unregister _ _, rfl⟩

theorem told_of_schedule {expression : String} {job : C} {told : Except Error Unit}
    (h : unreliable (.schedule key expression job) w told w') :
    (w' = w ∧ ∃ e, told = .error e) ∨ Told key (some expression) w w' ∧
      ∀ e, w'.scheduler.get? key = some e → e.job = job := by
  obtain ⟨now, hn⟩ := h
  unfold register at hn
  split at hn
  · rename_i s hs
    cases hn
    refine .inr ⟨⟨Scheduler.expression?_register hs, rfl⟩, fun e he => ?_⟩
    have hjob := Scheduler.get?_register hs
    dsimp only at he
    rw [he] at hjob
    exact Option.some.inj hjob
  · cases hn
    exact .inl ⟨rfl, _, rfl⟩

/-- The work on a cluster either does not get to the scheduler, or it tells the scheduler how the
backup is repeated. Then the job of the backup, if there is one, is the client. -/
theorem exec_run {b : HotBackup} {cluster : Cluster} {client : C} {r : Except Error BackupOutcome}
    (h : Exec unreliable (b.run key cluster client) w r w') :
    (w' = w ∧ ((∃ e, r = .error e) ∨ r = .ok .deferred ∧ cluster.phase ≠ .running)) ∨
      Told key b.spec.recurrence? w w' ∧ ∀ e, w'.scheduler.get? key = some e → e.job = client := by
  unfold HotBackupSpec.recurrence?
  cases HotBackup.runCourse_of_exec h with
  | deferred hphase => exact .inl ⟨rfl, .inr ⟨rfl, hphase⟩⟩
  | refused => exact .inl ⟨rfl, .inl ⟨_, rfl⟩⟩
  | single hsingle hended hbackup =>
    obtain rfl := exec_viaClient hbackup
    have htold := told_of_unschedule hended
    rw [if_pos hsingle]
    refine .inr ⟨htold, fun e he => ?_⟩
    cases (Scheduler.get?_of_expression? htold.1).symm.trans he
  | recurring hrecurring htold =>
    rw [if_neg hrecurring]
    rcases told_of_schedule htold with ⟨rfl, e, rfl⟩ | htold
    · exact .inl ⟨rfl, .inl ⟨e, rfl⟩⟩
    · exact .inr htold

/-- Recording a specification leaves the scheduler alone, whatever comes of it. -/
theorem exec_record {b : HotBackup} {r : Except Error Next}
    (h : Exec unreliable (b.record (C := C)) w r w') : Untold w w' := by
  obtain ⟨_, ho, -⟩ := exec_bind_pure.1 h
  obtain ⟨_, rfl, hr⟩ := exec_outcome.1 ho
  obtain ⟨s, -, rfl⟩ := exec_viaBackups.1 hr
  exact ⟨rfl, rfl⟩

/-- Only a backup that carries the finalizer is taken from the scheduler. -/
theorem exec_finalize {b : HotBackup} {r : Except Error Next}
    (h : Exec unreliable (HotBackup.finalize (C := C) b) w r w') :
    if b.metadata.hasFinalizer then Told (Resource.key b) none w w' else w' = w := by
  cases HotBackup.finalizeCourse_of_exec h with
  | bare hbare => rw [hbare, if_neg Bool.false_ne_true]
  | ended hcarries hended hremove =>
    have htold := told_of_unschedule hended
    obtain ⟨s, -, rfl⟩ := exec_viaBackups.1 hremove
    rw [if_pos hcarries]
    exact htold.untold ⟨rfl, rfl⟩

/-! ## Whole passes -/

/-- What is recorded stays recorded when a stored backup is written with its name and
annotations. -/
theorem recorded?_of_written {b : HotBackup} {f : ObjectMeta → ObjectMeta}
    {s : MemoryStore HotBackup} (hb : w.backups.objects.get? (Resource.anyName b) = some b)
    (hname : (f b.metadata).anyName = b.metadata.anyName)
    (hannotations : (f b.metadata).annotations = b.metadata.annotations)
    (h : s = w.backups ∨ MemoryStore.Written (Resource.mapMetadata f b) w.backups s) :
    recorded? { w with backups := s } (Resource.anyName b) = w.recorded? (Resource.anyName b) := by
  rcases h with rfl | h
  · rfl
  · obtain ⟨version, hs⟩ := h.get?_self
    rw [show Resource.anyName (Resource.mapMetadata f b) = Resource.anyName b from hname] at hs
    unfold recorded?
    rw [hs, hb]
    show (f b.metadata).annotation? _ = b.metadata.annotation? _
    unfold ObjectMeta.annotation?
    rw [hannotations]

/-- The work on a live backup tells the scheduler how the backup is repeated, unless it fails before
or the cluster is not running. -/
theorem exec_attend {b : HotBackup} {r : Except Error Next} (h : Exec unreliable b.attend w r w') :
    (w' = w ∧ ((∃ e, r = .error e) ∨ r = .ok (.after 30) ∧ ¬ w.Runs b)) ∨
      Told (Resource.key b) b.spec.recurrence? w w' := by
  cases HotBackup.attendCourse_of_exec h with
  | unseen hget => exact .inl ⟨(exec_getCluster hget).1, .inl ⟨_, rfl⟩⟩
  | absent hget =>
    obtain ⟨rfl, hfound⟩ := exec_getCluster hget
    refine .inl ⟨rfl, .inr ⟨rfl, ?_⟩⟩
    rintro ⟨cluster, hc, -⟩
    cases (hfound _ rfl).trans hc
  | failed hget hclient hrun =>
    obtain ⟨rfl, -⟩ := exec_getCluster hget
    obtain rfl := hclient
    exact (exec_run hrun).imp (fun h => ⟨h.1, .inl ⟨_, rfl⟩⟩) And.left
  | deferred hget hclient hrun =>
    obtain ⟨rfl, hfound⟩ := exec_getCluster hget
    obtain rfl := hclient
    refine (exec_run hrun).imp (fun ⟨hw, hend⟩ => ⟨hw, .inr ⟨rfl, ?_⟩⟩) And.left
    rintro ⟨other, hc, hrunning⟩
    cases (hfound _ rfl).trans hc
    rcases hend with ⟨e, he⟩ | ⟨-, hphase⟩
    · cases he
    · exact hphase hrunning
  | done hget hclient hrun houtcome hrecord =>
    obtain ⟨rfl, -⟩ := exec_getCluster hget
    obtain rfl := hclient
    rcases exec_run hrun with ⟨-, ⟨e, he⟩ | ⟨hdeferred, -⟩⟩ | ⟨htold, -⟩
    · cases he
    · exact absurd (Except.ok.inj hdeferred) houtcome
    · exact .inr (htold.untold (exec_record hrecord))

/-- A pass over a stored backup leaves the scheduler alone, and the specification recorded on the
backup too, or it tells the scheduler something about the backup once. A pass over a live backup
does the former without an error only if the specification is recorded already or the cluster is not
running. -/
theorem exec_reconcile {b : HotBackup} {r : Except Error Next}
    (h : Exec unreliable b.reconcile w r w')
    (hb : w.backups.objects.get? (Resource.anyName b) = some b) :
    (Untold w w' ∧ w'.recorded? (Resource.anyName b) = w.recorded? (Resource.anyName b) ∧
      (b.metadata.isDeleted = false → (∃ e, r = .error e) ∨ (r = .ok .onChange ∧ b.alreadyApplied) ∨
        (r = .ok (.after 30) ∧ ¬ w.Runs b))) ∨
    ∃ e, Told (Resource.key b) e w w' ∧
      (b.metadata.isDeleted = false → b.alreadyApplied = false ∧ e = b.spec.recurrence?) := by
  have hadded {added : Except Error Bool} {v : BackupWorld C}
      (hadd : Exec unreliable ((Store.addFinalizer b).embed HotBackup.viaBackups) w added v) :
      ∃ s, v = { w with backups := s } ∧
        recorded? v (Resource.anyName b) = w.recorded? (Resource.anyName b) := by
    obtain ⟨s, hs, rfl⟩ := exec_viaBackups.1 hadd
    exact ⟨s, rfl, recorded?_of_written hb rfl rfl (Store.exec_addFinalizer hs)⟩
  cases HotBackup.passCourse_of_exec h with
  | finalized hdeleted hfinalize =>
    have hnot : b.metadata.isDeleted ≠ false := ne_false_of_eq_true hdeleted
    have hw := exec_finalize hfinalize
    split at hw
    · exact .inr ⟨none, hw, fun hlive => absurd hlive hnot⟩
    · subst hw
      exact .inl ⟨⟨rfl, rfl⟩, rfl, fun hlive => absurd hlive hnot⟩
  | refused hlive hadd =>
    obtain ⟨s, rfl, hrecorded⟩ := hadded hadd
    exact .inl ⟨⟨rfl, rfl⟩, hrecorded, fun _ => .inl ⟨_, rfl⟩⟩
  | applied hlive hadd happlied =>
    obtain ⟨s, rfl, hrecorded⟩ := hadded hadd
    exact .inl ⟨⟨rfl, rfl⟩, hrecorded, fun _ => .inr (.inl ⟨rfl, happlied⟩)⟩
  | attended hlive hadd hunrecorded hattend =>
    obtain ⟨s, rfl, hrecorded⟩ := hadded hadd
    rcases exec_attend hattend with ⟨rfl, hend⟩ | htold
    · exact .inl ⟨⟨rfl, rfl⟩, hrecorded, fun _ => hend.imp_right .inr⟩
    · exact .inr ⟨b.spec.recurrence?, htold, fun _ => ⟨hunrecorded, rfl⟩⟩

end BackupWorld

end GridOperator
