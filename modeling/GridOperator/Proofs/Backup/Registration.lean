import GridOperator.Proofs.Backup.Steps

/-!
# Whether recurring backups are registered

A pass that finds its specification recorded trusts the record and leaves the
scheduler alone. The record outlives a specification that was brought to the
scheduler but not recorded, and it outlives the scheduler. So the scheduler goes by
the specification after a pass exactly if it was told nothing else since the
record was made.
-/

namespace GridOperator

open Kubernetes

namespace BackupWorld

variable {C : Type} {key : ObjectKey} {w w' : BackupWorld C} {b : HotBackup}

/-! ## Runs of passes over one backup -/

/-- The worlds that passes over the backup under a key may come to while the operator runs. Between
them others may do what they want to anything but the backup's job and the record, which they may
only remove. -/
inductive Run (key : ObjectKey) : BackupWorld C → Prop where
  | start {w : BackupWorld C} : w.scheduler = [] → w.told = [] → w.recorded? key.name = none →
      Run key w
  | pass {w w' : BackupWorld C} {b : HotBackup} {r : Except Error Next} : Run key w →
      w.backups.objects.get? key.name = some b → Resource.key b = key →
      Pass.Exec unreliable b.reconcile w r w' → Run key w'
  | others {w w' : BackupWorld C} : Run key w →
      w'.scheduler.expression? key = w.scheduler.expression? key →
      w'.told.lookup key = w.told.lookup key →
      (∀ text, w'.recorded? key.name = some text → w.recorded? key.name = some text) → Run key w'

/-- Gives the stored backup another specification. -/
def edit (name : String) (spec : HotBackupSpec) (w : BackupWorld C) : BackupWorld C :=
  match w.backups.objects.get? name with
  | some b => { w with backups := w.backups.put name { b with spec } }
  | none => w

/-- Whoever edits the specification may do so between the passes. -/
theorem Run.edit (h : Run key w) (spec : HotBackupSpec) : Run key (w.edit key.name spec) := by
  unfold BackupWorld.edit
  split
  · rename_i b hb
    refine .others h rfl rfl fun text ht => ?_
    unfold recorded? MemoryStore.put at ht
    rw [Table.get?_set_self] at ht
    unfold recorded?
    rw [hb]
    exact ht
  · exact h

theorem Told.lookup {e : Option String} (h : Told key e w w') : w'.told.lookup key = some e := by
  rw [h.2, List.lookup_cons_self]

/-- The job under the key is the one that the scheduler was told of last, and nothing is recorded
before the scheduler was told something. -/
theorem Run.invariant (h : Run key w) :
    w.scheduler.expression? key = (w.told.lookup key).join ∧
      (w.told.lookup key = none → w.recorded? key.name = none) := by
  induction h with
  | start hs ht hr =>
    rw [hs, ht]
    exact ⟨rfl, fun _ => hr⟩
  | @pass w w' b r _ hb hkey h ih =>
    subst hkey
    rcases exec_reconcile h hb with ⟨⟨hs, ht⟩, hr, -⟩ | ⟨e, htold, -⟩
    · have hr : w'.recorded? (Resource.key b).name = w.recorded? (Resource.key b).name := hr
      rw [hs, ht, hr]
      exact ih
    · rw [htold.lookup, htold.1]
      exact ⟨rfl, fun h => by cases h⟩
  | others _ hs ht hr ih =>
    rw [hs, ht]
    refine ⟨ih.1, fun h => Option.eq_none_iff_forall_ne_some.2 fun text htext => ?_⟩
    rw [ih.2 h] at hr
    cases hr text htext

/-- After a pass over a live backup that got to its end, the scheduler holds exactly the job that
the specification asks for, unless the pass found its specification recorded while something else
was the last thing that the scheduler was told. -/
theorem expression?_reconcile_iff (hw : Run key w) (hb : w.backups.objects.get? key.name = some b)
    (hkey : Resource.key b = key) (hlive : b.metadata.isDeleted = false)
    (h : Pass.Exec unreliable b.reconcile w (.ok .onChange) w') :
    w'.scheduler.expression? key = b.spec.recurrence? ↔
      (b.alreadyApplied → w.told.lookup key = some b.spec.recurrence?) := by
  subst hkey
  obtain ⟨hheld, hrecorded⟩ := hw.invariant
  rcases exec_reconcile h hb with ⟨⟨hs, -⟩, -, hend⟩ | ⟨e, htold, hlast⟩
  · rcases hend hlive with ⟨e, he⟩ | ⟨-, happlied⟩ | ⟨he, -⟩
    · cases he
    · have hne : w.told.lookup (Resource.key b) ≠ none := by
        intro hnone
        have hr := hrecorded hnone
        unfold recorded? at hr
        rw [hb] at hr
        unfold HotBackup.alreadyApplied at happlied
        simp only [Option.bind_some] at hr
        rw [hr] at happlied
        cases happlied
      obtain ⟨told, htold⟩ := Option.ne_none_iff_exists'.1 hne
      rw [hs, hheld, htold]
      simp [happlied]
    · cases he
  · obtain ⟨hnot, rfl⟩ := hlast hlive
    simp [htold.1, hnot]

/-! ## A schedule that is brought back -/

/-- A daily backup. -/
def daily : HotBackup where
  metadata := { name := some "hb", space := some "default" }
  spec := { clusterResource := "hz", schedule := "@daily" }

def runningCluster : Cluster where
  metadata := { name := some "hz", space := some "default" }
  spec := { persistence := some { baseDir := "/data" } }
  status := some { phase := .running }

/-- A daily backup of a running cluster. -/
def beginning : BackupWorld Unit where
  backups := .ofList [daily]
  clusters := .ofList [runningCluster]

def noAnswer : (call : ManageCall) → call.Answer
  | .getState | .changeState _ | .forceStart | .hotBackup => .error (.stated "no answer")

/-- The stored backup. -/
def backup (w : BackupWorld Unit) : HotBackup := (w.backups.objects.get? "hb").getD daily

/-- A pass over the stored backup while the cluster does not answer. -/
def passed (w : BackupWorld Unit) : Except Error Next × BackupWorld Unit :=
  w.backup.reconcile.run.run (serve noAnswer) w

theorem exec_passed (w : BackupWorld Unit) :
    Pass.Exec unreliable w.backup.reconcile w (passed w).1 (passed w).2 :=
  exec_serve noAnswer _ w

/-- The daily backup has been registered and recorded. Then it was made a single one, for which the
job was ended but which the cluster did not make, and then a daily one again. -/
def broughtBack : BackupWorld Unit :=
  ((passed ((passed beginning).2.edit "hb" { daily.spec with schedule := "" })).2).edit "hb"
    daily.spec

theorem run_passed {w : BackupWorld Unit} (h : Run ⟨"default", "hb"⟩ w)
    (hb : w.backups.objects.get? "hb" = some w.backup)
    (hkey : Resource.key w.backup = ⟨"default", "hb"⟩) : Run ⟨"default", "hb"⟩ (passed w).2 :=
  .pass h hb hkey (exec_passed w)

theorem run_broughtBack : Run ⟨"default", "hb"⟩ broughtBack := by
  have h₁ := run_passed (.start rfl rfl rfl : Run _ beginning) rfl rfl
  have h₂ := run_passed (h₁.edit { daily.spec with schedule := "" }) rfl rfl
  exact h₂.edit daily.spec

theorem exists_passed_broughtBack : ∃ (w w' : BackupWorld Unit) (b : HotBackup),
    Run ⟨"default", "hb"⟩ w ∧ w.backups.objects.get? "hb" = some b ∧
      Resource.key b = ⟨"default", "hb"⟩ ∧ b.metadata.isDeleted = false ∧
      Pass.Exec unreliable b.reconcile w (.ok .onChange) w' ∧
      b.spec.recurrence? = some "@daily" ∧ b.alreadyApplied ∧
      w.told.lookup ⟨"default", "hb"⟩ = some none := by
  have hend : (passed broughtBack).1 = .ok .onChange := rfl
  exact ⟨broughtBack, (passed broughtBack).2, broughtBack.backup, run_broughtBack, rfl, rfl, rfl,
    hend ▸ exec_passed broughtBack, rfl, rfl, rfl⟩

/-- A pass over a live recurring backup may get to its end and leave the backup unregistered. -/
theorem expression?_reconcile_iff_broughtBack : ∃ (w w' : BackupWorld Unit) (b : HotBackup),
    Run ⟨"default", "hb"⟩ w ∧ w.backups.objects.get? "hb" = some b ∧
      Resource.key b = ⟨"default", "hb"⟩ ∧ b.metadata.isDeleted = false ∧
      Pass.Exec unreliable b.reconcile w (.ok .onChange) w' ∧
      b.spec.recurrence? = some "@daily" ∧
      w'.scheduler.expression? ⟨"default", "hb"⟩ ≠ b.spec.recurrence? := by
  obtain ⟨w, w', b, hw, hb, hkey, hlive, h, hdaily, happlied, htold⟩ := exists_passed_broughtBack
  refine ⟨w, w', b, hw, hb, hkey, hlive, h, hdaily, fun hheld => ?_⟩
  have hlast := (expression?_reconcile_iff hw hb hkey hlive h).1 hheld happlied
  rw [htold, hdaily] at hlast
  cases hlast

/-! ## A new scheduler -/

/-- A pass over a recurring backup of a running cluster that succeeds with an empty scheduler
registers the backup exactly if the specification is not recorded. -/
theorem expression?_reconcile_of_empty {n : Next} (hempty : w.scheduler = [])
    (hb : w.backups.objects.get? (Resource.anyName b) = some b)
    (hlive : b.metadata.isDeleted = false) (hrecurring : b.spec.schedule.isEmpty = false)
    (hrunning : w.Runs b) (h : Pass.Exec unreliable b.reconcile w (.ok n) w') :
    w'.scheduler.expression? (Resource.key b) =
      if b.alreadyApplied then none else some b.spec.schedule := by
  rcases exec_reconcile h hb with ⟨⟨hs, -⟩, -, hend⟩ | ⟨e, htold, hlast⟩
  · rcases hend hlive with ⟨e, he⟩ | ⟨-, happlied⟩ | ⟨-, hnot⟩
    · cases he
    · rw [hs, hempty, if_pos happlied]
      rfl
    · exact absurd hrunning hnot
  · obtain ⟨hnot, rfl⟩ := hlast hlive
    rw [htold.1, hnot]
    unfold HotBackupSpec.recurrence?
    simp [hrecurring]

/-- A daily backup that is recorded as carried out, as it is found after a restart. -/
def restarted : BackupWorld Unit where
  backups := .ofList [{ daily with
    metadata := daily.metadata.annotate Names.lastSpecAnnotation daily.specText }]
  clusters := .ofList [runningCluster]

theorem exists_passed_restarted : ∃ (w w' : BackupWorld Unit) (b : HotBackup) (n : Next),
    w.scheduler = [] ∧ w.backups.objects.get? (Resource.anyName b) = some b ∧
      b.metadata.isDeleted = false ∧ b.spec.schedule.isEmpty = false ∧ w.Runs b ∧
      Pass.Exec unreliable b.reconcile w (.ok n) w' ∧ b.alreadyApplied := by
  have hend : (passed restarted).1 = .ok .onChange := rfl
  exact ⟨restarted, (passed restarted).2, restarted.backup, .onChange, rfl, rfl, rfl, rfl,
    ⟨_, rfl, rfl⟩, hend ▸ exec_passed restarted, rfl⟩

/-- A pass after a restart may succeed and leave a recurring backup unregistered. -/
theorem expression?_reconcile_of_empty_restarted :
    ∃ (w w' : BackupWorld Unit) (b : HotBackup) (n : Next),
      w.scheduler = [] ∧ w.backups.objects.get? (Resource.anyName b) = some b ∧
        b.metadata.isDeleted = false ∧ b.spec.schedule.isEmpty = false ∧ w.Runs b ∧
        Pass.Exec unreliable b.reconcile w (.ok n) w' ∧
        w'.scheduler.expression? (Resource.key b) = none := by
  obtain ⟨w, w', b, n, hempty, hb, hlive, hrecurring, hrunning, h, happlied⟩ :=
    exists_passed_restarted
  refine ⟨w, w', b, n, hempty, hb, hlive, hrecurring, hrunning, h, ?_⟩
  rw [expression?_reconcile_of_empty hempty hb hlive hrecurring hrunning h, if_pos happlied]

end BackupWorld

end GridOperator
