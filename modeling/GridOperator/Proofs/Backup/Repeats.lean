import GridOperator.Proofs.Backup.Triggers
import GridOperator.Proofs.Kubernetes.Annotations

/-!
# How often a single backup is made

A pass makes a backup that is to be made once, and then records that it has. The
record is written to the backup as it is stored, but looked for in the version that
the pass was given, and that may be an older one, from before the record. Here no
call fails, and the passes are counted that do it all over again.
-/

namespace GridOperator

open Kubernetes Pass
open Script (Environment)
open MemoryStore (Traced)

/-- What passes over one backup work on, and what has come of them. -/
structure Watched (C : Type) where
  world : BackupWorld C
  /-- All versions of the backup that have been stored, the latest one first. -/
  versions : List HotBackup
  /-- How often the cluster was told to make a backup. -/
  made : Nat

/-- Whether a command to a cluster has succeeded. -/
def ManageCall.Obeyed : (call : ManageCall) → call.Answer → Prop
  | getState, _ => True
  | changeState _, answer | forceStart, answer | hotBackup, answer => answer = .ok ()

/-- Whether the cluster that a backup is of is running and can make it. -/
def BackupWorld.Able {C : Type} (w : BackupWorld C) (b : HotBackup) : Prop :=
  ∃ cluster, w.clusters.objects.get? b.spec.clusterResource = some cluster ∧
    cluster.phase = .running ∧ b.check cluster = .ok ()

namespace Watched

open HotBackup (viaBackups viaClusters viaClient)

variable {C : Type} {key : ObjectKey} {spec : HotBackupSpec} {w v w' : Watched C} {b b' : HotBackup}

/-- The backup as it is stored. -/
def stored? (key : ObjectKey) (w : Watched C) : Option HotBackup :=
  w.world.backups.objects.get? key.name

/-- The store of backups becomes another one. -/
def restock (key : ObjectKey) (w : Watched C) (s : MemoryStore HotBackup) : Watched C :=
  let world := { w.world with backups := s }
  { w with world, versions := BackupWorld.Moment.noted key world w.versions }

/-- Every call is answered, and every command obeyed. -/
def environment (key : ObjectKey) : Environment (backupCalls C) (Watched C)
  | .backups call, w, answer, w' => answer = (MemoryStore.serve call w.world.backups).1 ∧
    w' = w.restock key (MemoryStore.serve call w.world.backups).2
  | .clusters call, w, answer, w' => answer = (MemoryStore.serve call w.world.clusters).1 ∧
    w' = { w with world := { w.world with
      clusters := (MemoryStore.serve call w.world.clusters).2 } }
  | .client _, w, _, w' => w' = w
  | .manage _ call, w, answer, w' => call.Obeyed answer ∧
    w' = { w with made := w.made + if call = .hotBackup then 1 else 0 }
  | .schedule k expression job, w, answer, w' => ∃ now,
    answer = (w.world.register now k expression job).1 ∧
    w' = { w with world := (w.world.register now k expression job).2 }
  | .unschedule k, w, answer, w' => answer = (w.world.unregister k).1 ∧
    w' = { w with world := (w.world.unregister k).2 }

/-! ## The versions of the backup -/

/-- What holds of the versions of one backup that is never edited. -/
structure Unedited (spec : HotBackupSpec) (key : ObjectKey) (w : Watched C) : Prop where
  traced : Traced key.name w.world.backups w.versions
  keyed : ∀ b ∈ w.versions, Resource.key b = key
  spec : ∀ b ∈ w.versions, b.spec = spec

/-- Whether the backup is recorded as made, if it is still stored. -/
def Recorded (key : ObjectKey) (w : Watched C) : Prop :=
  ∀ b, w.stored? key = some b → b.alreadyApplied

theorem alreadyApplied_congr (hspec : b'.spec = b.spec)
    (hrecord : b'.metadata.annotation? Names.lastSpecAnnotation =
      b.metadata.annotation? Names.lastSpecAnnotation) :
    b'.alreadyApplied = b.alreadyApplied := by
  unfold HotBackup.alreadyApplied HotBackup.specText
  rw [hspec, hrecord]

/-- A store without another version of the backup. -/
theorem restock_of_traced {s : MemoryStore HotBackup} (h : Traced key.name s w.versions) :
    w.restock key s = { w with world := { w.world with backups := s } } := by
  have hnoted := BackupWorld.noted_of_traced (w := { w.world with backups := s }) h
  unfold restock
  dsimp only
  rw [hnoted]

theorem restock_self (h : Traced key.name w.world.backups w.versions) :
    w.restock key w.world.backups = w := restock_of_traced h

theorem Unedited.put (h : Unedited spec key w) (hkey : Resource.key b = key)
    (hspec : b.spec = spec) :
    Unedited spec key (w.restock key (w.world.backups.put key.name b)) := by
  unfold restock
  dsimp only
  rw [BackupWorld.noted_put h.traced]
  exact ⟨h.traced.put b, List.forall_mem_cons.2 ⟨hkey, h.keyed⟩,
    List.forall_mem_cons.2 ⟨hspec, h.spec⟩⟩

theorem Unedited.versions_put (h : Unedited spec key w) (b : HotBackup) :
    (w.restock key (w.world.backups.put key.name b)).versions =
      Resource.withVersion b (w.world.backups.version + 1) :: w.versions :=
  BackupWorld.noted_put h.traced b

theorem recorded_put (hb : b.alreadyApplied) :
    Recorded key (w.restock key (w.world.backups.put key.name b)) := by
  intro o ho
  unfold stored? restock at ho
  dsimp only at ho
  rw [MemoryStore.get?_put_self] at ho
  exact Option.some.inj ho ▸ hb

/-! ## Parts of a pass -/

/-- What has become of a world where nothing has been made, and no record taken off. -/
structure Idle (spec : HotBackupSpec) (key : ObjectKey) (w w' : Watched C) : Prop where
  unedited : Unedited spec key w'
  made : w'.made = w.made
  clusters : w'.world.clusters = w.world.clusters
  versions : w.versions ⊆ w'.versions
  recorded : Recorded key w → Recorded key w'

theorem Unedited.idle (h : Unedited spec key w) : Idle spec key w w :=
  ⟨h, rfl, rfl, List.Subset.refl _, id⟩

theorem exec_get {name : String} {r : Except Error (Option HotBackup)}
    (hw : Traced key.name w.world.backups w.versions)
    (h : Exec ((environment key).through viaBackups) (Store.get name) w r w') :
    r = .ok (w.world.backups.objects.get? name) ∧ w' = w := by
  obtain ⟨_, ⟨rfl, rfl⟩, rfl⟩ := Script.exec_call.1 h
  exact ⟨rfl, restock_self hw⟩

/-- A version is replaced exactly if it is the one that is stored. -/
theorem Unedited.exec_update (h : Unedited spec key w) (hb : b ∈ w.versions)
    (hversion : Resource.version? b' = Resource.version? b) (hkey : Resource.key b' = key)
    {r : Except Error HotBackup}
    (hexec : Exec ((environment key).through viaBackups) (Store.update b') w r w') :
    if w.stored? key = some b then
      (∃ written, r = .ok written) ∧ w' = w.restock key (w.world.backups.put key.name b')
    else (∃ e, r = .error e) ∧ w' = w := by
  have hname : Resource.anyName b' = key.name := congrArg ObjectKey.name hkey
  obtain ⟨_, ⟨rfl, rfl⟩, rfl⟩ := Script.exec_call.1 hexec
  by_cases hstored : w.stored? key = some b
  · obtain ⟨n, -, hn⟩ := h.traced.version hb
    have hfound : w.world.backups.objects.get? (Resource.anyName b') = some b := by
      rw [hname]
      exact hstored
    have hserve := MemoryStore.serve_update_of_current hfound
      (MemoryStore.isCurrent_iff.2 ⟨hversion, by rw [hn]; rfl⟩)
    rw [if_pos hstored, hserve, hname]
    exact ⟨⟨_, rfl⟩, rfl⟩
  · rw [if_neg hstored]
    rcases (hname ▸ h.traced).update hb hversion (.inl ⟨rfl, rfl⟩) with ⟨hs, e, hr⟩ | ⟨hfound, -⟩
    · rw [hs, restock_self h.traced]
      exact ⟨⟨e, hr⟩, rfl⟩
    · rw [hname] at hfound
      exact absurd hfound hstored

/-- What is recorded stays recorded when other metadata are written. -/
theorem Unedited.exec_rewrite (h : Unedited spec key w) (hb : b ∈ w.versions)
    {f : ObjectMeta → ObjectMeta} (hkey : Resource.key (Resource.mapMetadata f b) = Resource.key b)
    (hversion : Resource.version? (Resource.mapMetadata f b) = Resource.version? b)
    (hrecord : (f b.metadata).annotations = b.metadata.annotations) {r : Except Error HotBackup}
    (hexec : Exec ((environment key).through viaBackups) (Store.update (Resource.mapMetadata f b))
      w r w') :
    Idle spec key w w' ∧
      if w.stored? key = some b then ∃ a, r = .ok a else ∃ e, r = .error e := by
  have hkey := hkey.trans (h.keyed b hb)
  have hupdate := h.exec_update hb hversion hkey hexec
  by_cases hstored : w.stored? key = some b
  · rw [if_pos hstored] at hupdate ⊢
    obtain ⟨hok, rfl⟩ := hupdate
    have happlied : (Resource.mapMetadata f b).alreadyApplied = b.alreadyApplied :=
      alreadyApplied_congr rfl (congrArg (·.bind (Table.get? Names.lastSpecAnnotation)) hrecord)
    refine ⟨⟨h.put hkey (h.spec b hb), rfl, rfl, ?_, fun hrecorded =>
      recorded_put (happlied.trans (hrecorded b hstored))⟩, hok⟩
    rw [h.versions_put]
    exact List.subset_cons_self _ _
  · rw [if_neg hstored] at hupdate ⊢
    obtain ⟨hfail, rfl⟩ := hupdate
    exact ⟨h.idle, hfail⟩

/-- The finalizer is there, or goes to the stored backup if the pass was given that. -/
theorem exec_addFinalizer (h : Unedited spec key w) (hb : b ∈ w.versions)
    (hlive : b.metadata.isDeleted = false) {r : Except Error Bool}
    (hexec : Exec (environment key) ((Store.addFinalizer b).embed viaBackups) w r w') :
    Idle spec key w w' ∧
      if b.metadata.hasFinalizer ∨ w.stored? key = some b then ∃ a, r = .ok a
        else ∃ e, r = .error e := by
  have hexec := exec_embed.1 hexec
  unfold Store.addFinalizer at hexec
  dsimp only at hexec
  rw [show (Resource.metadata b).isDeleted = false from hlive, Bool.or_false] at hexec
  split at hexec
  · rename_i hcarries
    obtain ⟨rfl, rfl⟩ := exec_pure.1 hexec
    rw [if_pos (.inl hcarries)]
    exact ⟨h.idle, _, rfl⟩
  · rename_i hbare
    obtain ⟨a, v, hupdate, hend⟩ := exec_bind.1 hexec
    obtain ⟨hidle, ha⟩ := h.exec_rewrite hb rfl rfl rfl hupdate
    have hneed : (b.metadata.hasFinalizer ∨ w.stored? key = some b) ↔ w.stored? key = some b :=
      or_iff_right hbare
    simp only [hneed]
    by_cases hstored : w.stored? key = some b
    · rw [if_pos hstored] at ha ⊢
      obtain ⟨_, rfl⟩ := ha
      obtain ⟨rfl, rfl⟩ := exec_pure.1 hend
      exact ⟨hidle, _, rfl⟩
    · rw [if_neg hstored] at ha ⊢
      obtain ⟨e, rfl⟩ := ha
      obtain ⟨rfl, rfl⟩ := hend
      exact ⟨hidle, e, rfl⟩

/-- The cluster is told to make one backup. -/
theorem exec_backUp {client : C} {r : Except Error Unit}
    (h : Exec (environment key) (Management.backUp.embed (viaClient client)) w r w') :
    r = .ok () ∧ w' = { w with made := w.made + 1 } := by
  have h := exec_embed.1 h
  obtain ⟨passive, v, hpassive, h₁⟩ := exec_bind.1 h
  obtain ⟨_, ⟨rfl, rfl⟩, rfl⟩ := Script.exec_call.1 hpassive
  obtain ⟨_, v, hbackup, h₂⟩ := exec_bind.1 h₁
  obtain ⟨_, rfl, hcall⟩ := exec_outcome.1 hbackup
  obtain ⟨_, ⟨rfl, rfl⟩, rfl⟩ := Script.exec_call.1 hcall
  obtain ⟨_, v, hactive, h₃⟩ := exec_bind.1 h₂
  obtain ⟨_, rfl, hcall⟩ := exec_outcome.1 hactive
  obtain ⟨_, ⟨rfl, rfl⟩, rfl⟩ := Script.exec_call.1 hcall
  obtain ⟨rfl, rfl⟩ := exec_ofExcept.1 h₃
  exact ⟨rfl, rfl⟩

/-- The record goes to the backup as it is stored. -/
theorem exec_record (h : Unedited spec key w) (hb : b ∈ w.versions) {r : Except Error Next}
    (hexec : Exec (environment key) b.record w r w') :
    Unedited spec key w' ∧ w'.made = w.made ∧ Recorded key w' := by
  obtain ⟨_, hout, -⟩ := exec_bind_pure.1 hexec
  obtain ⟨_, rfl, hexec⟩ := exec_outcome.1 hout
  have hname : Resource.anyName b = key.name := congrArg ObjectKey.name (h.keyed b hb)
  obtain ⟨found, u, hget, hrest⟩ := exec_bind.1 (exec_embed.1 hexec)
  obtain ⟨rfl, hu⟩ := exec_get h.traced hget
  rw [hu, hname] at hrest
  dsimp only at hrest
  cases hstored : w.stored? key with
  | none =>
    rw [show w.world.backups.objects.get? key.name = none from hstored] at hrest
    obtain ⟨-, rfl⟩ := exec_pure.1 hrest
    refine ⟨h, rfl, fun o ho => ?_⟩
    rw [hstored] at ho
    cases ho
  | some found =>
    rw [show w.world.backups.objects.get? key.name = some found from hstored] at hrest
    dsimp only at hrest
    have hfound := h.traced.mem hstored
    have htext : found.specText = b.specText := by
      unfold HotBackup.specText
      rw [h.spec found hfound, h.spec b hb]
    split at hrest
    · rename_i hrecord
      obtain ⟨-, rfl⟩ := exec_pure.1 hrest
      refine ⟨h, rfl, fun o ho => ?_⟩
      obtain rfl := Option.some.inj (hstored.symm.trans ho)
      unfold HotBackup.alreadyApplied
      rw [htext]
      exact decide_eq_true hrecord
    · obtain ⟨_, v, hupdate, hend⟩ := exec_bind.1 hrest
      have hkey : Resource.key (Resource.mapMetadata
        (·.annotate Names.lastSpecAnnotation b.specText) found) = key := h.keyed found hfound
      have hversion : Resource.version? (Resource.mapMetadata
        (·.annotate Names.lastSpecAnnotation b.specText) found) = Resource.version? found := rfl
      have hupdate := h.exec_update hfound hversion hkey hupdate
      rw [if_pos hstored] at hupdate
      obtain ⟨⟨_, rfl⟩, rfl⟩ := hupdate
      obtain ⟨-, rfl⟩ := exec_pure.1 hend
      refine ⟨h.put hkey (h.spec found hfound), rfl, recorded_put (decide_eq_true ?_)⟩
      exact (ObjectMeta.annotation?_annotate _ _ _).trans (congrArg some htext.symm)

theorem exec_getCluster {name : String} {found : Except Error (Option Cluster)}
    (h : Exec (environment key) ((Store.get name).embed (viaClusters (C := C))) w found w') :
    found = .ok (w.world.clusters.objects.get? name) ∧ w' = w := by
  obtain ⟨_, ⟨rfl, rfl⟩, rfl⟩ := Script.exec_call.1 (exec_embed.1 h)
  exact ⟨rfl, rfl⟩

/-- A running cluster makes a single backup. -/
theorem exec_run {cluster : Cluster} {client : C} {u : Watched C} {r : Except Error BackupOutcome}
    (hsingle : b.spec.schedule.isEmpty) (hable : w.world.Able b)
    (hget : Exec (environment key) ((Store.get b.spec.clusterResource).embed viaClusters) w
      (.ok (some cluster)) u)
    (hclient : environment key (.client cluster) u client v)
    (hrun : Exec (environment key) (b.run (Resource.key b) cluster client) v r w') :
    r = .ok .triggered ∧
      w' = { w with world := (w.world.unregister (Resource.key b)).2, made := w.made + 1 } := by
  obtain ⟨running, hcluster, hphase, hcheck⟩ := hable
  obtain ⟨hfound, rfl⟩ := exec_getCluster hget
  obtain rfl := Option.some.inj ((Except.ok.inj hfound).trans hcluster)
  obtain rfl := hclient
  cases HotBackup.runCourse_of_exec hrun with
  | deferred hidle => exact absurd hphase hidle
  | refused hrefused => cases hcheck.symm.trans hrefused
  | single _ hended hbackup =>
    obtain ⟨-, rfl⟩ := hended
    obtain ⟨rfl, rfl⟩ := exec_backUp hbackup
    exact ⟨rfl, rfl⟩
  | recurring hrecurring => exact absurd hsingle hrecurring

/-- Work on a live backup that is not recorded makes it, and records that. -/
theorem exec_attend (h : Unedited spec key w) (hb : b ∈ w.versions)
    (hsingle : b.spec.schedule.isEmpty) (hable : w.world.Able b) {r : Except Error Next}
    (hexec : Exec (environment key) b.attend w r w') :
    Unedited spec key w' ∧ w'.made = w.made + 1 ∧ Recorded key w' := by
  cases HotBackup.attendCourse_of_exec hexec with
  | unseen hget => cases (exec_getCluster hget).1
  | absent hget =>
    obtain ⟨cluster, hcluster, -⟩ := hable
    cases (Except.ok.inj (exec_getCluster hget).1).trans hcluster
  | failed hget hclient hrun | deferred hget hclient hrun =>
    cases (exec_run hsingle hable hget hclient hrun).1
  | done hget hclient hrun _ hrecord =>
    obtain ⟨-, rfl⟩ := exec_run hsingle hable hget hclient hrun
    have hmade : Unedited spec key { w with
      world := (w.world.unregister (Resource.key b)).2, made := w.made + 1 } :=
      ⟨h.traced, h.keyed, h.spec⟩
    exact exec_record hmade hb hrecord

theorem exec_finalize (h : Unedited spec key w) (hb : b ∈ w.versions) {r : Except Error Next}
    (hexec : Exec (environment key) b.finalize w r w') : Idle spec key w w' := by
  cases HotBackup.finalizeCourse_of_exec hexec with
  | bare => exact h.idle
  | ended _ hended hremove =>
    obtain ⟨-, rfl⟩ := hended
    have hv : Unedited spec key { w with world := (w.world.unregister (Resource.key b)).2 } :=
      ⟨h.traced, h.keyed, h.spec⟩
    have hremove := exec_embed.1 hremove
    unfold Store.removeFinalizer at hremove
    split at hremove
    · obtain ⟨-, rfl⟩ := exec_pure.1 hremove
      exact ⟨hv, rfl, rfl, List.Subset.refl _, id⟩
    · obtain ⟨written, hupdate, -⟩ := exec_bind_pure.1 hremove
      have hidle := (hv.exec_rewrite hb rfl rfl rfl hupdate).1
      exact ⟨hidle.unedited, hidle.made, hidle.clusters, hidle.versions, hidle.recorded⟩

/-! ## Whole passes -/

/-- Whether a pass over a version makes the backup. -/
def Makes (key : ObjectKey) (w : Watched C) (b : HotBackup) : Prop :=
  b.metadata.isDeleted = false ∧ b.alreadyApplied = false ∧
    (b.metadata.hasFinalizer ∨ w.stored? key = some b)

instance : Decidable (w.Makes key b) := inferInstanceAs (Decidable (_ ∧ _ ∧ _))

/-- A pass makes the backup and records it, or leaves the record as it is. -/
theorem exec_reconcile (h : Unedited spec key w) (hb : b ∈ w.versions)
    (hsingle : spec.schedule.isEmpty) (hable : w.world.Able b) {r : Except Error Next}
    (hexec : Exec (environment key) b.reconcile w r w') :
    if w.Makes key b then Unedited spec key w' ∧ w'.made = w.made + 1 ∧ Recorded key w'
    else Idle spec key w w' := by
  cases HotBackup.passCourse_of_exec hexec with
  | finalized hdeleted hfinalize =>
    have hnot : ¬ w.Makes key b := fun hmakes => ne_true_of_eq_false hmakes.1 hdeleted
    rw [if_neg hnot]
    exact exec_finalize h hb hfinalize
  | refused hlive hadd =>
    obtain ⟨hidle, hadded⟩ := exec_addFinalizer h hb hlive hadd
    have hnot : ¬ w.Makes key b := fun hmakes => by
      rw [if_pos hmakes.2.2] at hadded
      exact nomatch hadded.choose_spec
    rw [if_neg hnot]
    exact hidle
  | applied hlive hadd happlied =>
    have hnot : ¬ w.Makes key b := fun hmakes => ne_true_of_eq_false hmakes.2.1 happlied
    rw [if_neg hnot]
    exact (exec_addFinalizer h hb hlive hadd).1
  | @attended _ v _ _ hlive hadd hunrecorded hattend =>
    obtain ⟨hidle, hadded⟩ := exec_addFinalizer h hb hlive hadd
    have hmakes : w.Makes key b := by
      refine ⟨hlive, hunrecorded, ?_⟩
      by_contra hnot
      rw [if_neg hnot] at hadded
      exact nomatch hadded.choose_spec
    have hable' : v.world.Able b := by
      unfold BackupWorld.Able
      rw [hidle.clusters]
      exact hable
    have hattended := exec_attend hidle.unedited (hidle.versions hb) (h.spec b hb ▸ hsingle) hable'
      hattend
    rw [hidle.made] at hattended
    rw [if_pos hmakes]
    exact hattended

/-! ## Runs -/

/-- A pass, as it began. -/
structure Delivery where
  /-- How often the backup had been made before. -/
  made : Nat
  /-- The version that the pass was given. -/
  given : HotBackup
  /-- The versions before that one, the latest one first. -/
  earlier : List HotBackup

/-- Whether a backup that has been made is asked for again, by a version that carries the finalizer
but not the record. -/
def Delivery.Again (d : Delivery) : Prop :=
  1 ≤ d.made ∧ d.given.metadata.isDeleted = false ∧ d.given.metadata.hasFinalizer ∧
    d.given.alreadyApplied = false

/-- What passes over a single backup may come to, one after the other, with the passes, the latest
one first. The specification is never edited. -/
inductive Run (key : ObjectKey) : List Delivery → Watched C → Prop where
  | start {world : BackupWorld C} {b : HotBackup} :
      world.backups.objects.get? key.name = some b → Resource.key b = key →
      b.spec.schedule.isEmpty →
      (∃ v ≤ world.backups.version, Resource.version? b = some (toString v)) →
      Run key [] ⟨world, [b], 0⟩
  /-- A pass is given any version that is not older than the one given last, while the cluster is
  running. -/
  | pass {ds : List Delivery} {w w' : Watched C} {b : HotBackup} {earlier : List HotBackup}
      {r : Except Error Next} : Run key ds w → b :: earlier <:+ w.versions →
      (∀ d ∈ ds.head?, d.given :: d.earlier <:+ b :: earlier) → w.world.Able b →
      Exec (environment key) b.reconcile w r w' → Run key (⟨w.made, b, earlier⟩ :: ds) w'
  /-- Somebody changes other metadata of the backup, or asks for its deletion. -/
  | touch {ds : List Delivery} {w : Watched C} {b b' : HotBackup} : Run key ds w →
      w.stored? key = some b → Resource.key b' = key → b'.spec = b.spec →
      b'.metadata.annotation? Names.lastSpecAnnotation =
        b.metadata.annotation? Names.lastSpecAnnotation →
      b'.metadata.hasFinalizer = b.metadata.hasFinalizer →
      (b.metadata.isDeleted → b'.metadata.isDeleted) →
      Run key ds (w.restock key (w.world.backups.put key.name b'))
  /-- A backup may disappear that does not carry the finalizer. -/
  | vanish {ds : List Delivery} {w : Watched C} {b : HotBackup} : Run key ds w →
      w.stored? key = some b → b.metadata.hasFinalizer = false →
      Run key ds (w.restock key
        { w.world.backups with objects := w.world.backups.objects.erase key.name })
  /-- Anything else may change. -/
  | others {ds : List Delivery} {w : Watched C} {world : BackupWorld C} : Run key ds w →
      world.backups.objects.get? key.name = w.stored? key →
      w.world.backups.version ≤ world.backups.version → Run key ds { w with world }

/-- What holds all along: once the backup has been made it is recorded, and it has been made a
second time exactly if it was asked for again. -/
structure Counted (key : ObjectKey) (spec : HotBackupSpec) (ds : List Delivery) (w : Watched C) :
    Prop where
  unedited : Unedited spec key w
  recorded : 1 ≤ w.made → Recorded key w
  earlier : ∀ d ∈ ds, d.made ≤ w.made
  again : w.made ≤ 1 ↔ ∀ d ∈ ds, ¬ d.Again

/-- Once the record is there, a pass makes the backup exactly if it is asked for again. -/
theorem Counted.makes_iff {ds : List Delivery} (h : Counted key spec ds w) (hmade : 1 ≤ w.made)
    (earlier : List HotBackup) : w.Makes key b ↔ Delivery.Again ⟨w.made, b, earlier⟩ := by
  constructor
  · rintro ⟨hlive, hnot, hcarries | hstored⟩
    · exact ⟨hmade, hlive, hcarries, hnot⟩
    · exact absurd (h.recorded hmade b hstored) (ne_true_of_eq_false hnot)
  · rintro ⟨-, hlive, hcarries, hnot⟩
    exact ⟨hlive, hnot, .inl hcarries⟩

theorem Counted.pass {ds : List Delivery} {earlier : List HotBackup} {r : Except Error Next}
    (h : Counted key spec ds w) (hsingle : spec.schedule.isEmpty)
    (hgiven : b :: earlier <:+ w.versions) (hable : w.world.Able b)
    (hexec : Exec (environment key) b.reconcile w r w') :
    Counted key spec (⟨w.made, b, earlier⟩ :: ds) w' := by
  have hpass := exec_reconcile h.unedited (hgiven.subset List.mem_cons_self) hsingle hable hexec
  have hagain : (∀ d ∈ (⟨w.made, b, earlier⟩ : Delivery) :: ds, ¬ d.Again) ↔
      ¬ Delivery.Again ⟨w.made, b, earlier⟩ ∧ w.made ≤ 1 := by
    rw [List.forall_mem_cons, h.again]
  by_cases hmakes : w.Makes key b
  · rw [if_pos hmakes] at hpass
    obtain ⟨hunedited, hmade, hrecorded⟩ := hpass
    refine ⟨hunedited, fun _ => hrecorded, ?_, ?_⟩
    · have hlater : w.made ≤ w'.made := by omega
      exact List.forall_mem_cons.2 ⟨hlater, fun d hd => Nat.le_trans (h.earlier d hd) hlater⟩
    · rw [hagain]
      by_cases hfirst : w.made = 0
      · have hnot : ¬ Delivery.Again ⟨w.made, b, earlier⟩ := fun hagain => by
          have : 1 ≤ w.made := hagain.1
          omega
        simp only [hnot, not_false_eq_true, true_and]
        omega
      · have hagain := (h.makes_iff (by omega) earlier).1 hmakes
        simp only [hagain, not_true_eq_false, false_and, iff_false]
        omega
  · rw [if_neg hmakes] at hpass
    have hnot : ¬ Delivery.Again ⟨w.made, b, earlier⟩ := fun hagain =>
      hmakes ((h.makes_iff hagain.1 earlier).2 hagain)
    refine ⟨hpass.unedited, fun hmade => hpass.recorded (h.recorded (hpass.made ▸ hmade)), ?_, ?_⟩
    · rw [hpass.made]
      exact List.forall_mem_cons.2 ⟨Nat.le_refl _, h.earlier⟩
    · rw [hagain, hpass.made]
      simp only [hnot, not_false_eq_true, true_and]

/-- Something changes that has nothing to do with how often the backup was made. -/
theorem Counted.congr {ds : List Delivery} (h : Counted key spec ds w)
    (hunedited : Unedited spec key w') (hmade : w'.made = w.made)
    (hrecorded : Recorded key w → Recorded key w') : Counted key spec ds w' where
  unedited := hunedited
  recorded h' := hrecorded (h.recorded (hmade ▸ h'))
  earlier := hmade ▸ h.earlier
  again := hmade ▸ h.again

/-- The stored backup stays, or it disappears. -/
theorem Counted.keep {ds : List Delivery} {world : BackupWorld C} (h : Counted key spec ds w)
    (hsame : ∀ b, world.backups.objects.get? key.name = some b → w.stored? key = some b)
    (hversion : w.world.backups.version ≤ world.backups.version) :
    Counted key spec ds { w with world } :=
  h.congr ⟨h.unedited.traced.congr hsame hversion, h.unedited.keyed, h.unedited.spec⟩ rfl
    fun hrecorded b hb => hrecorded b (hsame b hb)

theorem Run.counted {ds : List Delivery} (h : Run key ds w) :
    ∃ spec, spec.schedule.isEmpty ∧ Counted key spec ds w := by
  induction h with
  | @start world b hb hkey hsingle hversion =>
    refine ⟨b.spec, hsingle, ?_⟩
    have htraced : Traced key.name world.backups [b] := by
      constructor
      case stored => exact fun ho => congrArg some (Option.some.inj (hb.symm.trans ho))
      case version => exact fun ho => List.mem_singleton.1 ho ▸ hversion
      case eq_of_version =>
        exact fun ho ho' _ => (List.mem_singleton.1 ho).trans (List.mem_singleton.1 ho').symm
    exact {
      unedited := ⟨htraced, List.forall_mem_singleton.2 hkey, List.forall_mem_singleton.2 rfl⟩
      recorded := nofun
      earlier := fun _ hd => absurd hd List.not_mem_nil
      again := iff_of_true (Nat.zero_le 1) fun _ hd => absurd hd List.not_mem_nil }
  | pass _ hgiven _ hable hexec ih =>
    obtain ⟨spec, hsingle, h⟩ := ih
    exact ⟨spec, hsingle, h.pass hsingle hgiven hable hexec⟩
  | @touch ds w b b' _ hb hkey hspec hrecord _ _ ih =>
    obtain ⟨spec, hsingle, h⟩ := ih
    have happlied := alreadyApplied_congr hspec hrecord
    have hb' := h.unedited.spec b (h.unedited.traced.mem hb)
    exact ⟨spec, hsingle, h.congr (h.unedited.put hkey (hspec.trans hb')) rfl
      fun hrecorded => recorded_put (happlied.trans (hrecorded b hb))⟩
  | @vanish ds w b _ _ _ ih =>
    obtain ⟨spec, hsingle, h⟩ := ih
    have hgone : ∀ o, (w.world.backups.objects.erase key.name).get? key.name = some o →
        w.stored? key = some o := fun o ho => by
      rw [Table.get?_erase_self] at ho
      cases ho
    have htraced : Traced key.name { w.world.backups with
        objects := w.world.backups.objects.erase key.name } w.versions :=
      h.unedited.traced.congr hgone (Nat.le_refl _)
    rw [restock_of_traced htraced]
    exact ⟨spec, hsingle, h.keep hgone (Nat.le_refl _)⟩
  | others _ hsame hversion ih =>
    obtain ⟨spec, hsingle, h⟩ := ih
    exact ⟨spec, hsingle, h.keep (fun b hb => hsame ▸ hb) hversion⟩

/-- A single backup is made at most once exactly if no pass that comes after it was made is given a
version that carries the finalizer but not yet the record. -/
theorem made_le_one_iff {ds : List Delivery} (h : Run key ds w) :
    w.made ≤ 1 ↔ ∀ d ∈ ds, ¬ d.Again := by
  obtain ⟨spec, -, hcounted⟩ := h.counted
  exact hcounted.again

/-! ### A backup that is made twice -/

/-- Answers all calls; commands succeed. -/
def serve (key : ObjectKey) : Script.Handler (backupCalls Unit) (Watched Unit)
  | .backups call, w =>
    let (answer, s) := MemoryStore.serve call w.world.backups
    (answer, w.restock key s)
  | .clusters call, w =>
    let (answer, s) := MemoryStore.serve call w.world.clusters
    (answer, { w with world := { w.world with clusters := s } })
  | .client _, w => ((), w)
  | .manage _ .getState, w => (.ok .active, w)
  | .manage _ (.changeState _), w => (.ok (), w)
  | .manage _ .forceStart, w => (.ok (), w)
  | .manage _ .hotBackup, w => (.ok (), { w with made := w.made + 1 })
  | .schedule k expression job, w =>
    let (answer, world) := w.world.register 0 k expression job
    (answer, { w with world })
  | .unschedule k, w =>
    let (held, world) := w.world.unregister k
    (held, { w with world })

theorem environment_serve (key : ObjectKey) (c : BackupCall Unit) (w : Watched Unit) :
    environment key c w (serve key c w).1 (serve key c w).2 := by
  cases c with
  | backups call => exact ⟨rfl, rfl⟩
  | clusters call => exact ⟨rfl, rfl⟩
  | client cluster => rfl
  | manage client call => cases call <;> exact ⟨by trivial, rfl⟩
  | schedule k expression job => exact ⟨0, rfl, rfl⟩
  | unschedule k => exact ⟨rfl, rfl⟩

/-- A single backup. -/
def single : HotBackup where
  metadata := { name := some "hb", space := some "default" }
  spec := { clusterResource := "hz" }

def stocked : BackupWorld Unit where
  backups := .ofList [single]
  clusters := .ofList [BackupWorld.runningCluster]

/-- The backup, stored for the first time. -/
def first : HotBackup := (stocked.backups.objects.get? "hb").getD single

/-- A pass over one of the versions. -/
def passed (b : HotBackup) (w : Watched Unit) : Watched Unit :=
  (b.reconcile.run.run (serve ⟨"default", "hb"⟩) w).2

/-- The first pass puts the finalizer on the backup, makes it and records that. -/
def recorded : Watched Unit := passed first ⟨stocked, [first], 0⟩

/-- The backup with the finalizer, before the record. -/
def unrecorded : HotBackup := (recorded.versions[1]?).getD first

theorem exec_passed (b : HotBackup) (w : Watched Unit) :
    ∃ r, Exec (environment ⟨"default", "hb"⟩) b.reconcile w r (passed b w) :=
  ⟨_, Script.exec_of_run (environment_serve _) b.reconcile.run w⟩

theorem able_of_any {world : BackupWorld Unit}
    (h : (world.clusters.objects.get? b.spec.clusterResource).any fun cluster =>
      cluster.phase = .running ∧ (b.check cluster).toBool) : world.Able b := by
  obtain ⟨cluster, hcluster, hable⟩ := (Option.any_eq_true _ _).1 h
  obtain ⟨hphase, hcheck⟩ := of_decide_eq_true hable
  refine ⟨cluster, hcluster, hphase, ?_⟩
  generalize b.check cluster = checked at hcheck
  cases checked with
  | error => cases hcheck
  | ok => rfl

/-- The next pass is given an old version and makes the backup a second time. -/
theorem made_le_one_iff_unrecorded : ∃ ds, Run ⟨"default", "hb"⟩ ds (passed unrecorded recorded) ∧
    (passed unrecorded recorded).made = 2 ∧ ∃ d ∈ ds, d.Again := by
  have hstart : Run ⟨"default", "hb"⟩ [] ⟨stocked, [first], 0⟩ :=
    .start rfl rfl rfl ⟨1, Nat.le_refl _, rfl⟩
  have hfirst : Run ⟨"default", "hb"⟩ [⟨0, first, []⟩] recorded := by
    obtain ⟨r, hexec⟩ := exec_passed first ⟨stocked, [first], 0⟩
    have hable : stocked.Able first := able_of_any (by decide +kernel)
    exact hstart.pass (List.suffix_refl _) (fun _ hd => by cases hd) hable hexec
  have hversions : recorded.versions.drop 1 = [unrecorded, first] := by decide +kernel
  have hgiven : [unrecorded, first] <:+ recorded.versions := hversions ▸ List.drop_suffix _ _
  have hable : recorded.world.Able unrecorded := able_of_any (by decide +kernel)
  have hmade : (passed unrecorded recorded).made = 2 := by decide +kernel
  have hlater : ∀ d ∈ [(⟨0, first, []⟩ : Delivery)].head?,
      d.given :: d.earlier <:+ [unrecorded, first] :=
    fun d hd => Option.some.inj hd ▸ List.suffix_cons _ _
  obtain ⟨r, hexec⟩ := exec_passed unrecorded recorded
  have hrun := hfirst.pass hgiven hlater hable hexec
  refine ⟨_, hrun, hmade, ?_⟩
  by_contra hnever
  have hone := (made_le_one_iff hrun).2 fun d hd hagain => hnever ⟨d, hd, hagain⟩
  omega

end Watched

end GridOperator
