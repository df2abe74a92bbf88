import GridOperator.Management.Registry
import GridOperator.Proofs.Backup.Firings
import GridOperator.Proofs.Backup.Registration
import Mathlib.Logic.Relation

/-!
# The name that recurring backups prove themselves by

A job keeps the client of the pass that has registered it, which proves itself by the
name that the cluster had then. Clients are made anew for a cluster that has changed
its name, but a pass that finds its specification recorded asks for none. So what
fires after a pass proves itself by the present name exactly if the pass has come to
the scheduler, or the cluster had this name when the scheduler was told last.
-/

namespace GridOperator

open Kubernetes Pass
open Script (Environment)
open Relation (ReflTransGen)

/-! ## Clients and names -/

/-- Whether the requests of a client are those of a cluster of this name. -/
def Client.Proves (client : Client) (name : String) : Prop :=
  ∀ call, client.endpoint.request call = { client.endpoint with clusterName := name }.request call

theorem Client.proves_iff {client : Client} {name : String} :
    client.Proves name ↔ client.endpoint.clusterName = name := by
  constructor
  · intro h
    have hbody : client.endpoint.clusterName ++ "&" ++ "" = name ++ "&" ++ "" :=
      congrArg HttpRequest.body (h .getState)
    rw [← String.toList_inj] at hbody ⊢
    simpa only [String.toList_append, List.append_cancel_right_eq] using hbody
  · rintro rfl _
    rfl

/-- Whatever clients are held, the one that a cluster gets proves itself by its present name. -/
theorem Registry.clusterName_clientFor (c : Cluster) (r : Registry) :
    (r.clientFor c).1.endpoint.clusterName = c.spec.clusterName := by
  unfold clientFor
  dsimp only
  split
  · split
    · assumption
    · rfl
  · rfl

/-! ## Jobs and clients -/

theorem Scheduler.get?_tick {Job : Type} (s : Scheduler Job) (t : Instant) (key : ObjectKey) :
    (s.tick t).2.get? key = (s.get? key).map (moveOn t) := by
  rw [show (s.tick t).2 = s.apply (.tick t) from rfl, Scheduler.apply_tick, Table.get?_map]

/-- Whether a pass over the backup that succeeds does not come to the scheduler. -/
def HotBackup.Bypasses (b : HotBackup) : Prop :=
  if b.metadata.isDeleted then b.metadata.hasFinalizer = false else b.alreadyApplied = true

namespace BackupWorld

variable {C : Type} {w v w' : BackupWorld C} {b : HotBackup} {key : ObjectKey}

theorem Untold.trans (h : Untold w v) (h' : Untold v w') : Untold w w' :=
  ⟨h'.1.trans h.1, h'.2.trans h.2⟩

theorem Told.told_ne {e : Option String} (h : Told key e w w') : w'.told ≠ w.told := by
  rw [h.2]
  exact List.cons_ne_self _ _

/-- A pass over a backup of a running cluster that succeeds leaves the scheduler alone exactly if
the backup is recorded, or on its way out and cleaned up after. -/
theorem untold_iff_bypasses (hb : w.backups.objects.get? (Resource.anyName b) = some b)
    (hruns : w.Runs b) {n : Next} (h : Exec unreliable b.reconcile w (.ok n) w') :
    Untold w w' ↔ b.Bypasses := by
  unfold HotBackup.Bypasses
  cases hlive : b.metadata.isDeleted with
  | true =>
    rw [HotBackup.reconcile_of_isDeleted hlive] at h
    have hended := exec_finalize h
    rw [if_pos rfl]
    split at hended
    · rename_i hcarries
      exact iff_of_false (fun h => hended.told_ne h.2) (by rw [hcarries]; exact Bool.noConfusion)
    · rename_i hbare
      subst hended
      exact iff_of_true ⟨rfl, rfl⟩ (eq_false_of_ne_true hbare)
  | false =>
    rw [if_neg Bool.false_ne_true]
    rcases exec_reconcile h hb with ⟨huntold, -, hend⟩ | ⟨e, htold, hlast⟩
    · rcases hend hlive with ⟨e, he⟩ | ⟨-, happlied⟩ | ⟨-, hnot⟩
      · cases he
      · exact iff_of_true huntold happlied
      · exact absurd hruns hnot
    · have hnot := (hlast hlive).1
      exact iff_of_false (fun h => htold.told_ne h.2) (by rw [hnot]; exact Bool.false_ne_true)

end BackupWorld

/-! ## Passes that get their clients from the registry -/

/-- What passes over backups work on, with the clients of all clusters. Jobs are clients. -/
structure ClientWorld extends BackupWorld Client where
  registry : Registry := {}

namespace ClientWorld

/-- A world where stores may fail and clusters may answer anything. The registry gives the clients.
-/
def unreliable : Environment (backupCalls Client) ClientWorld
  | .client c, w, client, w' => client = (w.registry.clientFor c).1 ∧
    w' = { w with registry := (w.registry.clientFor c).2 }
  | call, w, answer, w' =>
    ∃ v, BackupWorld.unreliable call w.toBackupWorld answer v ∧ w' = { w with toBackupWorld := v }

/-- The name of the cluster of a backup. -/
def clusterName? (w : ClientWorld) (b : HotBackup) : Option String :=
  (w.clusters.objects.get? b.spec.clusterResource).map (·.spec.clusterName)

variable {α : Type} {w w' : ClientWorld} {b : HotBackup} {key : ObjectKey}

/-- Which clients there are is one of the things that passes may find to be anything. -/
theorem exec_toBackupWorld {p : Pass (backupCalls Client) α} {r : Except Error α}
    (h : Exec unreliable p w r w') :
    Exec BackupWorld.unreliable p w.toBackupWorld r w'.toBackupWorld := by
  refine h.map toBackupWorld fun c w a w' hc => ?_
  cases c with
  | client =>
    have hworld := congrArg toBackupWorld hc.2
    exact hworld
  | _ =>
    obtain ⟨v, hv, rfl⟩ := hc
    exact hv

open BackupWorld (Untold)

/-- The client that work gets for a stored cluster is one for the present name of the cluster. -/
theorem exec_run {cluster : Cluster} {client : Client} {u v : ClientWorld}
    {r : Except Error BackupOutcome}
    (hget : Exec unreliable ((Store.get b.spec.clusterResource).embed HotBackup.viaClusters) w
      (.ok (some cluster)) u)
    (hclient : unreliable (.client cluster) u client v)
    (hrun : Exec unreliable (b.run key cluster client) v r w') :
    Untold w.toBackupWorld w'.toBackupWorld ∨
      (w'.told ≠ w.told ∧ ∀ e, w'.scheduler.get? key = some e →
        w.clusterName? b = some e.job.endpoint.clusterName) := by
  obtain ⟨hu, hfound⟩ := BackupWorld.exec_getCluster (exec_toBackupWorld hget)
  obtain ⟨hclient, rfl⟩ := hclient
  have hrun := BackupWorld.exec_run (exec_toBackupWorld hrun)
  dsimp only at hrun
  rw [hu] at hrun
  rcases hrun with ⟨hsame, -⟩ | ⟨htold, hjob⟩
  · exact .inl (hsame ▸ ⟨rfl, rfl⟩)
  refine .inr ⟨htold.told_ne, fun e he => ?_⟩
  unfold clusterName?
  rw [← hfound _ rfl, Option.map_some, hjob e he, hclient, Registry.clusterName_clientFor]

/-- Work on a live backup leaves the scheduler alone, or tells it something, after which the job of
the backup, if there is one, has a client for the present name of the cluster. -/
theorem exec_attend {r : Except Error Next} (h : Exec unreliable b.attend w r w') :
    Untold w.toBackupWorld w'.toBackupWorld ∨
      (w'.told ≠ w.told ∧ ∀ e, w'.scheduler.get? (Resource.key b) = some e →
        w.clusterName? b = some e.job.endpoint.clusterName) := by
  cases HotBackup.attendCourse_of_exec h with
  | unseen hget | absent hget =>
    exact .inl ((BackupWorld.exec_getCluster (exec_toBackupWorld hget)).1 ▸ ⟨rfl, rfl⟩)
  | failed hget hclient hrun | deferred hget hclient hrun => exact exec_run hget hclient hrun
  | done hget hclient hrun _ hrecord =>
    have hend := BackupWorld.exec_record (exec_toBackupWorld hrecord)
    rw [hend.1, hend.2]
    exact (exec_run hget hclient hrun).imp_left (·.trans hend)

/-- So does a whole pass. -/
theorem exec_reconcile {r : Except Error Next} (h : Exec unreliable b.reconcile w r w') :
    Untold w.toBackupWorld w'.toBackupWorld ∨
      (w'.told ≠ w.told ∧ ∀ e, w'.scheduler.get? (Resource.key b) = some e →
        w.clusterName? b = some e.job.endpoint.clusterName) := by
  cases HotBackup.passCourse_of_exec h with
  | finalized _ hfinalize =>
    have hended := BackupWorld.exec_finalize (exec_toBackupWorld hfinalize)
    split at hended
    · refine .inr ⟨hended.told_ne, fun e he => ?_⟩
      cases (Scheduler.get?_of_expression? hended.1).symm.trans he
    · exact .inl (hended ▸ ⟨rfl, rfl⟩)
  | refused _ hadd | applied _ hadd =>
    obtain ⟨s, -, hs⟩ := BackupWorld.exec_viaBackups.1 (exec_toBackupWorld hadd)
    exact .inl (hs ▸ ⟨rfl, rfl⟩)
  | @attended _ v _ _ _ hadd _ hattend =>
    obtain ⟨s, -, hs⟩ := BackupWorld.exec_viaBackups.1 (exec_toBackupWorld hadd)
    have hclusters : v.clusters = w.clusters := congrArg (·.clusters) hs
    have huntold : Untold w.toBackupWorld v.toBackupWorld := hs ▸ ⟨rfl, rfl⟩
    have hattend := exec_attend hattend
    unfold clusterName? at hattend ⊢
    rw [hclusters, huntold.2] at hattend
    exact hattend.imp_left huntold.trans

/-! ## Runs -/

/-- A moment of what goes on about a backup. -/
structure Moment where
  world : ClientWorld
  /-- The name that the cluster had when the scheduler was last told about the backup. -/
  named : Option String

namespace Moment

/-- The moment after a pass. -/
def passed (m : Moment) (b : HotBackup) (w : ClientWorld) : Moment where
  world := w
  named := if w.told = m.world.told then m.named else m.world.clusterName? b

/-- The moment after a tick. -/
def ticked (m : Moment) (t : Instant) : Moment :=
  { m with world := { m.world with scheduler := (m.world.scheduler.tick t).2 } }

/-- The job of the backup. -/
def job? (key : ObjectKey) (m : Moment) : Option (Scheduled Client) := m.world.scheduler.get? key

end Moment

/-- What may happen next: a pass over the backup as it is stored, wherever it ends, a tick, or
anything else that leaves the job alone, such as another name for a cluster. -/
inductive Step (key : ObjectKey) : Moment → Moment → Prop where
  | pass {m : Moment} {b : HotBackup} {r : Except Error Next} {w : ClientWorld} :
      m.world.backups.objects.get? key.name = some b → Resource.key b = key →
      Exec unreliable b.reconcile m.world r w → Step key m (m.passed b w)
  | tick (m : Moment) (t : Instant) : Step key m (m.ticked t)
  | others {m : Moment} {w : ClientWorld} : w.scheduler.get? key = m.job? key →
      Step key m { m with world := w }

/-- The moments that may be reached from one without a job for the backup. -/
def Reached (key : ObjectKey) (m : Moment) : Prop :=
  ∃ m₀ : Moment, m₀.job? key = none ∧ ReflTransGen (Step key) m₀ m

/-- Whether the backup is of this cluster, and the cluster goes by this name. -/
structure Stays (key : ObjectKey) (resource name : String) (m : Moment) : Prop where
  backup : ∀ b, m.world.backups.objects.get? key.name = some b → b.spec.clusterResource = resource
  cluster : ∀ c, m.world.clusters.objects.get? resource = some c → c.spec.clusterName = name

/-- What may happen as long as the cluster keeps its name. -/
def Meanwhile (key : ObjectKey) (resource name : String) : Moment → Moment → Prop :=
  ReflTransGen fun m m' => Stays key resource name m ∧ Step key m m'

/-- Whether a job that may still fire proves itself by this name. -/
def Ready (key : ObjectKey) (name : String) (m : Moment) : Prop :=
  ∀ e, m.job? key = some e → e.next.isSome → e.job.endpoint.clusterName = name

variable {m m' : Moment} {resource name : String} {e : Scheduled Client} {t : Instant}

theorem job?_passed (h : Untold m.world.toBackupWorld w'.toBackupWorld) :
    (m.passed b w').job? key = m.job? key := congrArg (Table.get? key) h.1

theorem exists_of_ticked (h : (m.ticked t).job? key = some e) :
    ∃ e', m.job? key = some e' ∧ e.job = e'.job ∧ (e.next.isSome → e'.next.isSome) := by
  unfold Moment.job? Moment.ticked at h
  rw [Scheduler.get?_tick] at h
  obtain ⟨e', he', rfl⟩ := Option.map_eq_some_iff.1 h
  refine ⟨e', he', ?_⟩
  unfold Scheduler.moveOn
  split
  · rename_i hdue
    obtain ⟨next, hnext, -⟩ := (Option.any_eq_true _ _).1 hdue
    exact ⟨rfl, fun _ => by rw [hnext]; rfl⟩
  · exact ⟨rfl, id⟩

/-- A job proves itself by the name that the cluster had when it was registered. -/
theorem named_of_reached (h : Reached key m) :
    ∀ e, m.job? key = some e → m.named = some e.job.endpoint.clusterName := by
  obtain ⟨m₀, hnone, hrun⟩ := h
  induction hrun with
  | refl =>
    intro e he
    cases hnone.symm.trans he
  | tail _ hstep ih =>
    cases hstep with
    | pass hb hkey h =>
      subst hkey
      intro e he
      unfold Moment.passed
      dsimp only
      rcases exec_reconcile h with huntold | ⟨htold, hjob⟩
      · rw [if_pos huntold.2]
        exact ih e (job?_passed huntold ▸ he)
      · rw [if_neg htold]
        exact hjob e he
    | tick t =>
      intro e he
      obtain ⟨e', he', hjob, -⟩ := exists_of_ticked he
      rw [hjob]
      exact ih e' he'
    | others hsame => exact fun e he => ih e (hsame ▸ he)

/-- As long as the cluster keeps its name, a job that proves itself by it stays, or makes way for
one that does so too. -/
theorem Ready.step (hm : Ready key name m) (hstays : Stays key resource name m)
    (h : Step key m m') : Ready key name m' := by
  cases h with
  | pass hb hkey h =>
    subst hkey
    rcases exec_reconcile h with huntold | ⟨-, hjob⟩
    · exact fun e he => hm e (job?_passed huntold ▸ he)
    · intro e he _
      obtain ⟨c, hc, hname⟩ := Option.map_eq_some_iff.1 (hjob e he)
      rw [hstays.backup _ hb] at hc
      rw [← hname, hstays.cluster c hc]
  | tick t =>
    intro e he hnext
    obtain ⟨e', he', hjob, hnext'⟩ := exists_of_ticked he
    rw [hjob]
    exact hm e' he' (hnext' hnext)
  | others hsame => exact fun e he => hm e (hsame ▸ he)

theorem Ready.meanwhile (hm : Ready key name m) (h : Meanwhile key resource name m m') :
    Ready key name m' := by
  induction h with
  | refl => exact hm
  | tail _ hstep ih => exact ih.step hstep.1 hstep.2

/-- After a pass over a stored backup of a running cluster that succeeds, everything that fires as
long as the cluster keeps its name proves itself by it, exactly if the pass has not bypassed the
scheduler, or the job is one that the scheduler was told of when the cluster had this name, or will
not fire. -/
theorem firings_prove_iff {c : Cluster} {n : Next} (hm : Reached key m)
    (hb : m.world.backups.objects.get? key.name = some b) (hkey : Resource.key b = key)
    (hc : m.world.clusters.objects.get? b.spec.clusterResource = some c)
    (hrunning : c.phase = .running) (h : Exec unreliable b.reconcile m.world (.ok n) w') :
    (∀ m' t e, Meanwhile key b.spec.clusterResource c.spec.clusterName (m.passed b w') m' →
      m'.job? key = some e → Scheduler.isDue t e → e.job.Proves c.spec.clusterName) ↔
    (b.Bypasses → ∀ e, m.job? key = some e → e.next.isSome →
      m.named = some c.spec.clusterName) := by
  subst hkey
  have huntold := BackupWorld.untold_iff_bypasses hb ⟨c, hc, hrunning⟩ (exec_toBackupWorld h)
  constructor
  · intro hfirings hbypasses e he hnext
    obtain ⟨t, ht⟩ := Option.isSome_iff_exists.1 hnext
    have hsame : (m.passed b w').job? (Resource.key b) = m.job? (Resource.key b) :=
      job?_passed (huntold.2 hbypasses)
    have hdue : Scheduler.isDue t e := by
      unfold Scheduler.isDue
      rw [ht]
      exact decide_eq_true (le_refl t)
    have hproves := hfirings _ t e .refl (hsame.trans he) hdue
    rw [named_of_reached hm e he, Client.proves_iff.1 hproves]
  · intro hnamed m' t e hmeanwhile he hdue
    have hready : Ready (Resource.key b) c.spec.clusterName (m.passed b w') := by
      intro e he hnext
      rcases exec_reconcile h with hsame | ⟨-, hjob⟩
      · replace he : m.job? (Resource.key b) = some e := job?_passed hsame ▸ he
        have hname := hnamed (huntold.1 hsame) e he hnext
        rw [named_of_reached hm e he] at hname
        exact Option.some.inj hname
      · have hname := hjob e he
        unfold clusterName? at hname
        rw [hc] at hname
        exact (Option.some.inj hname).symm
    obtain ⟨next, hnext, -⟩ := (Option.any_eq_true _ _).1 hdue
    exact Client.proves_iff.2 (hready.meanwhile hmeanwhile e he (by rw [hnext]; rfl))

/-! ### A cluster that is given another name -/

/-- Answers all calls but commands to clusters, which fail. -/
def serve : Script.Handler (backupCalls Client) ClientWorld
  | .client c, w => ((w.registry.clientFor c).1, { w with registry := (w.registry.clientFor c).2 })
  | .backups call, w =>
    let (answer, s) := MemoryStore.serve call w.backups
    (answer, { w with backups := s })
  | .clusters call, w =>
    let (answer, s) := MemoryStore.serve call w.clusters
    (answer, { w with clusters := s })
  | .manage _ call, w => (BackupWorld.noAnswer call, w)
  | .schedule key expression job, w =>
    let (answer, v) := w.toBackupWorld.register 0 key expression job
    (answer, { w with toBackupWorld := v })
  | .unschedule key, w =>
    let (held, v) := w.toBackupWorld.unregister key
    (held, { w with toBackupWorld := v })

theorem unreliable_serve (call : BackupCall Client) (w : ClientWorld) :
    unreliable call w (serve call w).1 (serve call w).2 := by
  cases call with
  | client => exact ⟨rfl, rfl⟩
  | backups => exact ⟨_, ⟨_, .inl ⟨rfl, rfl⟩, rfl⟩, rfl⟩
  | clusters => exact ⟨_, ⟨_, .inl ⟨rfl, rfl⟩, rfl⟩, rfl⟩
  | manage => exact ⟨_, rfl, rfl⟩
  | schedule => exact ⟨_, ⟨0, rfl⟩, rfl⟩
  | unschedule => exact ⟨_, rfl, rfl⟩

/-- A daily backup of a running cluster. -/
def daily : Moment where
  world := {
    backups := .ofList [BackupWorld.daily]
    clusters := .ofList [BackupWorld.runningCluster] }
  named := none

/-- The backup as it is stored. -/
def Moment.backup (m : Moment) : HotBackup :=
  (m.world.backups.objects.get? "hb").getD BackupWorld.daily

/-- A pass over the stored backup. -/
def Moment.pass (m : Moment) : Except Error Next × ClientWorld :=
  (HotBackup.reconcile m.backup).run.run serve m.world

theorem exec_pass (m : Moment) : Exec unreliable m.backup.reconcile m.world m.pass.1 m.pass.2 :=
  Script.exec_of_run unreliable_serve m.backup.reconcile.run m.world

/-- What a first pass makes of it. -/
def registered : Moment := daily.passed daily.backup daily.pass.2

def renamedCluster : Cluster :=
  { BackupWorld.runningCluster with
    spec := { BackupWorld.runningCluster.spec with clusterName := "prod" } }

/-- The same, after the cluster has been given another name. -/
def renamed : Moment :=
  { registered with world := { registered.world with clusters := .ofList [renamedCluster] } }

/-- The next pass succeeds and bypasses the scheduler, which was told of the former name. -/
theorem exists_renamed : ∃ (m : Moment) (b : HotBackup) (c : Cluster) (w' : ClientWorld)
    (e : Scheduled Client),
    Reached ⟨"default", "hb"⟩ m ∧ m.world.backups.objects.get? "hb" = some b ∧
    Resource.key b = ⟨"default", "hb"⟩ ∧
    m.world.clusters.objects.get? b.spec.clusterResource = some c ∧ c.phase = .running ∧
    c.spec.clusterName = "prod" ∧ Exec unreliable b.reconcile m.world (.ok .onChange) w' ∧
    b.Bypasses ∧ m.job? ⟨"default", "hb"⟩ = some e ∧ e.next.isSome ∧ m.named = some "dev" := by
  have hfirst : Step ⟨"default", "hb"⟩ daily registered := .pass rfl rfl (exec_pass daily)
  have hrename : Step ⟨"default", "hb"⟩ registered renamed := .others rfl
  have hm : Reached ⟨"default", "hb"⟩ renamed := ⟨daily, rfl, .tail (.single hfirst) hrename⟩
  have hpass : Exec unreliable renamed.backup.reconcile renamed.world (.ok .onChange)
      renamed.pass.2 := by
    have hend : renamed.pass.1 = .ok .onChange := by rfl
    rw [← hend]
    exact exec_pass renamed
  have happlied : renamed.backup.alreadyApplied := by rfl
  obtain ⟨c, hc⟩ : ∃ c, renamed.world.clusters.objects.get? "hz" = some c :=
    Option.isSome_iff_exists.1 (by decide +kernel)
  have hcluster : ∀ c ∈ renamed.world.clusters.objects.get? "hz",
      c.phase = .running ∧ c.spec.clusterName = "prod" := by decide +kernel
  obtain ⟨e, he⟩ : ∃ e, renamed.job? ⟨"default", "hb"⟩ = some e :=
    Option.isSome_iff_exists.1 (by decide +kernel)
  have hnext : ∀ e ∈ renamed.job? ⟨"default", "hb"⟩, e.next.isSome := by decide +kernel
  exact ⟨renamed, renamed.backup, c, renamed.pass.2, e, hm, rfl, rfl, hc, (hcluster c hc).1,
    (hcluster c hc).2, hpass, happlied, he, hnext e he, by decide +kernel⟩

/-- After such a pass the backup fires under the former name. -/
theorem firings_prove_iff_renamed : ∃ (m m' : Moment) (b : HotBackup) (c : Cluster)
    (w' : ClientWorld) (t : Instant) (e : Scheduled Client),
    Reached ⟨"default", "hb"⟩ m ∧ m.world.backups.objects.get? "hb" = some b ∧
    m.world.clusters.objects.get? b.spec.clusterResource = some c ∧ c.phase = .running ∧
    Exec unreliable b.reconcile m.world (.ok .onChange) w' ∧
    Meanwhile ⟨"default", "hb"⟩ b.spec.clusterResource c.spec.clusterName (m.passed b w') m' ∧
    m'.job? ⟨"default", "hb"⟩ = some e ∧ Scheduler.isDue t e ∧
    ¬ e.job.Proves c.spec.clusterName := by
  obtain ⟨m, b, c, w', e, hm, hb, hkey, hc, hrunning, hprod, hpass, hbypasses, he, hnext, hdev⟩ :=
    exists_renamed
  have hstale := (firings_prove_iff hm hb hkey hc hrunning hpass).not.2 fun hnamed => by
    have hname := hnamed hbypasses e he hnext
    rw [hdev, hprod] at hname
    exact absurd (Option.some.inj hname) (by decide)
  simp only [not_forall] at hstale
  obtain ⟨m', t, e, hmeanwhile, hjob, hdue, hproves⟩ := hstale
  exact ⟨m, m', b, c, w', t, e, hm, hb, hc, hrunning, hpass, hmeanwhile, hjob, hdue, hproves⟩

end ClientWorld

end GridOperator
