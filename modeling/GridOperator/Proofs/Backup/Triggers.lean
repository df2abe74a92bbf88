import GridOperator.Proofs.Backup.Registration
import GridOperator.Proofs.Script.Interleaving
import GridOperator.Proofs.Store.Versions

/-!
# Recurring backups end before their resource does

Passes go on over one backup while others edit and delete it. Each pass may be
given an old version, and every call may fail. A pass registers a job only once the
finalizer is stored, and takes the finalizer off only once the job is ended, so that
a job is never left without its resource: `registered_bears`.
-/

namespace GridOperator

open Kubernetes
open Script (Event)

namespace HotBackup

variable {C : Type} {b : HotBackup} {events : List (Event (backupCalls C))}

/-! ## What a pass asks for -/

/-- Whether the backup carries the finalizer, or has been stored with it by one of these calls. -/
def Bearing (b : HotBackup) (events : List (Event (backupCalls C))) : Prop :=
  b.metadata.hasFinalizer ∨ ∃ stored,
    ⟨.backups (.update (Resource.mapMetadata (·.addFinalizer) b)), .ok stored⟩ ∈ events

/-- What a pass may replace a backup by. -/
inductive Writes (b : HotBackup) (events : List (Event (backupCalls C))) : HotBackup → Prop where
  | adds : b.metadata.isDeleted = false →
      Writes b events (Resource.mapMetadata (·.addFinalizer) b)
  | annotates {name : String} {found : HotBackup} (key value : String) :
      b.metadata.isDeleted = false → ⟨.backups (.get name), .ok (some found)⟩ ∈ events →
      Writes b events (Resource.mapMetadata (·.annotate key value) found)
  | removes {held : Bool} : b.metadata.isDeleted → ⟨.unschedule (Resource.key b), held⟩ ∈ events →
      Writes b events (Resource.mapMetadata (·.removeFinalizer) b)

/-- Whether a pass over the backup may make a call after these. -/
def Proper (b : HotBackup) (events : List (Event (backupCalls C))) : BackupCall C → Prop
  | .backups (.get name) => name = Resource.anyName b
  | .backups (.update object) => b.Writes events object
  | .backups (.create _) | .backups (.delete _) => False
  | .schedule key _ _ => key = Resource.key b ∧ b.metadata.isDeleted = false ∧ b.Bearing events
  | .unschedule key => key = Resource.key b
  | .clusters _ | .client _ | .manage _ _ => True

theorem Bearing.mono {later : List (Event (backupCalls C))} (h : b.Bearing events)
    (hlater : events <:+ later) : b.Bearing later :=
  h.imp_right fun ⟨stored, hmem⟩ => ⟨stored, hlater.subset hmem⟩

open Pass (Guards)

theorem guards_addFinalizer (hlive : b.metadata.isDeleted = false) :
    Guards (b.Proper (C := C)) (fun later _ => b.Bearing later) events
      ((Store.addFinalizer b).embed viaBackups) := by
  unfold Store.addFinalizer
  dsimp only
  split
  · rename_i hskip
    rw [show (Resource.metadata b).isDeleted = false from hlive, Bool.or_false] at hskip
    exact Pass.guards_pure (.inl hskip)
  · refine ⟨.adds hlive, fun answer => ?_⟩
    cases answer with
    | error e => exact nofun
    | ok stored => exact fun _ _ => .inr ⟨stored, List.mem_cons_self⟩

theorem guards_unschedule : Guards (b.Proper (C := C))
    (fun later _ => ∃ held, ⟨.unschedule (Resource.key b), held⟩ ∈ later) events
    (unschedule (Resource.key b)) :=
  ⟨rfl, fun held _ _ => ⟨held, List.mem_cons_self⟩⟩

/-- A job is registered only if the finalizer is stored. -/
theorem guards_run {cluster : Cluster} {client : C} (hlive : b.metadata.isDeleted = false)
    (hbearing : b.Bearing events) : Guards (b.Proper (C := C)) (fun _ _ => True) events
      (run (Resource.key b) b cluster client) := by
  unfold run
  split
  · exact Pass.guards_pure trivial
  refine Pass.guards_bind (Pass.guards_ofExcept (Q := fun _ _ => True) fun _ _ => trivial)
    fun later _ hlater _ => ?_
  split
  · refine Pass.guards_bind guards_unschedule fun _ _ _ _ => ?_
    refine Pass.guards_bind (Q := fun _ _ => True) ?_ fun _ _ _ _ => Pass.guards_pure trivial
    exact (Script.guards_embed (fun _ _ => trivial) _ _).mono fun _ _ _ _ _ _ => trivial
  · refine Pass.guards_bind (Q := fun _ _ => True) ?_ fun _ _ _ _ => Pass.guards_pure trivial
    exact ⟨⟨rfl, hlive, hbearing.mono hlater⟩, fun _ _ _ => trivial⟩

/-- A replacement whose answer is of no account. -/
theorem guards_replace {α : Type} {object : HotBackup} (h : b.Writes events object) (a : α) :
    Guards (b.Proper (C := C)) (fun _ _ => True) events
      (Pass.embed viaBackups (do let _ ← Store.update object; return a)) := by
  refine ⟨h, fun answer => ?_⟩
  cases answer <;> exact fun _ _ => trivial

theorem guards_record {key value : String} (hlive : b.metadata.isDeleted = false) :
    Guards (b.Proper (C := C)) (fun _ _ => True) events
      ((Store.annotate (K := HotBackup) (Resource.anyName b) key value).embed viaBackups) := by
  refine ⟨rfl, fun answer => ?_⟩
  rcases answer with e | _ | found
  · exact fun _ _ => trivial
  · exact fun _ _ => trivial
  · show Guards _ _ _ (Pass.embed viaBackups (if _ then _ else _))
    split
    · exact Pass.guards_pure trivial
    · exact guards_replace (.annotates key value hlive List.mem_cons_self)
        Applied.updated

theorem guards_attend (hlive : b.metadata.isDeleted = false) (hbearing : b.Bearing events) :
    Guards (b.Proper (C := C)) (fun _ _ => True) events b.attend := by
  refine Pass.guards_bind (Q := fun _ _ => True) ⟨trivial, fun _ _ _ => trivial⟩
    fun _ found hlater _ => ?_
  cases found with
  | none => exact Pass.guards_pure trivial
  | some cluster =>
    refine Pass.guards_bind (Pass.guards_lift trivial) fun _ client hlater' _ => ?_
    refine Pass.guards_bind (guards_run hlive ((hbearing.mono hlater).mono hlater'))
      fun _ outcome _ _ => ?_
    have hrecord {events : List (Event (backupCalls C))} {n : Next} :
        Guards (b.Proper (C := C)) (fun _ _ => True) events (do
          let record := Store.annotate (K := HotBackup) (Resource.anyName b)
            Names.lastSpecAnnotation b.specText
          let _ ← (record.embed viaBackups).outcome
          return n) :=
      Pass.guards_bind (Pass.guards_outcome (guards_record hlive))
        fun _ _ _ _ => Pass.guards_pure trivial
    cases outcome with
    | deferred => exact Pass.guards_pure trivial
    | scheduled => exact hrecord
    | triggered => exact hrecord

/-- The finalizer comes off only once the job is ended. -/
theorem guards_finalize (hdeleted : b.metadata.isDeleted) :
    Guards (b.Proper (C := C)) (fun _ _ => True) events b.finalize := by
  unfold finalize
  split
  · refine Pass.guards_bind guards_unschedule fun later _ _ ⟨held, hmem⟩ => ?_
    refine Pass.guards_bind (Q := fun _ _ => True) ?_ fun _ _ _ _ => Pass.guards_pure trivial
    unfold Store.removeFinalizer
    split
    · exact Pass.guards_pure trivial
    · exact guards_replace (.removes hdeleted hmem) true
  · exact Pass.guards_pure trivial

/-- All that a pass asks for is proper. -/
theorem guards_reconcile (b : HotBackup) :
    Guards (b.Proper (C := C)) (fun _ _ => True) [] b.reconcile := by
  cases hlive : b.metadata.isDeleted with
  | true =>
    rw [reconcile_of_isDeleted hlive]
    exact guards_finalize hlive
  | false =>
    rw [reconcile_eq hlive]
    refine Pass.guards_bind (guards_addFinalizer hlive) fun _ _ _ hbearing => ?_
    split
    · exact Pass.guards_pure trivial
    · exact guards_attend hlive hbearing

end HotBackup

namespace BackupWorld

open MemoryStore (Traced)

variable {C : Type} {key : ObjectKey}

/-! ## Passes that go on over one backup -/

/-- A moment in which a pass over a backup goes on. -/
structure Moment (C : Type) where
  world : BackupWorld C
  /-- All versions of the backup that have been stored, the latest one first. -/
  versions : List HotBackup
  /-- The version that the pass was given. -/
  given : HotBackup
  /-- The versions before the given one, the latest one first. -/
  earlier : List HotBackup
  /-- The calls of the pass so far, the latest one first. -/
  events : List (Event (backupCalls C))
  /-- What is left of the pass. -/
  rest : Script (backupCalls C) (Except Error Next)

namespace Moment

/-- The backup as it is stored. -/
def stored? (key : ObjectKey) (m : Moment C) : Option HotBackup :=
  m.world.backups.objects.get? key.name

/-- The beginning of a pass over one of the versions. -/
def begin (m : Moment C) (b : HotBackup) (earlier : List HotBackup) : Moment C :=
  { m with given := b, earlier, events := [], rest := b.reconcile.run }

/-- The versions, with the one that is stored in a world, if that is a new one. -/
def noted (key : ObjectKey) (w : BackupWorld C) (versions : List HotBackup) : List HotBackup :=
  match w.backups.objects.get? key.name with
  | some b => if versions.head? = some b then versions else b :: versions
  | none => versions

/-- The world becomes another one. -/
def move (key : ObjectKey) (m : Moment C) (w : BackupWorld C) : Moment C :=
  { m with world := w, versions := noted key w m.versions }

/-- A call of the pass is answered. -/
def answer (m : Moment C) (e : Event (backupCalls C))
    (rest : Script (backupCalls C) (Except Error Next)) : Moment C :=
  { m with events := e :: m.events, rest }

end Moment

open Moment

/-- The moments that may be reached from an empty scheduler and a stored backup without the
finalizer. -/
inductive Reached (key : ObjectKey) : Moment C → Prop where
  | start {w : BackupWorld C} {b : HotBackup} : w.scheduler = [] →
      w.backups.objects.get? key.name = some b → Resource.key b = key →
      b.metadata.hasFinalizer = false →
      (∃ v ≤ w.backups.version, Resource.version? b = some (toString v)) →
      Reached key ⟨w, [b], b, [], [], b.reconcile.run⟩
  /-- A pass begins, wherever the one before it has got to. It may be given any version that is not
  older than the one given last. -/
  | begin {m : Moment C} {b : HotBackup} {earlier : List HotBackup} : Reached key m →
      b :: earlier <:+ m.versions → m.given :: m.earlier <:+ b :: earlier →
      Reached key (m.begin b earlier)
  | call {m : Moment C} {c : BackupCall C}
      {next : c.Answer → Script (backupCalls C) (Except Error Next)} {answer : c.Answer}
      {w : BackupWorld C} : Reached key m → m.rest = .ask c next →
      unreliable c m.world answer w → Reached key ((m.move key w).answer ⟨c, answer⟩ (next answer))
  /-- Somebody changes the backup, but not its finalizer, nor a deletion that has been asked for. -/
  | edit {m : Moment C} {b b' : HotBackup} : Reached key m → m.stored? key = some b →
      Resource.key b' = key → b'.metadata.hasFinalizer = b.metadata.hasFinalizer →
      (b.metadata.isDeleted → b'.metadata.isDeleted) →
      Reached key (m.move key { m.world with backups := m.world.backups.put key.name b' })
  /-- A backup may disappear that does not carry the finalizer. -/
  | vanish {m : Moment C} {b : HotBackup} : Reached key m → m.stored? key = some b →
      b.metadata.hasFinalizer = false → Reached key (m.move key { m.world with
        backups := { m.world.backups with objects := m.world.backups.objects.erase key.name } })
  /-- Anything else may change. -/
  | others {m : Moment C} {w : BackupWorld C} : Reached key m →
      w.backups.objects.get? key.name = m.stored? key →
      m.world.backups.version ≤ w.backups.version →
      w.scheduler.get? key = m.world.scheduler.get? key → Reached key (m.move key w)

/-! ## What holds all along -/

/-- Whether what holds of a version holds of all later ones, which come first. -/
def Lasts (p : HotBackup → Bool) (versions : List HotBackup) : Prop :=
  versions.Pairwise fun newer older => p older → p newer

theorem Lasts.head {p : HotBackup → Bool} {versions : List HotBackup} {b : HotBackup}
    (h : Lasts p versions) (hb : versions.head? = some b) (hp : ∃ o ∈ versions, p o) : p b := by
  obtain ⟨earlier, rfl⟩ := List.head?_eq_some_iff.1 hb
  obtain ⟨o, ho, hp⟩ := hp
  rcases List.mem_cons.1 ho with rfl | ho
  · exact hp
  · exact (List.pairwise_cons.1 h).1 o ho hp

theorem Lasts.suffix {p : HotBackup → Bool} {versions versions' : List HotBackup}
    (h : Lasts p versions) (hsuffix : versions' <:+ versions) : Lasts p versions' :=
  List.Pairwise.sublist hsuffix.sublist h

theorem Lasts.cons {p : HotBackup → Bool} {versions : List HotBackup} {b b' : HotBackup}
    (h : Lasts p versions) (hb : versions.head? = some b) (hp : p b → p b') :
    Lasts p (b' :: versions) :=
  List.pairwise_cons.2 ⟨fun o ho hpo => hp (h.head hb ⟨o, ho, hpo⟩), h⟩

/-- Whether the backup still has its finalizer where it has got one, and has got one where a job is
registered. -/
structure Guarded (key : ObjectKey) (w : BackupWorld C) (versions : List HotBackup) : Prop where
  kept : Lasts (·.metadata.hasFinalizer) versions
  there : (∃ b ∈ versions, b.metadata.hasFinalizer) → w.backups.objects.get? key.name ≠ none
  registered : w.scheduler.get? key ≠ none → ∃ b ∈ versions, b.metadata.hasFinalizer

/-- Whether the passes have come to a version that is on its way out, and have ended the job. -/
def Ended (key : ObjectKey) (m : Moment C) : Prop :=
  m.given.metadata.isDeleted ∧ m.world.scheduler.get? key = none

/-- Whether what an answered call tells is so: a backup that was read has been stored, so has the
finalizer if it was written, and the job is ended if it was to be ended for good. -/
def Tells (key : ObjectKey) (m : Moment C) : Event (backupCalls C) → Prop
  | ⟨.backups (.get _), .ok (some b)⟩ => b ∈ m.versions
  | ⟨.backups (.update b), .ok _⟩ => b.metadata.hasFinalizer →
    ∃ o ∈ m.versions, o.metadata.hasFinalizer
  | ⟨.unschedule k, _⟩ => k = key → m.given.metadata.isDeleted →
    m.world.scheduler.get? key = none
  | _ => True

structure Invariant (key : ObjectKey) (m : Moment C) : Prop where
  traced : Traced key.name m.world.backups m.versions
  keyed : ∀ b ∈ m.versions, Resource.key b = key
  marked : Lasts (·.metadata.isDeleted) m.versions
  given : m.given :: m.earlier <:+ m.versions
  asks : m.rest.Guards m.given.Proper (fun _ _ => True) m.events
  told : ∀ e ∈ m.events, Tells key m e
  /-- The finalizer guards the job until no pass can register one any more. -/
  phase : Guarded key m.world m.versions ∨ Ended key m

variable {m : Moment C} {w : BackupWorld C} {b b' : HotBackup}

theorem Tells.mono {m' : Moment C} {e : Event (backupCalls C)} (h : Tells key m e)
    (hversions : ∀ o ∈ m.versions, o ∈ m'.versions) (hgiven : m'.given = m.given)
    (hended : Ended key m → m'.world.scheduler.get? key = none) : Tells key m' e := by
  unfold Tells at h ⊢
  split
  · exact hversions _ h
  · exact fun hcarries => (h hcarries).imp fun _ ho => ho.imp_left (hversions _)
  · exact fun hkey hdeleted => by
      rw [hgiven] at hdeleted
      exact hended ⟨hdeleted, h hkey hdeleted⟩
  · trivial

namespace Invariant

theorem mem_given (h : Invariant key m) : m.given ∈ m.versions := h.given.subset List.mem_cons_self

theorem key_given (h : Invariant key m) : Resource.key m.given = key := h.keyed _ h.mem_given

/-- Where a pass may register a job, a version with the finalizer has been stored. -/
theorem bearing (h : Invariant key m) (hbearing : m.given.Bearing m.events) :
    ∃ b ∈ m.versions, b.metadata.hasFinalizer := by
  rcases hbearing with hcarries | ⟨stored, hmem⟩
  · exact ⟨m.given, h.mem_given, hcarries⟩
  · exact h.told _ hmem m.given.metadata.hasFinalizer_addFinalizer

end Invariant

theorem noted_of_traced {versions : List HotBackup} (h : Traced key.name w.backups versions) :
    noted key w versions = versions := by
  unfold noted
  split
  · rename_i b hb
    exact if_pos (h.stored hb)
  · rfl

/-- The world changes but for the stored backup, or that disappears. -/
theorem Invariant.congr (h : Invariant key m)
    (hsame : ∀ b, w.backups.objects.get? key.name = some b → m.stored? key = some b)
    (hversion : m.world.backups.version ≤ w.backups.version)
    (hended : Ended key m → w.scheduler.get? key = none)
    (hphase : Guarded key m.world m.versions → Guarded key w m.versions) :
    Invariant key (m.move key w) := by
  have htraced := h.traced.congr hsame hversion
  unfold Moment.move
  rw [noted_of_traced htraced]
  exact {
    traced := htraced
    keyed := h.keyed
    marked := h.marked
    given := h.given
    asks := h.asks
    told := fun e he => (h.told e he).mono (fun _ => id) rfl hended
    phase := h.phase.imp hphase fun hend => ⟨hend.1, hended hend⟩ }

/-- The pass goes on without a change of the world. -/
theorem Invariant.idle (h : Invariant key m) : Invariant key (m.move key m.world) :=
  h.congr (fun _ => id) (Nat.le_refl _) And.right id

theorem noted_put {versions : List HotBackup} (h : Traced key.name w.backups versions)
    (b : HotBackup) : noted key { w with backups := w.backups.put key.name b } versions =
      Resource.withVersion b (w.backups.version + 1) :: versions := by
  unfold noted
  dsimp only
  rw [MemoryStore.get?_put_self]
  exact if_neg fun hhead =>
    Resource.version?_ne_withVersion (h.version (List.mem_of_head? hhead)) b rfl

/-- Another version takes the place of the stored one. -/
theorem Invariant.put (h : Invariant key m) (hb : m.stored? key = some b)
    (hkey : Resource.key b' = key) (hmark : b.metadata.isDeleted → b'.metadata.isDeleted)
    (hphase : (b.metadata.hasFinalizer → b'.metadata.hasFinalizer) ∨ Ended key m) :
    Invariant key
      (m.move key { m.world with backups := m.world.backups.put key.name b' }) := by
  have hhead := h.traced.stored hb
  unfold Moment.move
  rw [noted_put h.traced]
  constructor
  case traced => exact h.traced.put b'
  case keyed => exact List.forall_mem_cons.2 ⟨hkey, h.keyed⟩
  case marked => exact h.marked.cons hhead hmark
  case given => exact h.given.trans (List.suffix_cons _ _)
  case asks => exact h.asks
  case told => exact fun e he => (h.told e he).mono (fun _ => List.mem_cons_of_mem _) rfl And.right
  case phase =>
    refine or_iff_not_imp_right.2 fun hnot => ?_
    have hguarded := h.phase.resolve_right hnot
    exact {
      kept := hguarded.kept.cons hhead (hphase.resolve_right hnot)
      there := fun _ => by
        rw [MemoryStore.get?_put_self]
        exact Option.some_ne_none _
      registered := fun hheld => (hguarded.registered hheld).imp fun _ ho =>
        ho.imp_left (List.mem_cons_of_mem _) }

/-- What a pass writes goes out from a version that has been stored. -/
theorem Invariant.base (h : Invariant key m) (hw : m.given.Writes m.events b') :
    ∃ b ∈ m.versions, Resource.version? b' = Resource.version? b ∧
      Resource.key b' = Resource.key b ∧
      (b.metadata.isDeleted → b'.metadata.isDeleted) ∧
      ((b.metadata.hasFinalizer → b'.metadata.hasFinalizer) ∨ Ended key m) := by
  cases hw with
  | adds =>
    exact ⟨m.given, h.mem_given, rfl, rfl, id,
      .inl fun _ => m.given.metadata.hasFinalizer_addFinalizer⟩
  | annotates key value _ hread => exact ⟨_, h.told _ hread, rfl, rfl, id, .inl id⟩
  | removes hdeleted hmem =>
    exact ⟨m.given, h.mem_given, rfl, rfl, id, .inr ⟨hdeleted, h.told _ hmem h.key_given hdeleted⟩⟩

/-- Whatever comes of a replacement, the invariant is kept, and the answer tells what is so. -/
theorem Invariant.update (h : Invariant key m) (hw : m.given.Writes m.events b')
    {r : Except Error HotBackup} {s : MemoryStore HotBackup}
    (hanswer : m.world.backups.Answers (.update b') r s) :
    Invariant key (m.move key { m.world with backups := s }) ∧
      Tells key (m.move key { m.world with backups := s }) ⟨.backups (.update b'), r⟩ := by
  obtain ⟨b, hb, hversion, hkey, hmark, hphase⟩ := h.base hw
  have hkey := hkey.trans (h.keyed b hb)
  have hname : Resource.anyName b' = key.name := congrArg ObjectKey.name hkey
  rcases (hname ▸ h.traced).update hb hversion hanswer with ⟨rfl, e, rfl⟩ | ⟨hstored, rfl⟩
  · exact ⟨h.idle, trivial⟩
  · rw [hname] at hstored ⊢
    refine ⟨h.put hstored hkey hmark hphase, ?_⟩
    cases r with
    | error e => trivial
    | ok written =>
      intro hcarries
      unfold Moment.move
      rw [noted_put h.traced]
      exact ⟨_, List.mem_cons_self, hcarries⟩

/-- The scheduler is told something about the job, by a pass that may do so. -/
theorem Invariant.schedule (h : Invariant key m) {scheduler : Scheduler C}
    {told : List (ObjectKey × Option String)}
    (hjob : scheduler.get? key = none ∨
      m.given.metadata.isDeleted = false ∧ m.given.Bearing m.events) :
    Invariant key (m.move key { m.world with scheduler, told }) := by
  refine h.congr (fun _ => id) (Nat.le_refl _) (fun hend => ?_) fun hguarded => ?_
  · rcases hjob with hnone | ⟨hlive, -⟩
    · exact hnone
    · exact absurd hend.1 (ne_true_of_eq_false hlive)
  · refine ⟨hguarded.kept, hguarded.there, fun hheld => ?_⟩
    rcases hjob with hnone | ⟨-, hbearing⟩
    · exact absurd hnone hheld
    · exact h.bearing hbearing

/-- Whatever comes of a call, the invariant is kept, and the answer tells what is so. -/
theorem Invariant.served (h : Invariant key m) {c : BackupCall C} {a : c.Answer}
    (hproper : m.given.Proper m.events c) (hcall : unreliable c m.world a w) :
    Invariant key (m.move key w) ∧ Tells key (m.move key w) ⟨c, a⟩ := by
  cases c with
  | backups call =>
    obtain ⟨s, hs, rfl⟩ := hcall
    cases call with
    | get name =>
      obtain ⟨rfl, hfound⟩ := hs.get
      refine ⟨h.idle, ?_⟩
      rcases a with e | _ | found
      · trivial
      · trivial
      · have hstored : m.stored? key = some found := by
          have hname : name = key.name :=
            hproper.trans (congrArg ObjectKey.name h.key_given)
          rw [hfound _ rfl, hname]
          rfl
        exact h.idle.traced.mem hstored
    | update object => exact h.update hproper hs
    | create | delete => exact hproper.elim
  | clusters call =>
    obtain ⟨s, -, rfl⟩ := hcall
    exact ⟨h.congr (fun _ => id) (Nat.le_refl _) And.right fun hguarded =>
      ⟨hguarded.kept, hguarded.there, hguarded.registered⟩, trivial⟩
  | client cluster =>
    obtain rfl : w = m.world := hcall
    exact ⟨h.idle, trivial⟩
  | manage client call =>
    obtain rfl : w = m.world := hcall
    exact ⟨h.idle, trivial⟩
  | schedule k expression job =>
    obtain ⟨now, hregister⟩ := hcall
    unfold register at hregister
    split at hregister
    · obtain ⟨rfl, rfl⟩ := Prod.mk.inj hregister
      exact ⟨h.schedule (.inr hproper.2), trivial⟩
    · obtain ⟨rfl, rfl⟩ := Prod.mk.inj hregister
      exact ⟨h.idle, trivial⟩
  | unschedule k =>
    obtain rfl : k = key := hproper.trans h.key_given
    obtain ⟨rfl, rfl⟩ := Prod.mk.inj hcall
    have hnone := Table.get?_erase_self k m.world.scheduler
    exact ⟨h.schedule (.inl hnone), fun _ _ => hnone⟩

/-! ## Every moment -/

theorem Invariant.start (hempty : w.scheduler = [])
    (hb : w.backups.objects.get? key.name = some b) (hkey : Resource.key b = key)
    (hversion : ∃ v ≤ w.backups.version, Resource.version? b = some (toString v)) :
    Invariant key ⟨w, [b], b, [], [], b.reconcile.run⟩ := by
  have hnone : w.scheduler.get? key = none := by rw [hempty]; rfl
  have honly : ∀ {p : HotBackup → Bool}, Lasts p [b] := List.pairwise_singleton _ _
  constructor
  case traced =>
    constructor
    case stored => exact fun ho => congrArg some (Option.some.inj (hb.symm.trans ho))
    case version => exact fun ho => List.mem_singleton.1 ho ▸ hversion
    case eq_of_version =>
      exact fun ho ho' _ => (List.mem_singleton.1 ho).trans (List.mem_singleton.1 ho').symm
  case keyed => exact List.forall_mem_singleton.2 hkey
  case marked => exact honly
  case given => exact List.suffix_refl _
  case asks => exact (HotBackup.guards_reconcile b).mono fun _ _ _ _ => trivial
  case told => exact fun _ he => absurd he List.not_mem_nil
  case phase =>
    exact .inl ⟨honly, fun _ hgone => Option.some_ne_none b (hb.symm.trans hgone),
      fun hheld => absurd hnone hheld⟩

/-- A pass begins with a version that is not older than the one given last. -/
theorem Invariant.begin (h : Invariant key m) {earlier : List HotBackup}
    (hgiven : b :: earlier <:+ m.versions) (hlater : m.given :: m.earlier <:+ b :: earlier) :
    Invariant key (m.begin b earlier) := by
  have hended : Ended key m → Ended key (m.begin b earlier) := fun ⟨hdeleted, hnone⟩ =>
    ⟨(h.marked.suffix hgiven).head rfl ⟨m.given, hlater.subset List.mem_cons_self, hdeleted⟩,
      hnone⟩
  exact {
    traced := h.traced
    keyed := h.keyed
    marked := h.marked
    given := hgiven
    asks := (HotBackup.guards_reconcile b).mono fun _ _ _ _ => trivial
    told := fun _ he => absurd he List.not_mem_nil
    phase := h.phase.imp_right hended }

theorem Reached.invariant (h : Reached key m) : Invariant key m := by
  induction h with
  | start hempty hb hkey _ hversion => exact .start hempty hb hkey hversion
  | begin _ hgiven hlater ih => exact ih.begin hgiven hlater
  | @call m c next answer w _ hrest hcall ih =>
    have hasks := ih.asks
    rw [hrest] at hasks
    obtain ⟨hmoved, htells⟩ := ih.served hasks.1 hcall
    exact {
      traced := hmoved.traced
      keyed := hmoved.keyed
      marked := hmoved.marked
      given := hmoved.given
      asks := hasks.2 answer
      told := List.forall_mem_cons.2 ⟨htells, hmoved.told⟩
      phase := hmoved.phase }
  | edit _ hb hkey hfinalizer hmark ih =>
    exact ih.put hb hkey hmark (.inl (hfinalizer ▸ id))
  | @vanish m b _ hb hfinalizer ih =>
    refine ih.congr (fun o ho => ?_) (Nat.le_refl _) And.right fun hguarded => ?_
    · rw [Table.get?_erase_self] at ho
      cases ho
    · refine ⟨hguarded.kept, fun hcarries => ?_, hguarded.registered⟩
      have := hguarded.kept.head (ih.traced.stored hb) hcarries
      exact absurd this (ne_true_of_eq_false hfinalizer)
  | others _ hsame hversion hscheduler ih =>
    refine ih.congr (fun o ho => hsame ▸ ho) hversion (fun hend => hscheduler.trans hend.2)
      fun hguarded => ⟨hguarded.kept, fun hcarries => ?_, fun hheld => ?_⟩
    · exact fun hgone => hguarded.there hcarries (hsame.symm.trans hgone)
    · exact hguarded.registered (hscheduler ▸ hheld)

/-- Whenever a job is registered for a backup, the backup is stored and carries the finalizer. -/
theorem registered_bears (h : Reached key m) {job : Scheduled C}
    (hjob : m.world.scheduler.get? key = some job) :
    ∃ b, m.world.backups.objects.get? key.name = some b ∧ b.metadata.hasFinalizer := by
  have hinvariant := h.invariant
  have hheld : m.world.scheduler.get? key ≠ none := hjob ▸ Option.some_ne_none _
  rcases hinvariant.phase with hguarded | ⟨-, hnone⟩
  · have hcarries := hguarded.registered hheld
    obtain ⟨b, hb⟩ := Option.ne_none_iff_exists'.1 (hguarded.there hcarries)
    exact ⟨b, hb, hguarded.kept.head (hinvariant.traced.stored hb) hcarries⟩
  · exact absurd hnone hheld

/-! ### A job that is registered -/

/-- The pass makes one call more. -/
def proceed (m : Moment Unit) : Moment Unit :=
  match m.rest with
  | .done _ => m
  | .ask c next =>
    let (a, w) := serve noAnswer c m.world
    (m.move ⟨"default", "hb"⟩ w).answer ⟨c, a⟩ (next a)

theorem reached_proceed {m : Moment Unit} (h : Reached ⟨"default", "hb"⟩ m) :
    Reached ⟨"default", "hb"⟩ (proceed m) := by
  unfold proceed
  cases hrest : m.rest with
  | done => exact h
  | ask c next => exact .call h hrest (unreliable_serve noAnswer c m.world)

/-- The first pass over a daily backup, before it makes a call. -/
def awaiting : Moment Unit :=
  ⟨beginning, [beginning.backup], beginning.backup, [], [], beginning.backup.reconcile.run⟩

/-- The pass has written the finalizer, read the cluster, got a client and registered the job. -/
def registered : Moment Unit := proceed (proceed (proceed (proceed awaiting)))

theorem registered_bears_daily : ∃ job b, Reached ⟨"default", "hb"⟩ registered ∧
    registered.world.scheduler.get? ⟨"default", "hb"⟩ = some job ∧
    registered.world.backups.objects.get? "hb" = some b ∧ b.metadata.hasFinalizer := by
  have hstart : Reached ⟨"default", "hb"⟩ awaiting :=
    .start rfl rfl rfl rfl ⟨1, Nat.le_refl _, rfl⟩
  have hreached : Reached ⟨"default", "hb"⟩ registered :=
    reached_proceed (reached_proceed (reached_proceed (reached_proceed hstart)))
  have hheld : (registered.world.scheduler.get? ⟨"default", "hb"⟩).isSome := by rfl
  obtain ⟨job, hjob⟩ := Option.isSome_iff_exists.1 hheld
  obtain ⟨b, hb, hcarries⟩ := registered_bears hreached hjob
  exact ⟨job, b, hreached, hjob, hb, hcarries⟩

end BackupWorld

end GridOperator
