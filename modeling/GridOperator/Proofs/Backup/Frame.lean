import GridOperator.Proofs.Backup.Registration
import GridOperator.Proofs.Script.Partway
import GridOperator.Proofs.Store.Versions
import GridOperator.Proofs.Table

/-!
# What a pass over a backup leaves alone

A pass writes whole backups: the version that it was given, which may be an old one,
and the one that it reads before it records its specification. The store takes a
replacement only where the version that it goes out from is still there, so that
nothing is lost that others have written: `Amid.spares_of_goes`.
-/

namespace GridOperator

open Kubernetes
open Script (Event Goes)

namespace HotBackup

variable {C : Type} {b base object : HotBackup} {events : List (Event (backupCalls C))}

/-! ## What a pass may change -/

/-- The backup without the finalizer, the record of its specification and the version. -/
def bare (b : HotBackup) : HotBackup :=
  Resource.mapMetadata (fun m => { m.removeFinalizer with
    annotations := some (Table.erase Names.lastSpecAnnotation (m.annotations.getD []))
    resourceVersion := none }) b

@[simp] theorem bare_withVersion (b : HotBackup) (version : Nat) :
    (Resource.withVersion b version).bare = b.bare := rfl

@[simp] theorem bare_addFinalizer (b : HotBackup) :
    (Resource.mapMetadata (·.addFinalizer) b).bare = b.bare := by
  have hfilter : (b.metadata.finalizers.getD [] ++ [Names.finalizer]).filter (· ≠ Names.finalizer) =
      (b.metadata.finalizers.getD []).filter (· ≠ Names.finalizer) := by
    rw [List.filter_append, List.filter_cons_of_neg (by simp), List.filter_nil, List.append_nil]
  unfold bare Resource.mapMetadata
  dsimp only [Resource.metadata, Resource.withMetadata, ObjectMeta.removeFinalizer,
    ObjectMeta.addFinalizer, Option.getD_some]
  rw [hfilter]

@[simp] theorem bare_removeFinalizer (b : HotBackup) :
    (Resource.mapMetadata (·.removeFinalizer) b).bare = b.bare := by
  unfold bare Resource.mapMetadata
  dsimp only [Resource.metadata, Resource.withMetadata, ObjectMeta.removeFinalizer,
    Option.getD_some]
  rw [List.filter_filter]
  simp only [Bool.and_self]

@[simp] theorem bare_record (b : HotBackup) (text : String) :
    (Resource.mapMetadata (·.annotate Names.lastSpecAnnotation text) b).bare = b.bare := by
  unfold bare Resource.mapMetadata
  dsimp only [Resource.metadata, Resource.withMetadata, ObjectMeta.removeFinalizer,
    ObjectMeta.annotate, Option.getD_some]
  rw [Table.erase_set]

/-- What a pass makes of the version that it was given, or of one that it has read. -/
inductive Replaces (b : HotBackup) (events : List (Event (backupCalls C))) :
    HotBackup → HotBackup → Prop where
  | adds : Replaces b events b (Resource.mapMetadata (·.addFinalizer) b)
  | removes : Replaces b events b (Resource.mapMetadata (·.removeFinalizer) b)
  | records {found : HotBackup} :
      ⟨.backups (.get (Resource.anyName b)), .ok (some found)⟩ ∈ events →
      Replaces b events found
        (Resource.mapMetadata (·.annotate Names.lastSpecAnnotation b.specText) found)

theorem Replaces.bare_eq (h : b.Replaces events base object) : object.bare = base.bare := by
  cases h with
  | adds => exact bare_addFinalizer b
  | removes => exact bare_removeFinalizer b
  | records => exact bare_record base b.specText

theorem Replaces.version?_eq (h : b.Replaces events base object) :
    Resource.version? object = Resource.version? base := by
  cases h <;> rfl

theorem Replaces.anyName_eq (h : b.Replaces events base object) :
    Resource.anyName object = Resource.anyName base := by
  cases h <;> rfl

/-! ## What a pass calls -/

/-- Whether a call is one that a pass over the backup may make after others. -/
def Within (b : HotBackup) (events : List (Event (backupCalls C))) : BackupCall C → Prop
  | .backups (.get _) | .clusters (.get _) | .client _ | .manage _ _ => True
  | .backups (.update object) => ∃ base, b.Replaces events base object
  | .schedule key _ _ | .unschedule key => key = Resource.key b
  | .backups (.create _) | .backups (.delete _) | .clusters _ => False

/-- Whether a part of a pass makes no other calls, whatever has been called before. -/
def Confined {α : Type} (b : HotBackup) (p : Pass (backupCalls C) α) : Prop :=
  ∀ events, Pass.Guards b.Within (fun _ _ => True) events p

variable {α β : Type}

theorem confined_pure (a : α) : b.Confined (C := C) (pure a) := fun _ => Pass.guards_pure trivial

theorem confined_bind {p : Pass (backupCalls C) α} {f : α → Pass (backupCalls C) β}
    (hp : b.Confined p) (hf : ∀ a, b.Confined (f a)) : b.Confined (p >>= f) :=
  fun events => Pass.guards_bind (hp events) fun later a _ _ => hf a later

theorem confined_unschedule : b.Confined (C := C) (unschedule (Resource.key b)) :=
  fun _ => ⟨rfl, fun _ _ _ => trivial⟩

/-- A single backup ends the recurring one and commands the cluster, another one is registered. -/
theorem confined_run (cluster : Cluster) (client : C) :
    b.Confined (run (Resource.key b) b cluster client) := by
  unfold run
  split
  · exact confined_pure _
  refine confined_bind (fun _ => Pass.guards_ofExcept fun _ _ => trivial) fun _ => ?_
  split
  · refine confined_bind confined_unschedule fun _ => ?_
    refine confined_bind (fun events => ?_) fun _ => confined_pure _
    exact (Script.guards_embed (fun _ _ => trivial) _ events).mono fun _ _ _ _ _ _ => trivial
  · exact confined_bind (fun _ => ⟨rfl, fun _ _ _ => trivial⟩) fun _ => confined_pure _

/-- A replacement whose answer is of no account. -/
theorem guards_replaces (h : b.Replaces events base object) (a : α) :
    Pass.Guards b.Within (fun _ _ => True) events
      (Pass.embed viaBackups (do let _ ← Store.update object; return a)) := by
  refine ⟨⟨base, h⟩, fun answer => ?_⟩
  cases answer <;> exact fun _ _ => trivial

/-- The finalizer is put on the version that was given. -/
theorem confined_addFinalizer : b.Confined (C := C) ((Store.addFinalizer b).embed viaBackups) := by
  unfold Store.addFinalizer
  dsimp only
  split
  · exact confined_pure false
  · exact fun _ => guards_replaces .adds true

/-- The finalizer is taken off the version that was given. -/
theorem confined_removeFinalizer :
    b.Confined (C := C) ((Store.removeFinalizer b).embed viaBackups) := by
  unfold Store.removeFinalizer
  split
  · exact confined_pure false
  · exact fun _ => guards_replaces .removes true

/-- The specification is recorded on the version that has just been read. -/
theorem confined_record : b.Confined (C := C)
    ((Store.annotate (K := HotBackup) (Resource.anyName b) Names.lastSpecAnnotation
      b.specText).embed viaBackups) := by
  refine fun events => ⟨trivial, fun answer => ?_⟩
  rcases answer with e | _ | found
  · exact fun _ _ => trivial
  · exact fun _ _ => trivial
  · show Pass.Guards _ _ _ (Pass.embed viaBackups (if _ then _ else _))
    split
    · exact Pass.guards_pure trivial
    · exact guards_replaces (.records List.mem_cons_self) Applied.updated

theorem confined_attend : b.Confined (C := C) b.attend := by
  refine confined_bind (fun _ => ⟨trivial, fun _ _ _ => trivial⟩) fun found => ?_
  cases found with
  | none => exact confined_pure _
  | some cluster =>
    refine confined_bind (fun _ => Pass.guards_lift trivial) fun client => ?_
    refine confined_bind (confined_run cluster client) fun outcome => ?_
    have hrecord := confined_bind
      (fun events => Pass.guards_outcome (confined_record (b := b) events))
      fun _ => confined_pure (C := C) Next.onChange
    cases outcome with
    | deferred => exact confined_pure _
    | scheduled => exact hrecord
    | triggered => exact hrecord

theorem confined_reconcile (b : HotBackup) : b.Confined (C := C) b.reconcile := by
  cases hlive : b.metadata.isDeleted with
  | true =>
    rw [reconcile_of_isDeleted hlive]
    unfold finalize
    split
    · refine confined_bind confined_unschedule fun _ => ?_
      exact confined_bind confined_removeFinalizer fun _ => confined_pure _
    · exact confined_pure _
  | false =>
    rw [reconcile_eq hlive]
    refine confined_bind confined_addFinalizer fun _ => ?_
    split
    · exact confined_pure _
    · exact confined_attend

end HotBackup

/-! ## The states of a store -/

namespace MemoryStore

variable {K : Type} [Resource K]

/-- The states of a store that was filled once and has answered calls since, whoever has made them,
the latest state first. -/
inductive History : List (MemoryStore K) → Prop where
  | start (objects : List K) : History [ofList objects]
  | call {s : MemoryStore K} {earlier : List (MemoryStore K)} (c : StoreCall K) :
      History (s :: earlier) → History ((serve c s).2 :: s :: earlier)

/-- Whether an object is stored in one of the states. -/
def Known (states : List (MemoryStore K)) (object : K) : Prop :=
  ∃ s ∈ states, s.objects.get? (Resource.anyName object) = some object

variable {s s' : MemoryStore K} {earlier : List (MemoryStore K)} {known : K → Prop}
  {base object : K} {name : String}

theorem known_cons : Known (s :: earlier) object ↔
    Known earlier object ∨ s.objects.get? (Resource.anyName object) = some object := by
  unfold Known
  rw [List.exists_mem_cons_iff, or_comm]

theorem Known.later (h : Known earlier object) : Known (s :: earlier) object :=
  known_cons.2 (.inl h)

/-- A call that may have failed, before or after it took effect. -/
theorem History.answers (h : History (s :: earlier)) {c : StoreCall K} {answer : c.Answer}
    (hanswer : s.Answers c answer s') : History (s' :: s :: earlier) := by
  rcases hanswer with ⟨-, rfl⟩ | ⟨_, -, rfl | rfl⟩
  · exact h.call c
  -- looking something up makes no difference either
  · exact h.call (.get "")
  · exact h.call c

variable [LawfulResource K]

theorem History.numbered (h : History (s :: earlier)) : s.Numbered (Known (s :: earlier)) := by
  generalize hstates : s :: earlier = states at h
  induction h generalizing s earlier with
  | start objects =>
    obtain ⟨rfl, rfl⟩ := List.cons.inj hstates
    refine (numbered_ofList objects).restrict (fun o ho => ?_) fun name o ho => ?_
    · obtain ⟨_, hmem, ho⟩ := ho
      exact List.mem_singleton.1 hmem ▸ ho
    · exact ⟨_, List.mem_cons_self, by rwa [(numbered_ofList objects).named ho]⟩
  | call c _ ih =>
    obtain ⟨rfl, rfl⟩ := List.cons.inj hstates
    exact ((ih rfl).serve c).restrict (fun o => known_cons.1) fun name o ho =>
      known_cons.2 (((ih rfl).serve c).stored ho)

omit [LawfulResource K] in
/-- What is stored under a name, and what was stored there once. -/
theorem Numbered.traced (h : s.Numbered known) (hbase : known base) :
    s.Traced name ((s.objects.get? name).toList ++ [base]) := by
  have hknown : ∀ o ∈ (s.objects.get? name).toList ++ [base], known o := by
    simp only [List.mem_append, Option.mem_toList, List.mem_singleton]
    rintro o (ho | rfl)
    · exact h.stored ho
    · exact hbase
  exact {
    stored := fun ho => by rw [ho]; rfl
    version := fun ho => h.version (hknown _ ho)
    eq_of_version := fun ho ho' => h.eq_of_version (hknown _ ho) (hknown _ ho') }

end MemoryStore

/-! ## Passes amid others -/

namespace Scheduler

variable {Job : Type}

theorem erase_register {now : Instant} {key : ObjectKey} {expression : String} {job : Job}
    {s s' : Scheduler Job} (h : s.register now key expression job = .ok s') :
    s'.erase key = s.erase key := by
  unfold register at h
  cases hr : read expression with
  | error e => rw [hr] at h; cases h
  | ok schedule =>
    rw [hr] at h
    obtain rfl := (Except.ok.inj h).symm
    exact Table.erase_set _ _ _

theorem erase_unregister (key : ObjectKey) (s : Scheduler Job) :
    (s.unregister key).2.erase key = s.erase key :=
  Table.erase_of_get?_eq_none (Table.get?_erase_self _ _)

end Scheduler

namespace BackupWorld

open MemoryStore (History Known)

variable {C : Type} {key : ObjectKey} {u v w w' : BackupWorld C}

/-- Whether a world is as it was but for the job under the key and, on the backup of that name, the
finalizer, the record of the specification and the version. -/
structure Spares (key : ObjectKey) (w w' : BackupWorld C) : Prop where
  jobs : w'.scheduler.erase key = w.scheduler.erase key
  others : w'.backups.objects.erase key.name = w.backups.objects.erase key.name
  own : (w'.backups.objects.get? key.name).map HotBackup.bare =
    (w.backups.objects.get? key.name).map HotBackup.bare
  clusters : w'.clusters = w.clusters

theorem Spares.refl (key : ObjectKey) (w : BackupWorld C) : Spares key w w := ⟨rfl, rfl, rfl, rfl⟩

theorem Spares.trans (h : Spares key u v) (h' : Spares key v w) : Spares key u w where
  jobs := h'.jobs.trans h.jobs
  others := h'.others.trans h.others
  own := h'.own.trans h.own
  clusters := h'.clusters.trans h.clusters

theorem spares_replace {known : HotBackup → Prop} {b base object : HotBackup}
    {events : List (Event (backupCalls C))} (hnumbered : w.backups.Numbered known)
    (hbase : known base) (hname : Resource.anyName base = Resource.anyName b)
    (hreplaces : b.Replaces events base object) {r : Except Error HotBackup}
    {s : MemoryStore HotBackup} (hanswer : w.backups.Answers (.update object) r s) :
    Spares (Resource.key b) w { w with backups := s } := by
  have hmem : base ∈ (w.backups.objects.get? (Resource.anyName object)).toList ++ [base] :=
    List.mem_append_right _ (List.mem_singleton_self base)
  rcases (hnumbered.traced hbase).update hmem hreplaces.version?_eq hanswer with
    ⟨rfl, -⟩ | ⟨hstored, rfl⟩
  · exact .refl _ _
  · rw [hreplaces.anyName_eq.trans hname] at hstored ⊢
    constructor
    case jobs => rfl
    case others => exact Table.erase_set _ _ _
    case own =>
      show ((w.backups.put (Resource.anyName b) object).objects.get? (Resource.anyName b)).map _ =
        (w.backups.objects.get? (Resource.anyName b)).map _
      rw [MemoryStore.get?_put_self, hstored]
      exact congrArg some ((HotBackup.bare_withVersion _ _).trans hreplaces.bare_eq)
    case clusters => rfl

/-- Whatever a call of a pass is about, the backups are as after a call to their store. -/
theorem exists_answers {c : BackupCall C} {answer : c.Answer} (h : unreliable c w answer w') :
    ∃ (call : StoreCall HotBackup) (a : call.Answer), w.backups.Answers call a w'.backups := by
  have hsame (hs : w'.backups = w.backups) :
      ∃ (call : StoreCall HotBackup) (a : call.Answer), w.backups.Answers call a w'.backups :=
    ⟨.get "", _, .inl ⟨rfl, hs⟩⟩
  cases c with
  | backups call =>
    obtain ⟨s, hs, rfl⟩ := h
    exact ⟨call, answer, hs⟩
  | clusters call =>
    obtain ⟨s, -, rfl⟩ := h
    exact hsame rfl
  | client cluster => exact hsame (congrArg backups h)
  | manage client call => exact hsame (congrArg backups h)
  | schedule key expression job =>
    obtain ⟨now, h⟩ := h
    unfold register at h
    split at h <;> exact hsame (congrArg (·.2.backups) h)
  | unschedule key => exact hsame (congrArg (·.2.backups) h)

/-- Where a pass may be over a version of a backup that is or was stored: its calls so far, the
latest one first, what is left of it, and the world. Between its calls others may write any
backups, and do what they want to everything else. -/
inductive Amid (b : HotBackup) : List (MemoryStore HotBackup) → BackupWorld C →
    List (Event (backupCalls C)) → Script (backupCalls C) (Except Error Next) → Prop where
  | start {earlier : List (MemoryStore HotBackup)} {w : BackupWorld C} :
      History (w.backups :: earlier) → Known (w.backups :: earlier) b →
      Amid b earlier w [] b.reconcile.run
  | call {earlier : List (MemoryStore HotBackup)} {w w' : BackupWorld C}
      {events : List (Event (backupCalls C))} {c : BackupCall C}
      {next : c.Answer → Script (backupCalls C) (Except Error Next)} {answer : c.Answer} :
      Amid b earlier w events (.ask c next) → unreliable c w answer w' →
      Amid b (w.backups :: earlier) w' (⟨c, answer⟩ :: events) (next answer)
  | others {earlier : List (MemoryStore HotBackup)} {w w' : BackupWorld C}
      {events : List (Event (backupCalls C))}
      {rest : Script (backupCalls C) (Except Error Next)} (other : StoreCall HotBackup) :
      Amid b earlier w events rest → w'.backups = (MemoryStore.serve other w.backups).2 →
      Amid b (w.backups :: earlier) w' events rest

namespace Amid

variable {b : HotBackup} {earlier : List (MemoryStore HotBackup)} {c : BackupCall C}
  {answer : c.Answer} {events own : List (Event (backupCalls C))}
  {rest rest' : Script (backupCalls C) (Except Error Next)}

theorem follows (h : Amid b earlier w events rest) :
    Script.Follows b.reconcile.run events rest := by
  induction h with
  | start => exact .start
  | call _ _ ih => exact .step _ ih
  | others _ _ _ ih => exact ih

theorem history (h : Amid b earlier w events rest) : History (w.backups :: earlier) := by
  induction h with
  | start hhistory => exact hhistory
  | call _ hcall ih =>
    obtain ⟨call, a, hanswer⟩ := exists_answers hcall
    exact ih.answers hanswer
  | others other _ hw ih => exact hw ▸ ih.call other

theorem known (h : Amid b earlier w events rest) : Known (w.backups :: earlier) b := by
  induction h with
  | start _ hknown => exact hknown
  | call _ _ ih => exact ih.later
  | others _ _ _ ih => exact ih.later

/-- What a pass has read was stored under the name that it asked for. -/
theorem read (h : Amid b earlier w events rest) {name : String} {found : HotBackup}
    (hread : ⟨.backups (.get name), .ok (some found)⟩ ∈ events) :
    Known (w.backups :: earlier) found ∧ Resource.anyName found = name := by
  induction h with
  | start => cases hread
  | call before hcall ih =>
    rcases List.mem_cons.1 hread with heq | hread
    · cases heq
      obtain ⟨s, hs, rfl⟩ := hcall
      have hnumbered := before.history.numbered
      have hstored := (hs.get.2 _ rfl).symm
      exact ⟨(hnumbered.stored hstored).later, hnumbered.named hstored⟩
    · exact (ih hread).imp_left Known.later
  | others _ _ _ ih => exact (ih hread).imp_left Known.later

/-- A call of a pass, whatever comes of it. -/
theorem spares_call {next : c.Answer → Script (backupCalls C) (Except Error Next)}
    (h : Amid b earlier w events (.ask c next)) (hcall : unreliable c w answer w') :
    Spares (Resource.key b) w w' := by
  have hwithin : b.Within events c := (h.follows.guards (HotBackup.confined_reconcile b [])).1
  cases c with
  | backups call =>
    obtain ⟨s, hs, rfl⟩ := hcall
    cases call with
    | get name =>
      obtain ⟨rfl, -⟩ := hs.get
      exact .refl _ _
    | update object =>
      obtain ⟨base, hreplaces⟩ := hwithin
      have hbase : Known (w.backups :: earlier) base ∧
          Resource.anyName base = Resource.anyName b := by
        cases hreplaces with
        | adds => exact ⟨h.known, rfl⟩
        | removes => exact ⟨h.known, rfl⟩
        | records hread => exact h.read hread
      exact spares_replace h.history.numbered hbase.1 hbase.2 hreplaces hs
    | create | delete => exact hwithin.elim
  | clusters call =>
    obtain ⟨s, hs, rfl⟩ := hcall
    cases call with
    | get name =>
      obtain ⟨rfl, -⟩ := hs.get
      exact .refl _ _
    | create | update | delete => exact hwithin.elim
  | client cluster =>
    obtain rfl : w' = w := hcall
    exact .refl _ _
  | manage client call =>
    obtain rfl : w' = w := hcall
    exact .refl _ _
  | schedule key expression job =>
    obtain rfl : key = Resource.key b := hwithin
    obtain ⟨now, hcall⟩ := hcall
    unfold register at hcall
    split at hcall <;> obtain ⟨-, rfl⟩ := Prod.mk.inj hcall
    · rename_i hregister
      exact ⟨Scheduler.erase_register hregister, rfl, rfl, rfl⟩
    · exact .refl _ _
  | unschedule key =>
    obtain rfl : key = Resource.key b := hwithin
    obtain ⟨-, rfl⟩ := Prod.mk.inj hcall
    exact ⟨Scheduler.erase_unregister _ _, rfl, rfl, rfl⟩

/-- The way from one moment of a pass leads to others. -/
theorem goes (h : Amid b earlier w events rest) (hgoes : Goes unreliable rest w own rest' w') :
    ∃ earlier events, Amid b earlier w' events rest' := by
  induction hgoes with
  | start => exact ⟨_, _, h⟩
  | step _ hcall ih =>
    obtain ⟨_, _, hamid⟩ := ih
    exact ⟨_, _, hamid.call hcall⟩

/-- Wherever a pass has got to and however it goes on from there: until others come between again,
nothing changes but the job under its key and, on its backup, the finalizer, the record of the
specification and the version. -/
theorem spares_of_goes (h : Amid b earlier w events rest)
    (hgoes : Goes unreliable rest w own rest' w') : Spares (Resource.key b) w w' := by
  induction hgoes with
  | start => exact .refl _ _
  | step before hcall ih =>
    obtain ⟨_, _, hamid⟩ := h.goes before
    exact ih.trans (hamid.spares_call hcall)

end Amid

/-! ### A backup that is edited meanwhile -/

/-- The backup with another finalizer, every hour. -/
def hourly (b : HotBackup) : HotBackup where
  metadata := { b.metadata with
    finalizers := some ("example.com/keep" :: b.metadata.finalizers.getD []) }
  spec := { b.spec with schedule := "@hourly" }

/-- The daily backup has been stored with the finalizer, and then somebody has edited it. -/
def edited : BackupWorld Unit :=
  let w := (Script.advance (serve noAnswer) 1 [] beginning.backup.reconcile.run beginning).2.2
  { w with backups := (MemoryStore.serve (.update (hourly w.backup)) w.backups).2 }

/-- What is then left of the pass. -/
def remaining : Script (backupCalls Unit) (Except Error Next) :=
  (Script.advance (serve noAnswer) 1 [] beginning.backup.reconcile.run beginning).2.1

theorem exists_amid_edited :
    ∃ earlier events, Amid beginning.backup earlier edited events remaining := by
  have hstart : Amid beginning.backup [] beginning [] beginning.backup.reconcile.run :=
    .start (.start [daily]) ⟨beginning.backups, List.mem_cons_self, rfl⟩
  obtain ⟨_, _, hamid⟩ := hstart.goes (Goes.start.advance (unreliable_serve noAnswer) 1)
  exact ⟨_, _, .others (.update (hourly _)) hamid rfl⟩

/-- The pass goes on with the version that it was given, and records on the edited backup that it
has carried out that one. -/
theorem spares_of_goes_edited : ∃ earlier events own w',
    Amid beginning.backup earlier edited events remaining ∧
      Goes unreliable remaining edited own (.done (.ok .onChange)) w' ∧
      edited.backup.spec.schedule = "@hourly" ∧ w'.recorded? "hb" = some daily.specText ∧
      w'.backup.metadata.finalizers = some ["example.com/keep", Names.finalizer] ∧
      Spares ⟨"default", "hb"⟩ edited w' := by
  obtain ⟨earlier, events, hamid⟩ := exists_amid_edited
  have hgoes := (Goes.start (s := remaining) (w := edited)).advance
    (h := serve noAnswer) (unreliable_serve noAnswer) 5
  have hend : (Script.advance (serve noAnswer) 5 [] remaining edited).2.1 =
    .done (.ok .onChange) := rfl
  rw [hend] at hgoes
  exact ⟨earlier, events, _, _, hamid, hgoes, rfl, rfl, rfl, hamid.spares_of_goes hgoes⟩

end BackupWorld

end GridOperator
