import GridOperator.Proofs.Backup.Registration
import GridOperator.Proofs.Management.Reactivation

/-!
# What a pass over a backup does in full

All that a pass may call, in the order of the calls, and what it ends with: a
cluster is commanded only for a single backup that is due, by one of the courses of
`Management.Course`, and the specification is recorded only after the backup has
been made or registered.
-/

namespace GridOperator

open Kubernetes
open Script (Event Follows)
open Management (Course)

namespace HotBackup

variable {C : Type}

/-! ## Calls of a pass -/

/-- The command to a cluster that a call is, with its answer. -/
def command? : Event (backupCalls C) → Option (Event management)
  | ⟨.manage _ call, answer⟩ => some ⟨call, answer⟩
  | _ => none

/-- The commands to a cluster among the calls. -/
def commands (events : List (Event (backupCalls C))) : List (Event management) :=
  events.filterMap command?

/-- Whether a call to one of the stores has failed. -/
def StoreFailed : Event (backupCalls C) → Prop
  | ⟨.backups call, answer⟩ => ∃ e, answer = call.fail e
  | ⟨.clusters call, answer⟩ => ∃ e, answer = call.fail e
  | _ => False

/-- The backup that a call is to store. -/
def stored? : BackupCall C → Option HotBackup
  | .backups (.create object) | .backups (.update object) => some object
  | _ => none

/-- Whether a call has made the backup or registered it. -/
def Accomplishes (b : HotBackup) : Event (backupCalls C) → Prop
  | ⟨.manage _ .hotBackup, answer⟩ => answer = .ok ()
  | ⟨.schedule key expression _, answer⟩ =>
    key = Resource.key b ∧ expression = b.spec.schedule ∧ answer = .ok ()
  | _ => False

/-- Whether the backup has been made or registered. -/
def Accomplished (b : HotBackup) (events : List (Event (backupCalls C))) : Prop :=
  ∃ e ∈ events, b.Accomplishes e

/-- Whether the look-ups that have not failed have shown what the store holds. -/
def Shows (clusters : MemoryStore Cluster) (events : List (Event (backupCalls C))) : Prop :=
  ∀ name found, ⟨.clusters (.get name), .ok found⟩ ∈ events → found = clusters.objects.get? name

/-- A single backup that is to be made at once. -/
structure Due (b : HotBackup) (clusters : MemoryStore Cluster) : Prop where
  live : b.metadata.isDeleted = false
  unrecorded : b.alreadyApplied = false
  single : b.spec.schedule = ""
  able : ∃ cluster, clusters.objects.get? b.spec.clusterResource = some cluster ∧
    cluster.phase = .running ∧ b.check cluster = .ok ()

/-- What a pass may store: the backup with other finalizers, and once the backup has been made or
registered, the one that was read with the specification of the pass recorded on it. -/
inductive Stores (b : HotBackup) (events : List (Event (backupCalls C))) : HotBackup → Prop where
  | finalizers {object : HotBackup} : object.spec = b.spec →
      object.metadata.annotations = b.metadata.annotations → Stores b events object
  | record {found : HotBackup} : b.Accomplished events →
      ⟨.backups (.get (Resource.anyName b)), .ok (some found)⟩ ∈ events →
      Stores b events
        (Resource.mapMetadata (·.annotate Names.lastSpecAnnotation b.specText) found)

/-- How a pass over a backup is conducted that has made these calls, the latest one first, and ended
with a result. -/
structure Conducted (b : HotBackup) (clusters : MemoryStore Cluster)
    (events : List (Event (backupCalls C))) (r : Except Error Next) : Prop where
  /-- Nothing is commanded unless the backup is due and no store has failed. -/
  due : ∀ later e earlier, events = later ++ e :: earlier → (command? e).isSome →
    b.Due clusters ∧ ∀ e ∈ earlier, ¬ StoreFailed e
  /-- A backup that is due is made, unless a store fails before. -/
  made : b.Due clusters →
    (∀ later e earlier, events = later ++ e :: earlier → StoreFailed e → commands earlier ≠ []) →
    ∃ result, Course (commands events) result ∧ r = result.map fun _ => .onChange
  /-- The record comes after the success. -/
  stores : ∀ later e earlier object, events = later ++ e :: earlier → stored? e.call = some object →
    b.Stores earlier object
  /-- A failure to record the success is none of the pass. -/
  succeeded : b.Accomplished events → r = .ok .onChange

/-! ## Before anything is done about the backup -/

/-- Calls that neither command a cluster nor register the backup. -/
def Idle (b : HotBackup) (events : List (Event (backupCalls C))) : Prop :=
  ∀ e ∈ events, command? e = none ∧ ¬ b.Accomplishes e

/-- Whether a pass may make a call after these. -/
def Orderly (b : HotBackup) (clusters : MemoryStore Cluster) (events : List (Event (backupCalls C)))
    (call : BackupCall C) : Prop :=
  (∀ client command, call = .manage client command →
    (Shows clusters events → b.Due clusters) ∧ ∀ e ∈ events, ¬ StoreFailed e) ∧
  ∀ object, stored? call = some object → b.Stores events object

/-- Whether a pass has commanded nothing, for a reason, or gone through one of the courses, which
comes to `success` where it succeeds. -/
def Settles {α : Type} (b : HotBackup) (clusters : MemoryStore Cluster) (success : α)
    (events : List (Event (backupCalls C))) (r : Except Error α) : Prop :=
  (commands events = [] ∧ (Shows clusters events → b.Due clusters → ∃ e ∈ events, StoreFailed e)) ∨
    ∃ result, Course (commands events) result ∧ r = result.map fun _ => success

/-- Whether the work on a cluster may end with a result after these calls. -/
def Ends (b : HotBackup) (clusters : MemoryStore Cluster) (events : List (Event (backupCalls C)))
    (r : Except Error BackupOutcome) : Prop :=
  b.Settles clusters .triggered events r ∧
    (b.Accomplished events ↔ r = .ok .scheduled ∨ r = .ok .triggered)

/-- Whether a pass may end with a result after these calls. -/
def Concludes (b : HotBackup) (clusters : MemoryStore Cluster)
    (events : List (Event (backupCalls C))) (r : Except Error Next) : Prop :=
  b.Settles clusters .onChange events r ∧ (b.Accomplished events → r = .ok .onChange)

section

variable {b : HotBackup} {clusters : MemoryStore Cluster} {events : List (Event (backupCalls C))}

theorem Idle.cons {e : Event (backupCalls C)} (h : b.Idle events) (he : command? e = none)
    (hnot : ¬ b.Accomplishes e) : b.Idle (e :: events) :=
  List.forall_mem_cons.2 ⟨⟨he, hnot⟩, h⟩

theorem Idle.commands_eq (h : b.Idle events) : commands events = [] :=
  List.filterMap_eq_nil_iff.2 fun e he => (h e he).1

theorem Idle.not_accomplished (h : b.Idle events) : ¬ b.Accomplished events :=
  fun ⟨e, he, haccomplishes⟩ => (h e he).2 haccomplishes

theorem Idle.accomplished_cons_iff (h : b.Idle events) {e : Event (backupCalls C)} :
    b.Accomplished (e :: events) ↔ b.Accomplishes e := by
  constructor
  · rintro ⟨e', hmem, he⟩
    rcases List.mem_cons.1 hmem with rfl | hmem
    · exact he
    · exact absurd ⟨e', hmem, he⟩ h.not_accomplished
  · exact fun he => ⟨e, List.mem_cons_self, he⟩

theorem Idle.settles {α : Type} {success : α} {r : Except Error α} (h : b.Idle events)
    (hwhy : Shows clusters events → b.Due clusters → ∃ e ∈ events, StoreFailed e) :
    b.Settles clusters success events r := .inl ⟨h.commands_eq, hwhy⟩

theorem idle_nil : b.Idle (C := C) [] := fun _ h => absurd h List.not_mem_nil

theorem Idle.ends {r : Except Error BackupOutcome} (h : b.Idle events)
    (hwhy : Shows clusters events → b.Due clusters → ∃ e ∈ events, StoreFailed e)
    (hr : ¬ (r = .ok .scheduled ∨ r = .ok .triggered)) : b.Ends clusters events r :=
  ⟨h.settles hwhy, iff_of_false h.not_accomplished hr⟩

theorem Idle.concludes {r : Except Error Next} (h : b.Idle events)
    (hwhy : Shows clusters events → b.Due clusters → ∃ e ∈ events, StoreFailed e) :
    b.Concludes clusters events r :=
  ⟨h.settles hwhy, fun haccomplished => absurd haccomplished h.not_accomplished⟩

open Pass (Leads)

theorem orderly_of_ne {call : BackupCall C}
    (hmanage : ∀ client command, call ≠ .manage client command) (hstored : stored? call = none) :
    b.Orderly clusters events call :=
  ⟨fun client command h => absurd h (hmanage client command), fun object h => by
    rw [hstored] at h
    cases h⟩

theorem orderly_update {object : HotBackup} (h : b.Stores events object) :
    b.Orderly clusters events (.backups (.update object)) :=
  ⟨nofun, fun _ hstored => Option.some.inj hstored ▸ h⟩

theorem orderly_manage {client : C} {command : ManageCall}
    (hdue : Shows clusters events → b.Due clusters) (hok : ∀ e ∈ events, ¬ StoreFailed e) :
    b.Orderly clusters events (.manage client command) :=
  ⟨fun _ _ _ => ⟨hdue, hok⟩, fun _ hstored => by cases hstored⟩

theorem leads_unschedule {key : ObjectKey} : Leads (b.Orderly (C := C) clusters)
    (fun later r => ∃ held, r = .ok held ∧ later = ⟨.unschedule key, held⟩ :: events) events
    (unschedule key) :=
  Pass.leads_lift (orderly_of_ne nofun rfl)

/-- Putting the finalizer on a backup is no more than one call to a store. -/
theorem leads_addFinalizer : Leads (b.Orderly (C := C) clusters)
    (fun later r => b.Idle later ∧ ((∃ e ∈ later, StoreFailed e) ↔ ∃ e, r = .error e)) []
    ((Store.addFinalizer b).embed viaBackups) := by
  unfold Store.addFinalizer
  dsimp only
  split
  · refine Pass.leads_pure ⟨idle_nil, iff_of_false ?_ nofun⟩
    exact fun ⟨_, hmem, _⟩ => List.not_mem_nil hmem
  refine ⟨orderly_update (.finalizers rfl rfl), fun answer => ?_⟩
  have hidle : b.Idle (C := C)
      [⟨.backups (.update (Resource.mapMetadata (·.addFinalizer) b)), answer⟩] :=
    idle_nil.cons rfl id
  cases answer with
  | error e => exact ⟨hidle, iff_of_true ⟨_, List.mem_cons_self, e, rfl⟩ ⟨e, rfl⟩⟩
  | ok stored =>
    refine ⟨hidle, iff_of_false ?_ nofun⟩
    rintro ⟨_, hmem, he⟩
    obtain rfl := List.mem_singleton.1 hmem
    obtain ⟨e, he⟩ := he
    cases he

theorem leads_finalize : Leads (b.Orderly (C := C) clusters) (fun later _ => b.Idle later) []
    b.finalize := by
  unfold finalize
  split
  · refine Pass.leads_bind leads_unschedule ?_ nofun
    rintro _ _ ⟨held, -, rfl⟩
    have hidle := idle_nil.cons (b := b) (e := ⟨.unschedule (Resource.key b), held⟩) rfl id
    refine Pass.leads_bind (E := fun later _ => b.Idle later) ?_ (fun _ _ => id) fun _ _ => id
    unfold Store.removeFinalizer
    split
    · exact hidle
    · refine ⟨orderly_update (.finalizers rfl rfl), fun answer => ?_⟩
      cases answer <;> exact hidle.cons rfl id
  · exact idle_nil

/-! ## The courses of a backup -/

/-- A command with its answer, as it goes through a client. -/
def through (client : C) (e : Event management) : Event (backupCalls C) :=
  ⟨.manage client e.call, e.answer⟩

theorem commands_through (client : C) (own : List (Event management)) :
    commands (own.map (through client) ++ events) = own ++ commands events := by
  have hown : (own.map (through client)).filterMap command? = own := by
    rw [List.filterMap_map]
    exact List.filterMap_some
  unfold commands
  rw [List.filterMap_append, hown]

/-- Commands are no calls to a store, and of them only a successful backup counts. -/
theorem accomplishes_through_iff {client : C} {e : Event management} :
    b.Accomplishes (through client e) ↔ e = ⟨.hotBackup, .ok ()⟩ := by
  obtain ⟨call, answer⟩ := e
  cases call with
  | hotBackup =>
    refine ⟨fun h : answer = .ok () => by rw [h], fun h => ?_⟩
    cases h
    exact rfl
  | getState | forceStart | changeState => exact iff_of_false id nofun

theorem Idle.accomplished_through_iff (h : b.Idle events) (client : C)
    {own : List (Event management)} :
    b.Accomplished (own.map (through client) ++ events) ↔ ⟨.hotBackup, .ok ()⟩ ∈ own := by
  constructor
  · rintro ⟨e, hmem, he⟩
    rcases List.mem_append.1 hmem with hmem | hmem
    · obtain ⟨command, hown, rfl⟩ := List.mem_map.1 hmem
      exact accomplishes_through_iff.1 he ▸ hown
    · exact absurd ⟨e, hmem, he⟩ h.not_accomplished
  · intro hmem
    exact ⟨_, List.mem_append_left _ (List.mem_map_of_mem hmem), accomplishes_through_iff.2 rfl⟩

theorem Shows.mono {later : List (Event (backupCalls C))} (h : Shows clusters later)
    (hlater : events ⊆ later) : Shows clusters events :=
  fun name found hmem => h name found (hlater hmem)

/-- All commands of a script go through a client, one after the other. -/
theorem guards_viaClient {α : Type} {P : List (Event (backupCalls C)) → BackupCall C → Prop}
    {client : C} {s rest : Script management α} {own : List (Event management)}
    (hs : Follows s own rest)
    (hP : ∀ (own : List (Event management)) command,
      P (own.map (through client) ++ events) (.manage client command)) :
    Script.Guards P (fun later a => ∃ own, Follows s own (.done a) ∧
        later = own.map (through client) ++ events)
      (own.map (through client) ++ events) (rest.embed (viaClient client)) := by
  induction rest generalizing own with
  | done a => exact ⟨own, hs, rfl⟩
  | ask command next ih =>
    exact ⟨hP own command, fun answer =>
      ih answer (Follows.step (I := management) (c := command) answer hs)⟩

/-- What has been called where a backup has been made is one of its courses. -/
theorem leads_backUp {client : C} (hidle : b.Idle events)
    (hdue : Shows clusters events → b.Due clusters) (hok : ∀ e ∈ events, ¬ StoreFailed e) :
    Leads (b.Orderly clusters)
      (fun later r => Course (commands later) r ∧ (b.Accomplished later ↔ r = .ok ()))
      events (Management.backUp.embed (viaClient client)) := by
  have horderly (own : List (Event management)) (command : ManageCall) :
      b.Orderly clusters (own.map (through client) ++ events) (.manage client command) := by
    refine orderly_manage (fun hshows => hdue (hshows.mono (List.subset_append_right _ _)))
      fun e he => ?_
    rcases List.mem_append.1 he with he | he
    · obtain ⟨_, -, rfl⟩ := List.mem_map.1 he
      exact id
    · exact hok e he
  have hstart : Follows Management.backUp.run [] Management.backUp.run := .start
  refine (guards_viaClient hstart horderly).mono ?_
  rintro _ r - ⟨own, hown, rfl⟩
  have hcourse := Management.course_of_follows hown
  rw [commands_through, hidle.commands_eq, List.append_nil]
  refine ⟨hcourse, ?_⟩
  exact (hidle.accomplished_through_iff client).trans hcourse.hotBackup_mem_iff

/-- Registering a recurring backup is a call that is no command. -/
theorem leads_schedule {client : C} (hidle : b.Idle events) : Leads (b.Orderly clusters)
    (fun later r => commands later = [] ∧ (b.Accomplished later ↔ r = .ok ())) events
    (.ofScript (Script.call (I := backupCalls C)
      (.schedule (Resource.key b) b.spec.schedule client))) := by
  refine ⟨orderly_of_ne nofun rfl, fun answer => ⟨hidle.commands_eq, ?_⟩⟩
  exact hidle.accomplished_cons_iff.trans ⟨fun h => h.2.2, fun h => ⟨rfl, rfl, h⟩⟩

/-- A single backup that is due is made by one of the courses. -/
theorem leads_single {client : C} (hidle : b.Idle events)
    (hdue : Shows clusters events → b.Due clusters) (hok : ∀ e ∈ events, ¬ StoreFailed e) :
    Leads (b.Orderly clusters) (b.Ends clusters) events (do
      let _ ← unschedule (Resource.key b)
      Management.backUp.embed (viaClient client)
      return .triggered) := by
  refine Pass.leads_bind leads_unschedule ?_ nofun
  rintro _ _ ⟨held, -, rfl⟩
  refine Pass.leads_bind (leads_backUp (hidle.cons rfl id)
    (fun hshows => hdue (hshows.mono (List.subset_cons_self _ _)))
    (List.forall_mem_cons.2 ⟨id, hok⟩)) ?_ ?_
  · rintro later _ ⟨hcourse, haccomplished⟩
    exact Pass.leads_pure ⟨.inr ⟨_, hcourse, rfl⟩, iff_of_true (haccomplished.2 rfl) (.inr rfl)⟩
  · rintro later e ⟨hcourse, haccomplished⟩
    exact ⟨.inr ⟨_, hcourse, rfl⟩, haccomplished.trans (iff_of_false nofun nofun)⟩

/-- A recurring backup is none that is made at once. -/
theorem leads_recurring {client : C} (hidle : b.Idle events)
    (hrecurring : ¬ b.spec.schedule.isEmpty) :
    Leads (b.Orderly clusters) (b.Ends clusters) events (do
      Pass.ofScript (Script.call (I := backupCalls C)
        (.schedule (Resource.key b) b.spec.schedule client))
      return .scheduled) := by
  have hnot (hdue : b.Due clusters) : False := hrecurring (String.isEmpty_iff.2 hdue.single)
  refine Pass.leads_bind (leads_schedule hidle) ?_ ?_
  · rintro later _ ⟨hnone, haccomplished⟩
    exact Pass.leads_pure ⟨.inl ⟨hnone, fun _ hdue => (hnot hdue).elim⟩,
      iff_of_true (haccomplished.2 rfl) (.inl rfl)⟩
  · rintro later e ⟨hnone, haccomplished⟩
    exact ⟨.inl ⟨hnone, fun _ hdue => (hnot hdue).elim⟩,
      haccomplished.trans (iff_of_false nofun nofun)⟩

theorem leads_run {cluster : Cluster} {client : C} (hlive : b.metadata.isDeleted = false)
    (hunrecorded : b.alreadyApplied = false) (hidle : b.Idle events)
    (hfound : ⟨.clusters (.get b.spec.clusterResource), .ok (some cluster)⟩ ∈ events)
    (hok : ∀ e ∈ events, ¬ StoreFailed e) :
    Leads (b.Orderly clusters) (b.Ends clusters) events
      (run (Resource.key b) b cluster client) := by
  have hable (hshows : Shows clusters events) (hdue : b.Due clusters) :
      cluster.phase = .running ∧ b.check cluster = .ok () := by
    obtain ⟨_, hstored, h⟩ := hdue.able
    cases (hshows _ _ hfound).trans hstored
    exact h
  unfold run
  split
  · rename_i hphase
    exact Pass.leads_pure (hidle.ends
      (fun hshows hdue => absurd (hable hshows hdue).1 hphase) nofun)
  rename_i hphase
  refine Pass.leads_bind (E := fun later r => later = events ∧ r = b.check cluster)
    (Pass.leads_ofExcept ⟨rfl, rfl⟩) ?_ ?_
  · rintro events _ ⟨rfl, haccepts⟩
    split
    · rename_i hsingle
      refine leads_single hidle (fun hshows => ?_) hok
      exact {
        live := hlive
        unrecorded := hunrecorded
        single := String.isEmpty_iff.1 hsingle
        able := ⟨cluster, (hshows _ _ hfound).symm, not_not.1 hphase, haccepts.symm⟩ }
    · rename_i hrecurring
      exact leads_recurring hidle hrecurring
  · rintro _ e ⟨rfl, hcheck⟩
    refine hidle.ends (fun hshows hdue => ?_) nofun
    cases hcheck.trans (hable hshows hdue).2

/-! ## The record -/

theorem Accomplished.mono {later : List (Event (backupCalls C))} (h : b.Accomplished events)
    (hlater : events ⊆ later) : b.Accomplished later :=
  h.imp fun _ he => he.imp_left (hlater ·)

/-- Recording the specification commands nothing, whatever comes of it. -/
theorem leads_record (h : b.Accomplished events) : Leads (b.Orderly clusters)
    (fun later _ => events ⊆ later ∧ commands later = commands events) events
    ((Store.annotate (K := HotBackup) (Resource.anyName b) Names.lastSpecAnnotation
      b.specText).embed viaBackups) := by
  refine ⟨orderly_of_ne nofun rfl, fun answer => ?_⟩
  rcases answer with e | _ | found
  · exact ⟨List.subset_cons_self _ _, rfl⟩
  · exact ⟨List.subset_cons_self _ _, rfl⟩
  · show Leads _ _ _ (Pass.embed viaBackups (if _ then _ else _))
    split
    · exact Pass.leads_pure ⟨List.subset_cons_self _ _, rfl⟩
    · refine ⟨orderly_update (.record (h.mono (List.subset_cons_self _ _)) List.mem_cons_self),
        fun answer => ?_⟩
      cases answer <;>
        exact ⟨List.Subset.trans (List.subset_cons_self _ _) (List.subset_cons_self _ _), rfl⟩

/-! ## Whole passes -/

/-- What has been settled stays so as long as nothing more is commanded. -/
theorem Settles.later {α β : Type} {x : α} {y : β} {later : List (Event (backupCalls C))}
    {r : Except Error α} {r' : Except Error β} (h : b.Settles clusters x events r)
    (hlater : events ⊆ later) (hcommands : commands later = commands events)
    (hr : ∀ result : Except Error Unit, r = result.map (fun _ => x) → r' = result.map fun _ => y) :
    b.Settles clusters y later r' := by
  unfold Settles
  rw [hcommands]
  rcases h with ⟨hnone, hwhy⟩ | ⟨result, hcourse, hresult⟩
  · exact .inl ⟨hnone, fun hshows hdue =>
      (hwhy (hshows.mono hlater) hdue).imp fun _ he => he.imp_left (hlater ·)⟩
  · exact .inr ⟨result, hcourse, hr result hresult⟩

theorem Settles.concludes {α : Type} {x : α} {r : Except Error α} {r' : Except Error Next}
    (h : b.Settles clusters x events r) (hnot : ¬ b.Accomplished events)
    (hr : ∀ result : Except Error Unit,
      r = result.map (fun _ => x) → r' = result.map fun _ => .onChange) :
    b.Concludes clusters events r' :=
  ⟨h.later (List.Subset.refl _) rfl hr, fun haccomplished => absurd haccomplished hnot⟩

theorem leads_recorded {outcome : BackupOutcome} (haccomplished : b.Accomplished events)
    (hsettles : b.Settles clusters .triggered events (.ok outcome)) :
    Leads (b.Orderly clusters) (b.Concludes clusters) events (do
      let record := Store.annotate (K := HotBackup) (Resource.anyName b) Names.lastSpecAnnotation
        b.specText
      let _ ← (record.embed viaBackups).outcome
      return Next.onChange) := by
  refine Pass.leads_bind (Pass.leads_outcome (leads_record haccomplished)) ?_ nofun
  rintro later _ ⟨_, -, hlater, hcommands⟩
  refine Pass.leads_pure ⟨hsettles.later hlater hcommands fun result hresult => ?_, fun _ => rfl⟩
  cases result with
  | ok => rfl
  | error e => cases hresult

theorem leads_attend (hlive : b.metadata.isDeleted = false) (hunrecorded : b.alreadyApplied = false)
    (hidle : b.Idle events) (hok : ∀ e ∈ events, ¬ StoreFailed e) :
    Leads (b.Orderly clusters) (b.Concludes clusters) events b.attend := by
  refine Pass.leads_bind
    (E := fun later r => later = ⟨.clusters (.get b.spec.clusterResource), r⟩ :: events)
    ⟨orderly_of_ne nofun rfl, fun _ => rfl⟩ ?_ ?_
  · rintro _ found rfl
    have hidle := hidle.cons (e := ⟨.clusters (.get b.spec.clusterResource), .ok found⟩) rfl id
    cases found with
    | none =>
      refine Pass.leads_pure (hidle.concludes fun hshows hdue => ?_)
      obtain ⟨_, hstored, -⟩ := hdue.able
      cases (hshows _ _ List.mem_cons_self).trans hstored
    | some cluster =>
      have hread : ¬ StoreFailed (C := C)
          ⟨.clusters (.get b.spec.clusterResource), .ok (some cluster)⟩ := by
        rintro ⟨e, he⟩
        cases he
      have hok : ∀ e ∈ _ :: events, ¬ StoreFailed e := List.forall_mem_cons.2 ⟨hread, hok⟩
      refine Pass.leads_bind (Pass.leads_lift (orderly_of_ne nofun rfl)) ?_ nofun
      rintro _ _ ⟨client, -, rfl⟩
      refine Pass.leads_bind (leads_run hlive hunrecorded (hidle.cons rfl id)
        (List.mem_cons_of_mem _ List.mem_cons_self) (List.forall_mem_cons.2 ⟨id, hok⟩)) ?_ ?_
      · rintro later outcome ⟨hsettles, haccomplished⟩
        cases outcome with
        | deferred =>
          refine Pass.leads_pure (hsettles.concludes (haccomplished.not.2 (by simp))
            fun result hresult => ?_)
          cases result <;> cases hresult
        | scheduled => exact leads_recorded (haccomplished.2 (.inl rfl)) hsettles
        | triggered => exact leads_recorded (haccomplished.2 (.inr rfl)) hsettles
      · rintro later e ⟨hsettles, haccomplished⟩
        refine hsettles.concludes (haccomplished.not.2 (by simp)) fun result hresult => ?_
        cases result with
        | ok => cases hresult
        | error e' =>
          cases hresult
          rfl
  · rintro _ e rfl
    exact (hidle.cons rfl id).concludes fun _ _ => ⟨_, List.mem_cons_self, e, rfl⟩

/-- Every call of a pass is orderly, and so is whatever it ends with. -/
theorem leads_reconcile (b : HotBackup) (clusters : MemoryStore Cluster) :
    Leads (b.Orderly (C := C) clusters) (b.Concludes clusters) [] b.reconcile := by
  cases hlive : b.metadata.isDeleted with
  | true =>
    rw [reconcile_of_isDeleted hlive]
    refine leads_finalize.mono fun later r hidle => hidle.concludes fun _ hdue => ?_
    exact absurd (hlive.symm.trans hdue.live) Bool.true_eq_false.mp
  | false =>
    rw [reconcile_eq hlive]
    refine Pass.leads_bind leads_addFinalizer ?_ ?_
    · rintro later _ ⟨hidle, hfailed⟩
      have hok : ∀ e ∈ later, ¬ StoreFailed e := fun e he hfails => by
        obtain ⟨_, heq⟩ := hfailed.1 ⟨e, he, hfails⟩
        cases heq
      split
      · rename_i happlied
        refine Pass.leads_pure (hidle.concludes fun _ hdue => ?_)
        exact absurd happlied (Bool.eq_false_iff.1 hdue.unrecorded)
      · rename_i hunrecorded
        exact leads_attend hlive (Bool.eq_false_iff.2 hunrecorded) hidle hok
    · rintro later e ⟨hidle, hfailed⟩
      exact hidle.concludes fun _ _ => hfailed.2 ⟨e, rfl⟩

/-- Whatever the stores, the scheduler and the cluster answer: a pass commands the cluster exactly
if a single backup is due, by one of the courses, and records what it has made or registered. -/
theorem conducted_of_follows {r : Except Error Next} (h : Follows b.reconcile.run events (.done r))
    (hshows : Shows clusters events) : b.Conducted clusters events r := by
  have hleads := leads_reconcile (C := C) b clusters
  obtain ⟨hsettles, hsucceeded⟩ := h.guards hleads
  constructor
  case due =>
    rintro later ⟨call, answer⟩ earlier rfl hcommand
    have horderly := (h.guarded hleads rfl).1
    cases call with
    | manage client command =>
      obtain ⟨hdue, hok⟩ := horderly client command rfl
      exact ⟨hdue (hshows.mono (List.subset_append_of_subset_right _ (List.subset_cons_self _ _))),
        hok⟩
    | _ => cases hcommand
  case made =>
    intro hdue hunhindered
    rcases hsettles with ⟨hnone, hwhy⟩ | hcourse
    · obtain ⟨e, he, hfailed⟩ := hwhy hshows hdue
      obtain ⟨later, earlier, rfl⟩ := List.append_of_mem he
      refine absurd ?_ (hunhindered later e earlier rfl hfailed)
      exact List.filterMap_eq_nil_iff.2 fun e' he' =>
        List.filterMap_eq_nil_iff.1 hnone e' (List.mem_append_right _ (List.mem_cons_of_mem _ he'))
    · exact hcourse
  case stores => exact fun later e earlier object hevents => (h.guarded hleads hevents).2 object
  case succeeded => exact hsucceeded

end

end HotBackup

/-! ### A cluster that stays passive -/

namespace BackupWorld

open HotBackup (commands)

/-- A single backup, which carries the finalizer. -/
def single : HotBackup where
  metadata := { name := some "hb", space := some "default", finalizers := some [Names.finalizer] }
  spec := { clusterResource := "hz" }

def once : BackupWorld Unit := { beginning with backups := .ofList [single] }

/-- A cluster that makes the backup but does not become active again. -/
def staysPassive : (call : ManageCall) → call.Answer
  | .changeState .active => .error (.http .timeout)
  | .changeState .passive | .hotBackup | .forceStart => .ok ()
  | .getState => .ok .passive

theorem conducted_of_follows_staysPassive : ∃ events : List (Event (backupCalls Unit)),
    Follows single.reconcile.run events (.done (.ok .onChange)) ∧
      commands events = [⟨.changeState .active, .error (.http .timeout)⟩, ⟨.hotBackup, .ok ()⟩,
        ⟨.changeState .passive, .ok ()⟩] ∧
      single.Conducted once.clusters events (.ok .onChange) := by
  have hgoes := (Script.Goes.start (s := single.reconcile.run) (w := once)).advance
    (h := serve staysPassive) (unreliable_serve staysPassive) 8
  have hend : (Script.advance (serve staysPassive) 8 [] single.reconcile.run once).2.1 =
    .done (.ok .onChange) := rfl
  have hfollows := hend ▸ hgoes.follows
  refine ⟨_, hfollows, rfl, HotBackup.conducted_of_follows hfollows ?_⟩
  -- of the eight calls the first one is the only look-up
  rintro name found (_ | ⟨_, _ | ⟨_, _ | ⟨_, _ | ⟨_, _ | ⟨_, _ | ⟨_, _ | ⟨_, _ | ⟨_, ⟨⟩⟩⟩⟩⟩⟩⟩⟩⟩)
  rfl

end BackupWorld

end GridOperator
