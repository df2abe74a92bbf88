import GridOperator.Proofs.Cluster.Status
import GridOperator.Proofs.Reconcile.World
import GridOperator.Proofs.Script.Partway

/-!
# The status that a pass leaves

Passes only ever patch the status, so what a pass does not speak of is left from earlier
ones. A pass that comes to observe its cluster speaks of everything:
`status_renewed` says that only what it has observed can be read afterwards, whatever
passes were made before and wherever those were cut off.
-/

namespace GridOperator

open Kubernetes Pass
open ClusterPass (within Reachable)
open Script (Environment Event Goes Ran)

/-! ## A patch of the resource -/

namespace Cluster

variable {ms : Members} {c : Cluster}

theorem ofJson?_obj_iff (honce : (ms.map (·.1)).Nodup) : ofJson? (.obj ms) = some c ↔
    (ms.lookup "metadata").bind ObjectMeta.ofJson? = some c.metadata ∧
      (ms.lookup "spec").bind ClusterSpec.ofJson? = some c.spec ∧
      (ms.lookup "status").elim (some none) (Json.nullable ClusterStatus.ofJson?) =
        some c.status := by
  unfold ofJson?
  rw [Record.ofJson?_of_nodup honce]
  simp only [Option.bind_eq_bind, Option.bind_some, Record.required_filter, Record.optional_filter,
    List.mem_cons, true_or, or_true]
  constructor
  · intro h
    obtain ⟨metadata, hmetadata, h⟩ := Option.bind_eq_some_iff.1 h
    obtain ⟨spec, hspec, h⟩ := Option.bind_eq_some_iff.1 h
    obtain ⟨status, hstatus, h⟩ := Option.bind_eq_some_iff.1 h
    obtain rfl := Option.some.inj h
    exact ⟨hmetadata, hspec, hstatus⟩
  · rintro ⟨hmetadata, hspec, hstatus⟩
    rw [hmetadata, hspec, hstatus]
    rfl

/-- A resource whose status is patched with a whole status reads as the same cluster with this
status. -/
theorem ofJson?_mergePatch_status (h : Json.WellNamed (.obj ms)) (hc : ofJson? (.obj ms) = some c)
    (s : ClusterStatus) : ofJson? ((Json.obj ms).mergePatch (.obj [("status", s.toJson)])) =
      some { c with status := some s } := by
  have honce : (ms.map (·.1)).Nodup := h.nodup
  have hone : (([("status", s.toJson)] : Members).map (·.1)).Nodup := List.nodup_singleton _
  have hlookup := Json.lookup_mergeMembers honce hone
  obtain ⟨hmetadata, hspec, -⟩ := (ofJson?_obj_iff honce).1 hc
  rw [Json.mergePatch]
  refine (ofJson?_obj_iff (Json.nodup_mergeMembers honce _)).2 ⟨?_, ?_, ?_⟩
  · exact (congrArg (Option.bind · _) (hlookup "metadata")).trans hmetadata
  · exact (congrArg (Option.bind · _) (hlookup "spec")).trans hspec
  · have hread := ClusterStatus.ofJson?_mergePatch
      (Json.WellNamed.of_lookup h.of_mem_members "status") s
    exact (congrArg (Option.elim · _ _) (hlookup "status")).trans
      (congrArg (Option.map some) hread)

end Cluster

/-! ## The status in the course of passes -/

/-- How calls may be answered as far as the status of the cluster of a name goes. A patch that is
accepted is merged into it, and one that is not may have been. The cluster is read with the status
that there is; where it is written itself, the status stays or is the one it is written with. -/
def statusEnvironment (name : String) : Environment clusterCalls Json
  | .patchStatus other patch, doc, answer, doc' =>
    (other = name ∧ doc' = doc.mergePatch patch) ∨
      (doc' = doc ∧ (other = name → ∃ e, answer = .error e))
  | .clusters (.get other), doc, answer, doc' => doc' = doc ∧ (other = name → ∀ c,
    answer = .ok (some c) → Json.nullable ClusterStatus.ofJson? doc = some c.status)
  | .clusters (.create c), doc, _, doc' => doc' = doc ∨ doc' = ClusterStatus.document c.status
  | .clusters (.update c), doc, _, doc' => doc' = doc ∨ doc' = ClusterStatus.document c.status
  | _, doc, _, doc' => doc' = doc

/-- What may stand in the status of the cluster of a name: any status there was at first, and what
passes have left of it, of which each may have been cut off at any call. -/
inductive LeftStatus (name : String) : Json → Prop
  | start (s : Option ClusterStatus) : LeftStatus name (ClusterStatus.document s)
  | pass {doc doc' : Json} {c : Cluster} {settings : Settings} {events : List (Event clusterCalls)}
      {rest : Script clusterCalls (Except Error Next)} (h : LeftStatus name doc)
      (hname : Resource.anyName c = name)
      (hpass : Goes (statusEnvironment name) (c.reconcile settings).run doc events rest doc') :
      LeftStatus name doc'

variable {name : String} {doc doc' : Json}

theorem wellNamed_of_call (call : ClusterCall) (doc : Json) (answer : clusterCalls.Answer call)
    (doc' : Json) (h : statusEnvironment name call doc answer doc') (hdoc : doc.WellNamed) :
    doc'.WellNamed := by
  have hwritten {c : Cluster} (h : doc' = doc ∨ doc' = ClusterStatus.document c.status) :
      doc'.WellNamed := by
    rcases h with rfl | rfl
    · exact hdoc
    · exact ClusterStatus.wellNamed_document _
  cases call with
  | patchStatus other patch =>
    rcases h with ⟨-, rfl⟩ | ⟨rfl, -⟩
    · exact Json.wellNamed_mergePatch patch hdoc
    · exact hdoc
  | clusters call =>
    cases call with
    | get other =>
      obtain ⟨rfl, -⟩ := h
      exact hdoc
    | create c => exact hwritten h
    | update c => exact hwritten h
    | delete other =>
      obtain rfl : doc' = doc := h
      exact hdoc
  | _ =>
    obtain rfl : doc' = doc := h
    exact hdoc

theorem LeftStatus.wellNamed (h : LeftStatus name doc) : doc.WellNamed := by
  induction h with
  | start s => exact ClusterStatus.wellNamed_document s
  | pass _ _ hpass ih => exact hpass.preserves wellNamed_of_call ih

/-! ## After the patch -/

section

variable {status : ClusterStatus}

/-- A note on the cluster leaves the status as it can be read. -/
theorem reads_annotate {key value : String} {r : Except Error Applied}
    (h : Exec (statusEnvironment name)
      (within (Store.annotate (K := Cluster) name key value)) doc r doc')
    (hdoc : ClusterStatus.ofJson? doc = some status) :
    ClusterStatus.ofJson? doc' = some status := by
  rcases exec_bind_cases (exec_embed.1 h) with ⟨e, -, hget⟩ | ⟨found, v, hget, hrest⟩
  · obtain ⟨_, ⟨hkept, -⟩, -⟩ := Script.exec_call.1 hget
    exact hkept ▸ hdoc
  obtain ⟨_, ⟨hkept, hread⟩, rfl⟩ := Script.exec_call.1 hget
  obtain rfl : v = doc := hkept
  cases found with
  | none =>
    obtain ⟨-, rfl⟩ := exec_pure.1 hrest
    exact hdoc
  | some found =>
    -- what has been read is what is written, but for the note
    have hstatus : found.status = some status := by
      have hnull : v ≠ .null := by
        rintro rfl
        cases hdoc
      have hsome : Json.nullable ClusterStatus.ofJson? v = some (some status) := by
        rw [Json.nullable, hdoc]
        · rfl
        · exact hnull
      exact Option.some.inj ((hread rfl found rfl).symm.trans hsome)
    have hwritten {u : Json} (h : u = v ∨ u = ClusterStatus.document found.status) :
        ClusterStatus.ofJson? u = some status := by
      rcases h with rfl | rfl
      · exact hdoc
      · rw [hstatus]
        exact status.ofJson?_toJson
    dsimp only at hrest
    split at hrest
    · obtain ⟨-, rfl⟩ := exec_pure.1 hrest
      exact hdoc
    · obtain ⟨_, hupdate, -⟩ := exec_discard hrest
      obtain ⟨_, hupdate, -⟩ := Script.exec_call.1 hupdate
      exact hwritten hupdate

theorem eq_of_command {client : Client} {α : Type} {p : Pass management α} {r : Except Error α}
    (h : Exec (statusEnvironment name) (ClusterPass.command client p) doc r doc') : doc' = doc := by
  refine (exec_embed.1 h).preserves (P := (· = doc)) (fun call u answer u' hcall hu => ?_) rfl
  obtain ⟨_, hcall, -⟩ := hcall
  obtain rfl : u' = u := hcall
  exact hu

end

/-! ## The pass -/

namespace Cluster

variable {c : Cluster} {settings : Settings} {services : List (Option Service)} {n : Next}
  {events : List (Event clusterCalls)}

theorem askMembers_of_status (c : Cluster) (s : Option ClusterStatus)
    (members : List MemberStatus) :
    ({ c with status := s } : Cluster).askMembers members = c.askMembers members := by
  induction members with
  | nil => rfl
  | cons m rest ih =>
    have hask : ({ c with status := s } : Cluster).askMember m = c.askMember m := rfl
    unfold askMembers
    rw [hask, ih]

/-- What is observed of a cluster does not depend on the status that it had. -/
theorem observe_of_status (c : Cluster) (s : Option ClusterStatus)
    (services : List (Option Service)) :
    ({ c with status := s } : Cluster).observe services = c.observe services := by
  unfold observe
  simp only [askMembers_of_status]
  rfl

/-- What is observed has no message. -/
theorem message_of_observe {σ : Type} {env : Environment clusterCalls σ} {w w' : σ}
    {status : ClusterStatus} (h : Exec env (c.observe services) w (.ok status) w') :
    status.message = none := by
  obtain ⟨_, _, -, h⟩ := exec_bind_ok h
  obtain ⟨_, _, -, h⟩ := exec_bind_ok h
  obtain ⟨_, _, -, h⟩ := exec_bind_ok h
  obtain ⟨hstatus, -⟩ := exec_pure.1 h
  obtain rfl := Except.ok.inj hstatus
  rfl

/-- What has been observed is all that can be read at the end. -/
theorem renewed_settle (hdoc : doc.WellNamed)
    (h : Ended (statusEnvironment (Resource.anyName c)) (c.settle services) doc events (.ok n)
      doc') :
    ∃ status, Ran (c.observe services).run (.ok status) events ∧ status.message = none ∧
      ClusterStatus.ofJson? doc' = some status := by
  obtain ⟨status, later, earlier, u, rfl, hobserve, h⟩ := ended_bind h
  have hu : u.WellNamed := hobserve.exec.preserves wellNamed_of_call hdoc
  refine ⟨status, hobserve.ran.before later, message_of_observe hobserve.exec, ?_⟩
  obtain ⟨_, later, earlier, v, rfl, hpatch, h⟩ := ended_bind h
  have hv : ClusterStatus.ofJson? v = some status := by
    rcases Script.exec_call.1 hpatch.exec with ⟨-, rfl⟩ | ⟨-, hfailed⟩
    · exact ClusterStatus.ofJson?_mergePatch hu status
    · obtain ⟨e, he⟩ := hfailed rfl
      cases he
  obtain ⟨client, v₁, hclient, hstart⟩ := exec_bind_ok h.exec
  obtain ⟨_, -, hclient⟩ := exec_lift.1 hclient
  obtain ⟨_, v₂, hstart, hactive⟩ := exec_bind_ok hstart
  obtain ⟨_, v₃, hactive, hrest⟩ := exec_bind_ok hactive
  have hkept : v₃ = v :=
    (eq_of_command hactive).trans ((eq_of_command hstart).trans (Script.exec_call.1 hclient))
  split at hrest
  · obtain ⟨_, v₄, hannotate, hpure⟩ := exec_bind_ok hrest
    obtain ⟨-, rfl⟩ := exec_pure.1 hpure
    exact reads_annotate hannotate (hkept ▸ hv)
  · obtain ⟨-, rfl⟩ := exec_pure.1 hrest
    exact hkept ▸ hv

/-- A pass that does not come to the stateful set waits for the services of members. -/
theorem waits_of_place (h : Ended (statusEnvironment name) (c.place settings services) doc events
    (.ok false) doc') :
    Ran (c.perPodReady ClusterPass.resolves services).run (.ok false) events := by
  obtain ⟨ready, later, earlier, u, rfl, hready, h⟩ := ended_bind h
  cases ready with
  | false => exact hready.ran.before later
  | true =>
    obtain ⟨_, _, _, _, -, -, h⟩ := ended_bind h
    obtain ⟨_, _, _, _, -, -, h⟩ := ended_bind h
    cases (ended_ofExcept (a := .ok true) h).2.1

/-- A patch with a whole status leaves a resource with this status, and nothing of what passes have
left of earlier ones can be read at the end of a pass that does not wait for services: it is the
status that this pass has observed, of a cluster that might as well have had none. -/
theorem status_renewed (name : String) :
    (∀ (ms : Members) (c : Cluster) (s : ClusterStatus), Json.WellNamed (.obj ms) →
      ofJson? (.obj ms) = some c →
        ofJson? ((Json.obj ms).mergePatch (.obj [("status", s.toJson)])) =
          some { c with status := some s }) ∧
    ∀ doc, LeftStatus name doc →
      (∀ s : ClusterStatus, ClusterStatus.ofJson? (doc.mergePatch s.toJson) = some s) ∧
      ∀ (c : Cluster) (settings : Settings) (events : List (Event clusterCalls)) (n : Next)
        (doc' : Json), Resource.anyName c = name → c.metadata.isDeleted = false →
          Ended (statusEnvironment name) (c.reconcile settings) doc events (.ok n) doc' →
            (∃ services, Ran c.applyServices.run (.ok services) events ∧
              Ran (c.perPodReady ClusterPass.resolves services).run (.ok false) events) ∨
            ∃ services status, Ran c.applyServices.run (.ok services) events ∧
              Ran ({ c with status := none }.observe services).run (.ok status) events ∧
              status.message = none ∧ ClusterStatus.ofJson? doc' = some status := by
  refine ⟨fun ms c s h hc => ofJson?_mergePatch_status h hc s, fun doc hdoc =>
    ⟨ClusterStatus.ofJson?_mergePatch hdoc.wellNamed, ?_⟩⟩
  rintro c settings events n doc' rfl hlive h
  rw [reconcile_eq hlive] at h
  obtain ⟨_, _, prepared, u, rfl, hprepare, h⟩ := ended_bind h
  obtain ⟨services, _, served, u', rfl, hservices, h⟩ := ended_bind h
  obtain ⟨ready, later, placed, v, rfl, hplace, h⟩ := ended_bind h
  have hv : v.WellNamed := by
    have hu := hprepare.exec.preserves wellNamed_of_call hdoc.wellNamed
    exact hplace.exec.preserves wellNamed_of_call (hservices.exec.preserves wellNamed_of_call hu)
  have hserved := (hservices.ran.before (later ++ placed)).after prepared
  cases ready with
  | false =>
    have hwaits := (waits_of_place hplace).before later
    exact .inl ⟨services, hserved, (hwaits.after served).after prepared⟩
  | true =>
    obtain ⟨status, hobserved, hmessage, hread⟩ := renewed_settle hv h
    refine .inr ⟨services, status, hserved, ?_, hmessage, hread⟩
    rw [observe_of_status]
    exact ((hobserved.after placed).after served).after prepared

/-! ### A status that two passes are made over -/

/-- Answers calls in a namespace where nothing else is there, and merges each patch into the status
of `hz`. -/
def merging : Script.Handler clusterCalls Json
  | .patchStatus other patch, doc => (.ok (), if other = "hz" then doc.mergePatch patch else doc)
  | call, doc => ((ClusterWorld.serve call {}).1, doc)

theorem statusEnvironment_merging (call : ClusterCall) (doc : Json) :
    statusEnvironment "hz" call doc (merging call doc).1 (merging call doc).2 := by
  cases call with
  | patchStatus other patch =>
    by_cases h : other = "hz"
    · exact .inl ⟨h, if_pos h⟩
    · exact .inr ⟨if_neg h, fun heq => absurd heq h⟩
  | clusters call =>
    cases call with
    | get other => exact ⟨rfl, fun _ _ hanswer => nomatch hanswer⟩
    | create | update => exact .inl rfl
    | delete => rfl
  | _ => rfl

theorem exists_ended_merging {α : Type} (p : ClusterPass α) (doc : Json) :
    ∃ events, Ended (statusEnvironment "hz") p doc events (p.run.run merging doc).1
      (p.run.run merging doc).2 :=
  (Script.exec_of_run statusEnvironment_merging p.run doc).exists_goes

/-- What an earlier generation of the cluster has left. -/
def formerStatus : ClusterStatus where
  phase := .running
  readyMembers := "1/1"
  members := [{ podName := "hz-0", ip := some "10.0.0.1", ready := true }]
  restore := some .succeeded
  externalAddresses := ["203.0.113.7:5701"]

/-- A cluster whose specification is refused. -/
def refused : Cluster where
  metadata := { name := some "hz" }
  spec := { persistence := some {
    baseDir := "/data"
    restore := some { bucketURI := "ftp://backups", secret := "credentials" } } }

/-- What a pass over the refused cluster leaves. -/
def refusedStatus : Json :=
  ((refused.reconcile {}).run.run merging (ClusterStatus.document (some formerStatus))).2

/-- The cluster once it can be accepted. -/
def mended : Cluster where
  metadata := { name := some "hz" }
  spec := { clusterSize := 1 }

def mendedMembers : Members := [("metadata", .obj [("name", .str "hz")]),
  ("spec", .obj [("clusterSize", .int 1)]), ("status", .obj [("message", .str "refused")])]

theorem wellNamed_mendedMembers : Json.WellNamed (.obj mendedMembers) := by
  have honce : (mendedMembers.map (·.1)).Nodup := by decide
  refine .obj honce ?_
  simp only [mendedMembers, List.forall_mem_cons]
  exact ⟨.single _ (.other nofun), .single _ (.other nofun), .single _ (.other nofun),
    fun _ h => absurd h List.not_mem_nil⟩

/-- The refusal leaves the members and the restore of the earlier generation beside its message; the
next pass that comes to an end leaves nothing of either. -/
theorem status_renewed_mended :
    (∃ c, ofJson? (.obj mendedMembers) = some c ∧
      ofJson? ((Json.obj mendedMembers).mergePatch (.obj [("status", formerStatus.toJson)])) =
        some { c with status := some formerStatus }) ∧
    (ClusterStatus.ofJson? refusedStatus).any (fun s =>
      s.message.isSome ∧ s.members = formerStatus.members ∧ s.restore = some .succeeded) ∧
    LeftStatus "hz" refusedStatus ∧
    ∃ events n doc' status, status.message = none ∧
      Ended (statusEnvironment "hz") (mended.reconcile {}) refusedStatus events (.ok n) doc' ∧
      ClusterStatus.ofJson? doc' = some status := by
  have hleft : LeftStatus "hz" refusedStatus := by
    obtain ⟨events, hrefused⟩ := exists_ended_merging (refused.reconcile {})
      (ClusterStatus.document (some formerStatus))
    exact .pass (.start (some formerStatus)) rfl hrefused
  obtain ⟨hresource, hrenewed⟩ := status_renewed "hz"
  refine ⟨?_, by decide +kernel, hleft, ?_⟩
  · obtain ⟨c, hc⟩ : ∃ c, ofJson? (.obj mendedMembers) = some c :=
      Option.isSome_iff_exists.1 (by decide +kernel)
    exact ⟨c, hc, hresource _ c formerStatus wellNamed_mendedMembers hc⟩
  · obtain ⟨events, hended⟩ := exists_ended_merging (mended.reconcile {}) refusedStatus
    have hok : ((mended.reconcile {}).run.run merging refusedStatus).1.isOk := by decide +kernel
    cases hresult : ((mended.reconcile {}).run.run merging refusedStatus).1 with
    | error e =>
      rw [hresult] at hok
      cases hok
    | ok n =>
      rw [hresult] at hended
      rcases (hrenewed _ hleft).2 mended {} events n _ rfl rfl hended with
        ⟨services, -, own, -, hwaits⟩ | ⟨services, status, -, -, hmessage, hread⟩
      · -- the services of its members are not waited for
        cases hwaits.done_cases.2
      · exact ⟨events, n, _, status, hmessage, hended, hread⟩

end Cluster

end GridOperator
