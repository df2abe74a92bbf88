import GridOperator.Proofs.Json.Merging
import GridOperator.Reconcile.Cluster

/-!
# Patching the status

Every status can be read after it has been written. A patch with a whole status
leaves just that status, whatever was there before; a patch with a phase leaves
the rest of what was there.
-/

namespace GridOperator

theorem Phase.ofJson?_name (p : Phase) : ofJson? (.str p.name) = some p := by
  cases p <;> rfl

theorem RestoreState.ofJson?_name (r : RestoreState) : ofJson? (.str r.name) = some r := by
  cases r <;> rfl

theorem MemberStatus.ofJson?_toJson (m : MemberStatus) : ofJson? m.toJson = some m := by
  unfold ofJson? toJson
  rw [Record.ofJson?_obj (by simp) (by simp)]
  simp [Record.required, Record.optional, Record.withDefault, Record.get?, List.lookup_cons,
    Json.nullable_text, Json.int32_ofInt32, Json.text_str, Json.flag_bool]

namespace ClusterStatus

theorem readyMembersOfJson?_obj (text : String) :
    readyMembersOfJson? (.obj [("readyMembers", .str text)]) = some text := by
  unfold readyMembersOfJson?
  rw [Record.ofJson?_obj (by simp) (by simp)]
  rfl

theorem restoreOfJson?_obj (r : RestoreState) :
    restoreOfJson? (.obj [("state", .str r.name)]) = some r := by
  unfold restoreOfJson?
  rw [Record.ofJson?_obj (by simp) (by simp)]
  exact RestoreState.ofJson?_name r

/-- A status is what the members of an object say for its fields, whatever else there is. -/
theorem ofJson?_of_lookup {ms : Members} {s : ClusterStatus} (honce : (ms.map (·.1)).Nodup)
    (hphase : ms.lookup "phase" = some (.str s.phase.name))
    (hready : (ms.lookup "cluster").bind readyMembersOfJson? = some s.readyMembers)
    (hmessage : (ms.lookup "message").elim (some none) (Json.nullable Json.text) = some s.message)
    (hmembers : ms.lookup "members" = some (.ofList MemberStatus.toJson s.members))
    (hrestore : (ms.lookup "restore").elim (some none) (Json.nullable restoreOfJson?) =
      some s.restore)
    (haddresses : ms.lookup "externalAddresses" = some (.strings s.externalAddresses)) :
    ofJson? (.obj ms) = some s := by
  obtain ⟨cluster, hcluster, hread⟩ := Option.bind_eq_some_iff.1 hready
  unfold ofJson?
  rw [Record.ofJson?_of_nodup honce]
  simp only [Option.bind_eq_bind, Option.bind_some, Record.withDefault_filter,
    Record.optional_filter, List.mem_cons, true_or, or_true, hphase, hcluster, hmessage, hmembers,
    hrestore, haddresses, Option.elim_some, Phase.ofJson?_name, hread,
    Json.list_ofList MemberStatus.ofJson?_toJson, Json.strings, Json.list_ofList Json.text_str]
  rfl

/-- The members of a status, with what stands for its message and for its restore. -/
def stated (s : ClusterStatus) (message restore : Option Json) : List (String × Option Json) := [
  ("phase", some (.str s.phase.name)),
  ("cluster", some (.obj [("readyMembers", .str s.readyMembers)])),
  ("message", message),
  ("members", some (.ofList MemberStatus.toJson s.members)),
  ("restore", restore),
  ("externalAddresses", some (.strings s.externalAddresses))]

theorem ofJson?_stated (s : ClusterStatus) (message restore : Option Json)
    (hmessage : message.elim (some none) (Json.nullable Json.text) = some s.message)
    (hrestore : restore.elim (some none) (Json.nullable restoreOfJson?) = some s.restore) :
    ofJson? (.obj (Json.ofSome (s.stated message restore))) = some s := by
  have honce : ((s.stated message restore).map (·.1)).Nodup := by
    have hfields : (s.stated message restore).map (·.1) =
        ["phase", "cluster", "message", "members", "restore", "externalAddresses"] := rfl
    rw [hfields]
    decide
  have hlookup := Record.lookup_ofSome honce
  refine ofJson?_of_lookup ((Record.keys_ofSome_sublist _).nodup honce) (hlookup "phase") ?_ ?_
    (hlookup "members") ?_ (hlookup "externalAddresses")
  · rw [hlookup]
    exact readyMembersOfJson?_obj _
  · rw [hlookup]
    exact hmessage
  · rw [hlookup]
    exact hrestore

theorem nullable_restore (r : Option RestoreState) : Json.nullable restoreOfJson?
    (.ofOption (fun r => .obj [("state", .str r.name)]) r) = some r := by
  cases r with
  | none => rfl
  | some r => exact congrArg (Option.map some) (restoreOfJson?_obj r)

theorem ofJson?_toJson (s : ClusterStatus) : ofJson? s.toJson = some s :=
  ofJson?_stated s (some (.ofOption .str s.message)) (some _) (Json.nullable_text _)
    (nullable_restore _)

/-- The document that a patch of a status goes to; null where there is no status. -/
def document (s : Option ClusterStatus) : Json := (s.map toJson).getD .null

/-! ## A patch with a whole status -/

theorem readyMembersOfJson?_mergePatch {j : Json} (h : j.WellNamed) (text : String) :
    readyMembersOfJson? (j.mergePatch (.obj [("readyMembers", .str text)])) = some text := by
  have honce : (([("readyMembers", .str text)] : Members).map (·.1)).Nodup := List.nodup_singleton _
  have hlookup := Json.lookup_mergeMembers h.nodup honce "readyMembers"
  unfold readyMembersOfJson?
  rw [Json.mergePatch, Record.ofJson?_of_nodup (Json.nodup_mergeMembers h.nodup _),
    Option.bind_eq_bind, Option.bind_some, Record.withDefault_filter List.mem_cons_self, hlookup]
  rfl

theorem restoreOfJson?_mergePatch {j : Json} (h : j.WellNamed) (r : RestoreState) :
    restoreOfJson? (j.mergePatch (.obj [("state", .str r.name)])) = some r := by
  have honce : (([("state", .str r.name)] : Members).map (·.1)).Nodup := List.nodup_singleton _
  have hlookup := Json.lookup_mergeMembers h.nodup honce "state"
  unfold restoreOfJson?
  rw [Json.mergePatch, Record.ofJson?_of_nodup (Json.nodup_mergeMembers h.nodup _),
    Option.bind_eq_bind, Option.bind_some, Record.required_filter List.mem_cons_self, hlookup]
  exact RestoreState.ofJson?_name r

theorem nodup_toJson (s : ClusterStatus) : (s.toJson.members.map (·.1)).Nodup := by
  show ["phase", "cluster", "message", "members", "restore", "externalAddresses"].Nodup
  decide

/-- A patch with a whole status leaves this status, whatever was there. -/
theorem ofJson?_mergePatch {before : Json} (h : before.WellNamed) (s : ClusterStatus) :
    ofJson? (before.mergePatch s.toJson) = some s := by
  have hlookup := Json.lookup_mergeMembers h.nodup s.nodup_toJson
  have hold (name : String) := Json.WellNamed.of_lookup h.of_mem_members name
  rw [show before.mergePatch s.toJson = .obj (Json.mergeMembers before.members s.toJson.members) by
    rw [toJson, Json.mergePatch]
    rfl]
  refine ofJson?_of_lookup (Json.nodup_mergeMembers h.nodup _) (hlookup "phase") ?_ ?_
    (hlookup "members") ?_ (hlookup "externalAddresses")
  · rw [hlookup]
    exact readyMembersOfJson?_mergePatch (hold "cluster") s.readyMembers
  · rw [hlookup]
    obtain ⟨_, _, message, _, _, _⟩ := s
    cases message <;> rfl
  · rw [hlookup]
    obtain ⟨_, _, _, _, restore, _⟩ := s
    cases restore with
    | none => rfl
    | some r => exact congrArg (Option.map some) (restoreOfJson?_mergePatch (hold "restore") r)

theorem wellNamed_toJson (s : ClusterStatus) : s.toJson.WellNamed := by
  have hsingle (name text : String) : Json.WellNamed (.obj [(name, .str text)]) :=
    .single name (.other nofun)
  have hmessage : Json.WellNamed (.ofOption .str s.message) := by
    cases s.message <;> exact .other nofun
  have hrestore :
      Json.WellNamed (.ofOption (fun r => .obj [("state", .str r.name)]) s.restore) := by
    cases s.restore with
    | none => exact .null
    | some r => exact hsingle _ _
  refine .obj s.nodup_toJson ?_
  simp only [List.forall_mem_cons]
  exact ⟨.other nofun, hsingle _ _, hmessage, .other nofun, hrestore, .other nofun,
    fun _ h => absurd h List.not_mem_nil⟩

theorem wellNamed_document (s : Option ClusterStatus) : (document s).WellNamed := by
  cases s with
  | none => exact .null
  | some s => exact s.wellNamed_toJson

theorem ofJson?_mergePatch_toJson (before : Option ClusterStatus) (s : ClusterStatus) :
    ofJson? ((document before).mergePatch s.toJson) = some s :=
  ofJson?_mergePatch (wellNamed_document before) s

theorem ofJson?_mergePatch_phasePatch (before : Option ClusterStatus) (phase : Phase)
    (message : Option String) :
    ofJson? ((document before).mergePatch (Cluster.phasePatch phase message)) =
      some { before.getD {} with phase, message := message <|> before.bind (·.message) } := by
  cases before with
  | none => cases phase <;> cases message <;> rfl
  | some s =>
    cases message with
    | none => exact ofJson?_toJson { s with phase }
    | some m => exact ofJson?_toJson { s with phase, message := some m }

end ClusterStatus

end GridOperator
