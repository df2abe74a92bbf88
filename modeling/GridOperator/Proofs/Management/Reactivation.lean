import GridOperator.Management.Commands
import GridOperator.Proofs.Script.Partway

/-!
# Whether a backup brings a cluster back to the active mode

A command may take effect and be reported as failed all the same. A backup whose
first command is reported so counts as not started and ends at once, and leaves the
cluster passive if the command has taken effect. In every other course the cluster
is told to become active after the last command that may have made it passive.
-/

namespace GridOperator

open Script

namespace Management

/-! ## The courses of a backup -/

/-- What a backup may call, the latest one first, and what it then comes to. -/
inductive Course : List (Event management) → Except Error Unit → Prop where
  | refused (e : Error) : Course [⟨.changeState .passive, .error e⟩] (.error e)
  | made (backup reactivated : Except Error Unit) :
      Course [⟨.changeState .active, reactivated⟩, ⟨.hotBackup, backup⟩,
        ⟨.changeState .passive, .ok ()⟩] backup

theorem run_backUp : backUp.run =
    ask (I := management) (.changeState .passive) fun
      | .ok () => ask (I := management) .hotBackup fun backup =>
        ask (I := management) (.changeState .active) fun _ => done backup
      | .error e => done (.error e) :=
  congrArg (ask _) (funext fun answer => by cases answer <;> rfl)

variable {events : List (Event management)} {r : Except Error Unit} {mode mode' : ClusterState}

theorem course_of_follows (h : Follows backUp.run events (done r)) : Course events r := by
  rw [run_backUp] at h
  rcases h.ask_cases with ⟨-, h₁⟩ | ⟨passive, later, rfl, h₁⟩
  · cases h₁
  rcases passive with e | ⟨⟨⟩⟩
  · obtain ⟨rfl, hr⟩ := h₁.done_cases
    cases hr
    exact .refused e
  rcases h₁.ask_cases with ⟨-, h₂⟩ | ⟨backup, later, rfl, h₂⟩
  · cases h₂
  rcases h₂.ask_cases with ⟨-, h₃⟩ | ⟨reactivated, later, rfl, h₃⟩
  · cases h₃
  obtain ⟨rfl, hr⟩ := h₃.done_cases
  cases hr
  exact .made _ _

/-- A course comes to a success exactly if the data has been backed up. -/
theorem Course.hotBackup_mem_iff (h : Course events r) :
    ⟨.hotBackup, .ok ()⟩ ∈ events ↔ r = .ok () := by
  cases h with
  | refused e =>
    refine iff_of_false (fun hmem => ?_) nofun
    cases List.mem_singleton.1 hmem
  | made backup reactivated =>
    constructor
    · rintro (_ | ⟨_, hmem⟩)
      rcases hmem with _ | ⟨_, hmem⟩
      · rfl
      · cases List.mem_singleton.1 hmem
    · rintro rfl
      exact List.mem_cons_of_mem _ List.mem_cons_self

/-- A command to become passive that is reported as failed is the only one. -/
theorem Course.eq_of_refused {e : Error} (h : Course events r)
    (hmem : ⟨.changeState .passive, .error e⟩ ∈ events) :
    events = [⟨.changeState .passive, .error e⟩] ∧ r = .error e := by
  cases h with
  | refused e' =>
    cases List.mem_singleton.1 hmem
    exact ⟨rfl, rfl⟩
  | made backup reactivated => rcases hmem with _ | ⟨_, _ | ⟨_, _ | ⟨_, ⟨⟩⟩⟩⟩

/-! ## Commands whose failure says little -/

/-- A live cluster in one of the modes, where a command that is reported as failed may have taken
effect. -/
def doubtfulCluster : Environment management ClusterState
  | .getState, mode, answer, mode' => mode' = mode ∧ ∀ state, answer = .ok state → state = mode
  | .changeState state, mode, answer, mode' => mode' = state ∨ mode' = mode ∧ answer ≠ .ok ()
  | .forceStart, mode, _, mode' | .hotBackup, mode, _, mode' => mode' = mode

/-- Whether a command may have made the cluster passive, as far as the answer tells. -/
def MayPacify (e : Event management) : Prop := doubtfulCluster e.call .active e.answer .passive

/-- Whether the cluster is told to become active after each command that may have made it
passive. -/
def Reactivates (events : List (Event management)) : Prop :=
  ∀ later e earlier, events = later ++ e :: earlier → MayPacify e →
    ∃ attempt ∈ later, attempt.call = .changeState .active

theorem mayPacify_iff {e : Event management} : MayPacify e ↔ e.call = .changeState .passive := by
  obtain ⟨call, answer⟩ := e
  unfold MayPacify
  cases call with
  | changeState state =>
    cases state with
    | active => exact iff_of_false (by simp [doubtfulCluster]) nofun
    | passive => exact iff_of_true (.inl rfl) rfl
  | getState => exact iff_of_false (by simp [doubtfulCluster]) nofun
  | forceStart | hotBackup => exact iff_of_false nofun nofun

/-- The last command of a sequence is followed by none. -/
theorem not_reactivates_of_head {e : Event management} {earlier : List (Event management)}
    (h : MayPacify e) : ¬ Reactivates (e :: earlier) := fun hall => by
  obtain ⟨attempt, hmem, -⟩ := hall [] e earlier rfl h
  cases hmem

/-- A sequence that ends with an attempt to make the cluster active has made one after all
others. -/
theorem reactivates_cons {reactivated : Except Error Unit} {earlier : List (Event management)} :
    Reactivates (⟨.changeState .active, reactivated⟩ :: earlier) := by
  intro later e before hevents hpacifies
  cases later with
  | nil =>
    obtain ⟨rfl, -⟩ := List.cons.inj hevents
    cases mayPacify_iff.1 hpacifies
  | cons attempt later =>
    obtain ⟨rfl, -⟩ := List.cons.inj hevents
    exact ⟨_, List.mem_cons_self, rfl⟩

/-- A backup whose first command fails may leave the cluster passive whatever the error is. -/
theorem goes_refused (mode : ClusterState) (e : Error) :
    Goes doubtfulCluster backUp.run mode [⟨.changeState .passive, .error e⟩] (done (.error e))
      .passive := by
  rw [run_backUp]
  exact Goes.start.step (.inl rfl)

/-- A backup that has ended has told the cluster to become active after each command that may have
made it passive, unless the first one was reported as failed: then it has called nothing else. -/
theorem reactivates_iff (h : Goes doubtfulCluster backUp.run mode events (done r) mode') :
    (Reactivates events ↔ ¬ ∃ e, events = [⟨.changeState .passive, .error e⟩] ∧ r = .error e) ∧
      ∀ e, ⟨.changeState .passive, .error e⟩ ∈ events →
        events = [⟨.changeState .passive, .error e⟩] ∧ r = .error e := by
  have hcourse := course_of_follows h.follows
  refine ⟨?_, fun e => hcourse.eq_of_refused⟩
  cases hcourse with
  | refused e =>
    exact iff_of_false (not_reactivates_of_head (mayPacify_iff.2 rfl)) fun hnot =>
      hnot ⟨e, rfl, rfl⟩
  | made backup reactivated =>
    refine iff_of_true reactivates_cons ?_
    rintro ⟨e, hevents, -⟩
    cases hevents

/-- A command that has timed out, and has made the cluster passive. -/
theorem reactivates_iff_timedOut : ∃ e,
    Goes doubtfulCluster backUp.run .active [⟨.changeState .passive, .error e⟩] (done (.error e))
      .passive ∧ ¬ Reactivates [⟨.changeState .passive, .error e⟩] := by
  have h := goes_refused .active (.http .timeout)
  refine ⟨_, h, fun hreactivates => ?_⟩
  exact (reactivates_iff h).1.1 hreactivates ⟨_, rfl, rfl⟩

theorem not_always_reactivates :
    ¬ ∀ (mode mode' : ClusterState) (events : List (Event management)) (r : Except Error Unit),
      Goes doubtfulCluster backUp.run mode events (done r) mode' → Reactivates events := by
  intro always
  have h := goes_refused .active (.http .timeout)
  exact not_reactivates_of_head (mayPacify_iff.2 rfl) (always _ _ _ _ h)

end Management

end GridOperator
