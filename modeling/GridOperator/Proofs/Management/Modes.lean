import GridOperator.Proofs.Management.Reactivation
import GridOperator.Proofs.Script.Interleaving

/-!
# The mode of a live cluster under several sequences of commands

Backups that are due and passes that make the cluster active again know nothing
of each other. A backup is made right after the cluster has been made passive,
but the cluster stays so only as long as no other sequence makes it active.
-/

namespace GridOperator

open Script

namespace Management

/-- The mode that a command has set; none unless it succeeded. -/
def modeSet? : Event management → Option ClusterState
  | ⟨.changeState state, .ok ()⟩ => some state
  | _ => none

/-- A live cluster that is in one of the modes. It says which, if it answers, and is brought into
another one by a successful command only. -/
def liveCluster : Environment management ClusterState
  | .getState, mode, answer, mode' => mode' = mode ∧ ∀ state, answer = .ok state → state = mode
  | .changeState state, mode, answer, mode' =>
    mode' = (modeSet? ⟨.changeState state, answer⟩).getD mode
  | .forceStart, mode, _, mode' | .hotBackup, mode, _, mode' => mode' = mode

/-- What is done beside each other on one cluster. -/
inductive Sequence where
  | backup
  /-- What a pass over the cluster does after a restore. -/
  | activation (c : Cluster)

def Sequence.script : Sequence → Script management Unit
  | backup => do let _ ← backUp.run
  | activation c => do let _ ← c.ensureActive.run

/-- The mode set last by any of the sequences. -/
def lastSet? {ι : Type} (trace : List (ι × Event management)) : Option ClusterState :=
  trace.findSome? fun e => modeSet? e.2

/-! ## The mode -/

theorem mode_of_liveCluster {c : ManageCall} {mode mode' : ClusterState} {answer : c.Answer}
    (h : liveCluster c mode answer mode') : mode' = (modeSet? ⟨c, answer⟩).getD mode := by
  cases c with
  | getState => exact h.1
  | changeState state => exact h
  | forceStart => exact h
  | hotBackup => exact h

variable {ι : Type} [DecidableEq ι] {scripts rest : ι → Script management Unit}
  {trace : List (ι × Event management)} {mode mode' : ClusterState}

theorem mode_of_interleaved (h : Interleaved liveCluster scripts mode trace rest mode') :
    mode' = (lastSet? trace).getD mode := by
  induction h with
  | start => rfl
  | @step trace _ w w' k c _ answer _ _ hw ih =>
    rw [mode_of_liveCluster hw, ih]
    unfold lastSet?
    rw [List.findSome?_cons]
    cases modeSet? ⟨c, answer⟩ <;> rfl

/-! ## The sequences -/

theorem script_backup : Sequence.backup.script =
    ask (I := management) (.changeState .passive) fun
      | .ok () => ask (I := management) .hotBackup fun _ =>
        ask (I := management) (.changeState .active) fun _ => done ()
      | .error _ => done () := by
  show (do let _ ← backUp.run : Script management Unit) = _
  rw [run_backUp]
  exact congrArg (ask _) (funext fun answer => by cases answer <;> rfl)

theorem script_activation (c : Cluster) : (Sequence.activation c).script =
    if c.awaitsActivation then ask (I := management) .getState fun
      | .ok .passive => ask (I := management) (.changeState .active) fun _ => done ()
      | _ => done ()
    else done () := by
  show (do let _ ← c.ensureActive.run : Script management Unit) = _
  unfold Cluster.ensureActive
  cases c.awaitsActivation with
  | false => rfl
  | true =>
    refine congrArg (ask _) (funext fun answer => ?_)
    rcases answer with e | state
    · cases e <;> rfl
    · cases state with
      | active => rfl
      | passive =>
        refine congrArg (ask _) (funext fun changed => ?_)
        cases changed <;> rfl

/-- A sequence that is about to make a backup has made the cluster passive and nothing else. -/
theorem events_of_hotBackup {s : Sequence} {events : List (Event management)}
    {next : Except Error Unit → Script management Unit}
    (h : Follows s.script events (ask (I := management) .hotBackup next)) :
    events = [⟨.changeState .passive, .ok ()⟩] := by
  cases s with
  | backup =>
    rw [script_backup] at h
    rcases h.ask_cases with ⟨-, h₁⟩ | ⟨passive, later, rfl, h₁⟩
    · cases h₁
    rcases passive with e | ⟨⟨⟩⟩
    · cases h₁.done_cases.2
    rcases h₁.ask_cases with ⟨rfl, -⟩ | ⟨_, later, rfl, h₂⟩
    · rfl
    rcases h₂.ask_cases with ⟨-, h₃⟩ | ⟨_, later, rfl, h₃⟩
    · cases h₃
    · cases h₃.done_cases.2
  | activation c =>
    rw [script_activation] at h
    split at h
    · rcases h.ask_cases with ⟨-, h₁⟩ | ⟨state, later, rfl, h₁⟩
      · cases h₁
      rcases state with e | ⟨⟨⟩ | ⟨⟩⟩
      · cases h₁.done_cases.2
      · cases h₁.done_cases.2
      rcases h₁.ask_cases with ⟨-, h₂⟩ | ⟨_, later, rfl, h₂⟩
      · cases h₂
      · cases h₂.done_cases.2
    · cases h.done_cases.2

/-! ## Backups of a passive cluster -/

/-- Whenever one of several sequences is about to make a backup, it has made the cluster passive and
has called nothing since. The cluster is still passive exactly if the mode set last by the others
since then, if they have set any, is not the active one. -/
theorem passive_at_hotBackup_iff {sequences : ι → Sequence} {k : ι}
    {next : Except Error Unit → Script management Unit}
    (h : Interleaved liveCluster (fun k => (sequences k).script) mode trace rest mode')
    (hk : rest k = ask (I := management) .hotBackup next) :
    ∃ since before, trace = since ++ (k, ⟨.changeState .passive, .ok ()⟩) :: before ∧
      (∀ e ∈ since, e.1 ≠ k) ∧ (mode' = .passive ↔ lastSet? since ≠ some .active) := by
  have hown : own k trace = [⟨.changeState .passive, .ok ()⟩] :=
    events_of_hotBackup (hk ▸ h.follows k)
  obtain ⟨since, before, rfl, hsince⟩ := eq_append_of_own_eq_singleton hown
  refine ⟨since, before, rfl, hsince, ?_⟩
  have hmode : mode' = (lastSet? since).getD .passive := by
    rw [mode_of_interleaved h]
    unfold lastSet?
    rw [List.findSome?_append]
    cases since.findSome? fun e => modeSet? e.2 <;> rfl
  rw [hmode]
  cases lastSet? since with
  | none => simp
  | some state => cases state <;> simp

/-- Two backups of one cluster, of which the first ends while the second is about to begin. -/
theorem interleaved_backups : ∃ rest next,
    Interleaved liveCluster (fun _ : Nat => Sequence.backup.script) .active
      [(0, ⟨.changeState .active, .ok ()⟩), (0, ⟨.hotBackup, .ok ()⟩),
        (1, ⟨.changeState .passive, .ok ()⟩), (0, ⟨.changeState .passive, .ok ()⟩)] rest .active ∧
      rest 1 = ask (I := management) .hotBackup next :=
  ⟨_, _, .step 0 (.step 0 (.step 1 (.step 0 .start rfl rfl) rfl rfl) rfl rfl) rfl rfl, rfl⟩

theorem passive_at_hotBackup_iff_interleaved_backups :
    ∃ (trace : List (Nat × Event management)) (rest : Nat → Script management Unit)
      (next : Except Error Unit → Script management Unit),
      Interleaved liveCluster (fun _ => Sequence.backup.script) .active trace rest .active ∧
        rest 1 = ask (I := management) .hotBackup next ∧
        ∃ since before, trace = since ++ (1, ⟨.changeState .passive, .ok ()⟩) :: before ∧
          (∀ e ∈ since, e.1 ≠ 1) ∧
          (ClusterState.active = .passive ↔ lastSet? since ≠ some .active) := by
  obtain ⟨rest, next, h, hk⟩ := interleaved_backups
  exact ⟨_, rest, next, h, hk, passive_at_hotBackup_iff h hk⟩

theorem not_always_passive_at_hotBackup :
    ¬ ∀ (sequences : Nat → Sequence) (mode mode' : ClusterState)
      (trace : List (Nat × Event management)) (rest : Nat → Script management Unit) (k : Nat)
      (next : Except Error Unit → Script management Unit),
      Interleaved liveCluster (fun k => (sequences k).script) mode trace rest mode' →
        rest k = ask (I := management) .hotBackup next → mode' = .passive := by
  intro always
  obtain ⟨rest, next, h, hk⟩ := interleaved_backups
  cases always (fun _ => .backup) .active .active _ rest 1 next h hk

end Management

end GridOperator
