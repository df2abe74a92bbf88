import GridOperator.Desired.Rbac
import GridOperator.Management.Registry
import GridOperator.Proofs.Script.Partway
import GridOperator.Proofs.Store.Outcomes
import GridOperator.Reconcile.Teardown

/-!
# Cleaning up again and again

Cleaning up after a cluster may be cut off at any call, and is begun anew from
whatever is left. `teardown_attempted` says what holds wherever one of the attempts
has got to: the binding goes before the role and both before the client, an attempt
that gets through leaves nothing to do for any later one, and what belongs to others
stays.
-/

namespace GridOperator

open Kubernetes
open Script (Environment Event Goes Guards ask done)

/-! ## What cleaning up asks for -/

namespace Cluster

variable (c : Cluster) (events : List (Event teardownCalls))

/-- Whether the binding has been deleted by one of these calls. -/
def BindingDeleted : Prop :=
  ∃ held, (⟨.bindings (.delete c.scopedName), .ok held⟩ : Event teardownCalls) ∈ events

def RoleDeleted : Prop :=
  ∃ held, (⟨.roles (.delete c.scopedName), .ok held⟩ : Event teardownCalls) ∈ events

def ClientReleased : Prop :=
  ∃ held, (⟨.release (Resource.key c), held⟩ : Event teardownCalls) ∈ events

/-- Whether cleaning up may make a call after these. -/
def TearsDown : TeardownCall → Prop
  | .bindings call => call = .delete c.scopedName
  | .roles call => call = .delete c.scopedName ∧ c.BindingDeleted events
  | .release key => key = Resource.key c ∧ c.BindingDeleted events ∧ c.RoleDeleted events

/-- Whether all that there is to do has been done by these calls. -/
structure TornDown : Prop where
  binding : c.BindingDeleted events
  role : c.RoleDeleted events
  client : c.ClientReleased events

variable {c events} {later : List (Event teardownCalls)}

theorem BindingDeleted.mono (h : c.BindingDeleted events) (hlater : events <:+ later) :
    c.BindingDeleted later := h.imp fun _ hmem => hlater.subset hmem

/-- Each step waits for the ones before it. -/
theorem guards_teardown (c : Cluster) :
    Pass.Guards c.TearsDown (fun later _ => c.TornDown later) [] c.teardown := by
  refine Pass.guards_bind (Q := fun later _ => c.BindingDeleted later) ⟨rfl, fun answer => ?_⟩
    fun later _ _ hbinding => ?_
  · cases answer with
    | error => exact nofun
    | ok held => exact fun _ _ => ⟨held, List.mem_cons_self⟩
  refine Pass.guards_bind (Q := fun later _ => c.BindingDeleted later ∧ c.RoleDeleted later)
    ⟨⟨rfl, hbinding⟩, fun answer => ?_⟩ fun later _ _ ⟨hbinding, hrole⟩ => ?_
  · cases answer with
    | error => exact nofun
    | ok held => exact fun _ _ => ⟨hbinding.mono (List.suffix_cons _ _), held, List.mem_cons_self⟩
  exact ⟨⟨rfl, hbinding, hrole⟩, fun held _ _ => ⟨hbinding.mono (List.suffix_cons _ _),
    hrole.imp fun _ hmem => List.mem_cons_of_mem _ hmem, held, List.mem_cons_self⟩⟩

end Cluster

/-! ## Deletions -/

namespace MemoryStore

variable {K : Type} [Resource K] {s s' : MemoryStore K} {name : String} {r : Except Error Bool}

/-- Only what is to be deleted may be gone. -/
theorem Answers.delete_cases (h : s.Answers (.delete name) r s') (other : String) :
    s'.objects.get? other = s.objects.get? other ∨
      other = name ∧ s'.objects.get? other = none := by
  rcases h.delete with ⟨rfl, -⟩ | h
  · exact .inl rfl
  rw [h]
  by_cases hother : other = name
  · exact .inr ⟨hother, hother ▸ Table.get?_erase_self _ _⟩
  · exact .inl (Table.get?_erase_of_ne hother _)

theorem Answers.delete_ok {held : Bool} (h : s.Answers (.delete name) (.ok held) s') :
    s'.objects.get? name = none := by
  rcases h.delete with ⟨-, e, he⟩ | h
  · cases he
  · rw [h, Table.get?_erase_self]

/-- To delete what is not there changes nothing. -/
theorem Answers.delete_of_none (h : s.Answers (.delete name) r s')
    (hnone : s.objects.get? name = none) : s' = s := by
  have hsame : (serve (.delete name) s).2 = s := by
    show { s with objects := s.objects.erase name } = s
    rw [Table.erase_of_get?_eq_none hnone]
  rcases h with ⟨-, h⟩ | ⟨e, -, h | h⟩
  · rw [h, hsame]
  · exact h
  · rw [h, hsame]

end MemoryStore

/-! ## What there is to clean up -/

/-- The roles, bindings and clients of all clusters. -/
structure Remains where
  roles : MemoryStore ClusterRole := {}
  bindings : MemoryStore ClusterRoleBinding := {}
  registry : Registry := {}

namespace Remains

/-- Deletions may fail, before or after they take effect. -/
def unreliable : Environment teardownCalls Remains
  | .roles call, w, answer, w' =>
    ∃ s, w.roles.Answers call answer s ∧ w' = { w with roles := s }
  | .bindings call, w, answer, w' =>
    ∃ s, w.bindings.Answers call answer s ∧ w' = { w with bindings := s }
  | .release key, w, answer, w' => answer = (w.registry.release key).1 ∧
    w' = { w with registry := (w.registry.release key).2 }

/-- Answers all calls. -/
def serve : Script.Handler teardownCalls Remains
  | .roles call, w =>
    let (answer, s) := MemoryStore.serve call w.roles
    (answer, { w with roles := s })
  | .bindings call, w =>
    let (answer, s) := MemoryStore.serve call w.bindings
    (answer, { w with bindings := s })
  | .release key, w =>
    let (held, registry) := w.registry.release key
    (held, { w with registry })

theorem unreliable_serve (call : TeardownCall) (w : Remains) :
    unreliable call w (serve call w).1 (serve call w).2 := by
  cases call with
  | release key => exact ⟨rfl, rfl⟩
  | _ => exact ⟨_, .inl ⟨rfl, rfl⟩, rfl⟩

/-- Every call is answered. -/
def reliable : Environment teardownCalls Remains :=
  fun call w answer w' => (answer, w') = serve call w

/-- Whether nothing of the cluster is left. -/
structure Clear (c : Cluster) (w : Remains) : Prop where
  role : w.roles.objects.get? c.scopedName = none
  binding : w.bindings.objects.get? c.scopedName = none
  client : w.registry.clients.get? (Resource.key c) = none

/-- Whether all is as it was, but for the role, the binding and the client of the cluster, which may
be gone. -/
structure Shrinks (c : Cluster) (w v : Remains) : Prop where
  role (name : String) : v.roles.objects.get? name = w.roles.objects.get? name ∨
    name = c.scopedName ∧ v.roles.objects.get? name = none
  binding (name : String) : v.bindings.objects.get? name = w.bindings.objects.get? name ∨
    name = c.scopedName ∧ v.bindings.objects.get? name = none
  client (key : ObjectKey) : v.registry.clients.get? key = w.registry.clients.get? key ∨
    key = Resource.key c ∧ v.registry.clients.get? key = none

/-- Whether what an answered call tells is so: what it says to have deleted is not there. -/
def Tells (w : Remains) : Event teardownCalls → Prop
  | ⟨.roles (.delete name), .ok _⟩ => w.roles.objects.get? name = none
  | ⟨.bindings (.delete name), .ok _⟩ => w.bindings.objects.get? name = none
  | ⟨.release key, _⟩ => w.registry.clients.get? key = none
  | _ => True

variable {c : Cluster} {u v v' w w₀ : Remains} {events : List (Event teardownCalls)}
  {rest : Script teardownCalls (Except Error Unit)} {call : TeardownCall}
  {answer : teardownCalls.Answer call}

theorem Shrinks.refl (c : Cluster) (w : Remains) : Shrinks c w w :=
  ⟨fun _ => .inl rfl, fun _ => .inl rfl, fun _ => .inl rfl⟩

theorem Shrinks.trans (h : Shrinks c u v) (h' : Shrinks c v w) : Shrinks c u w where
  role name := (h'.role name).elim (fun h' => h' ▸ h.role name) .inr
  binding name := (h'.binding name).elim (fun h' => h' ▸ h.binding name) .inr
  client key := (h'.client key).elim (fun h' => h' ▸ h.client key) .inr

/-- What is gone stays gone. -/
theorem Tells.mono {e : Event teardownCalls} (he : v.Tells e) (h : Shrinks c v w) : w.Tells e := by
  unfold Tells at he ⊢
  split
  · exact (h.role _).elim (fun h => h.trans he) And.right
  · exact (h.binding _).elim (fun h => h.trans he) And.right
  · exact (h.client _).elim (fun h => h.trans he) And.right
  · trivial

/-! ## Calls -/

theorem shrinks_of_tearsDown (hcall : c.TearsDown events call)
    (h : unreliable call v answer v') : Shrinks c v v' := by
  cases call with
  | roles call =>
    obtain ⟨rfl, -⟩ := hcall
    obtain ⟨s, hs, rfl⟩ := h
    exact ⟨hs.delete_cases, fun _ => .inl rfl, fun _ => .inl rfl⟩
  | bindings call =>
    obtain rfl := hcall
    obtain ⟨s, hs, rfl⟩ := h
    exact ⟨fun _ => .inl rfl, hs.delete_cases, fun _ => .inl rfl⟩
  | release key =>
    obtain ⟨rfl, -⟩ := hcall
    obtain ⟨-, rfl⟩ := h
    refine ⟨fun _ => .inl rfl, fun _ => .inl rfl, fun key => ?_⟩
    by_cases hkey : key = Resource.key c
    · exact .inr ⟨hkey, hkey ▸ Table.get?_erase_self _ _⟩
    · exact .inl (Table.get?_erase_of_ne hkey _)

theorem tells_of_tearsDown (hcall : c.TearsDown events call)
    (h : unreliable call v answer v') : v'.Tells ⟨call, answer⟩ := by
  cases call with
  | roles call =>
    obtain ⟨rfl, -⟩ := hcall
    obtain ⟨s, hs, rfl⟩ := h
    cases answer with
    | error => trivial
    | ok held => exact hs.delete_ok
  | bindings call =>
    obtain rfl := hcall
    obtain ⟨s, hs, rfl⟩ := h
    cases answer with
    | error => trivial
    | ok held => exact hs.delete_ok
  | release key =>
    obtain ⟨-, rfl⟩ := h
    exact Table.get?_erase_self _ _

/-- Where nothing is left, nothing happens. -/
theorem eq_of_clear (hclear : v.Clear c) (hcall : c.TearsDown events call)
    (h : unreliable call v answer v') : v' = v := by
  cases call with
  | roles call =>
    obtain ⟨rfl, -⟩ := hcall
    obtain ⟨s, hs, rfl⟩ := h
    rw [hs.delete_of_none hclear.role]
  | bindings call =>
    obtain rfl := hcall
    obtain ⟨s, hs, rfl⟩ := h
    rw [hs.delete_of_none hclear.binding]
  | release key =>
    obtain ⟨rfl, -⟩ := hcall
    obtain ⟨-, rfl⟩ := h
    unfold Registry.release
    dsimp only
    rw [Table.erase_of_get?_eq_none hclear.client]

/-! ## Attempts -/

/-- What there may be after some attempts to clean up, each of which has got to some call or to its
end. -/
inductive Attempted (c : Cluster) (w₀ : Remains) : Remains → Prop where
  | never : Attempted c w₀ w₀
  | again {events : List (Event teardownCalls)} {w v : Remains}
      {rest : Script teardownCalls (Except Error Unit)} : Attempted c w₀ w →
      Goes unreliable c.teardown.run w events rest v → Attempted c w₀ v

/-- What holds within an attempt. -/
structure Underway (c : Cluster) (w : Remains) (events : List (Event teardownCalls))
    (rest : Script teardownCalls (Except Error Unit)) (v : Remains) : Prop where
  asks : Guards c.TearsDown (fun later r => ∀ a, r = .ok a → c.TornDown later) events rest
  told : ∀ e ∈ events, v.Tells e
  shrinks : Shrinks c w v

theorem Underway.step {next : teardownCalls.Answer call → Script teardownCalls (Except Error Unit)}
    (h : Underway c w events (ask call next) v) (hcall : unreliable call v answer v') :
    Underway c w (⟨call, answer⟩ :: events) (next answer) v' := by
  obtain ⟨⟨htears, hnext⟩, htold, hshrinks⟩ := h
  have hstep := shrinks_of_tearsDown htears hcall
  refine ⟨hnext answer, fun e he => ?_, hshrinks.trans hstep⟩
  rcases List.mem_cons.1 he with rfl | he
  · exact tells_of_tearsDown htears hcall
  · exact (htold e he).mono hstep

theorem underway (h : Goes unreliable c.teardown.run w events rest v) :
    Underway c w events rest v := by
  induction h with
  | start => exact ⟨c.guards_teardown, List.forall_mem_nil _, .refl c w⟩
  | step _ hcall ih => exact ih.step hcall

theorem Underway.clear (h : Underway c w events rest v) (hall : c.TornDown events) : v.Clear c := by
  obtain ⟨⟨_, hbinding⟩, ⟨_, hrole⟩, _, hclient⟩ := hall
  exact ⟨h.told _ hrole, h.told _ hbinding, h.told _ hclient⟩

theorem shrinks_of_attempted (h : Attempted c w₀ w) : Shrinks c w₀ w := by
  induction h with
  | never => exact .refl c w₀
  | again _ hgoes ih => exact ih.trans (underway hgoes).shrinks

/-- Where nothing is left, no attempt makes a difference, wherever it gets to. -/
theorem eq_of_goes (hclear : w.Clear c) (h : Goes unreliable c.teardown.run w events rest v) :
    v = w := by
  induction h with
  | start => rfl
  | step hgoes hcall ih =>
    subst ih
    exact eq_of_clear hclear (underway hgoes).asks.1 hcall

theorem eq_of_attempted (hclear : w₀.Clear c) (h : Attempted c w₀ w) : w = w₀ := by
  induction h with
  | never => rfl
  | again _ hgoes ih =>
    subst ih
    exact eq_of_goes hclear hgoes

/-- An attempt in which no call fails gets through. -/
theorem run_teardown (c : Cluster) (w : Remains) : (c.teardown.run.run serve w).1 = .ok () := rfl

theorem exec_teardown {r : Except Error Unit} (h : Pass.Exec reliable c.teardown w r v) :
    r = .ok () ∧ v.Clear c := by
  obtain ⟨rfl, rfl⟩ := Prod.mk.inj (Script.Exec.eq_run h)
  obtain ⟨events, hgoes⟩ :=
    (Script.exec_of_run unreliable_serve c.teardown.run w).exists_goes
  have hunderway := underway hgoes
  exact ⟨run_teardown c w, hunderway.clear (hunderway.asks () (run_teardown c w))⟩

theorem run_teardown_of_clear (hclear : w.Clear c) : c.teardown.run.run serve w = (.ok (), w) := by
  obtain ⟨events, hgoes⟩ :=
    (Script.exec_of_run unreliable_serve c.teardown.run w).exists_goes
  exact Prod.ext (run_teardown c w) (eq_of_goes hclear hgoes)

/-- Cleaning up is attempted any number of times, from any remains, and calls fail at will.
Wherever an attempt has got to, all that was there is as it was but for what belongs to the
cluster. Its next call changes roles only if the binding is not there, and forgets a client only
after this attempt has deleted both. Where it has got through nothing is left, and no later attempt
makes a difference or fails by itself. -/
theorem teardown_attempted (hw : Attempted c w₀ w)
    (h : Goes unreliable c.teardown.run w events rest v) :
    Shrinks c w₀ v ∧
    (∀ {call : TeardownCall}
      {next : teardownCalls.Answer call → Script teardownCalls (Except Error Unit)}
      {answer : teardownCalls.Answer call} {v' : Remains},
      rest = ask call next → unreliable call v answer v' →
        (v'.roles.objects ≠ v.roles.objects → v.bindings.objects.get? c.scopedName = none) ∧
        (∀ key, call = .release key → c.BindingDeleted events ∧ c.RoleDeleted events)) ∧
    (rest = done (.ok ()) → v.Clear c ∧ c.teardown.run.run serve v = (.ok (), v) ∧
      ∀ u, Attempted c v u → u = v) := by
  have hunderway := underway h
  refine ⟨(shrinks_of_attempted hw).trans hunderway.shrinks, ?_, ?_⟩
  · rintro call next answer v' rfl hcall
    have htears := hunderway.asks.1
    cases call with
    | roles call =>
      obtain ⟨-, _, hdeleted⟩ := htears
      exact ⟨fun _ => hunderway.told _ hdeleted, nofun⟩
    | bindings call =>
      obtain ⟨s, -, rfl⟩ := hcall
      exact ⟨fun hchanged => absurd rfl hchanged, nofun⟩
    | release key =>
      obtain ⟨-, rfl⟩ := hcall
      exact ⟨fun hchanged => absurd rfl hchanged, fun _ _ => htears.2⟩
  · rintro rfl
    have hclear := hunderway.clear (hunderway.asks () rfl)
    exact ⟨hclear, run_teardown_of_clear hclear, fun u hu => eq_of_attempted hclear hu⟩

/-! ### An attempt that is cut off and one that is not -/

def torn : Cluster where
  metadata := { name := some "hz", space := some "default" }
  spec := {}

/-- All that there is to clean up after it. -/
def tornStored : Remains where
  roles := { objects := [(torn.scopedName, torn.clusterRole .kubernetes)], version := 1 }
  bindings := { objects := [(torn.scopedName, torn.clusterRoleBinding)], version := 1 }
  registry := (({} : Registry).clientFor torn).2

/-- Answers calls but for the deletion of roles, which fails. -/
def interrupted : Script.Handler teardownCalls Remains
  | .roles (.delete _), w => (.error (.api none), w)
  | call, w => serve call w

theorem unreliable_interrupted (call : TeardownCall) (w : Remains) :
    unreliable call w (interrupted call w).1 (interrupted call w).2 := by
  cases call with
  | roles call =>
    cases call with
    | delete => exact ⟨w.roles, .inr ⟨_, rfl, .inl rfl⟩, rfl⟩
    | _ => exact unreliable_serve _ w
  | _ => exact unreliable_serve _ w

/-- The first attempt leaves the role and the client, the second one nothing. -/
theorem teardown_attempted_torn : ∃ w events v, Attempted torn tornStored w ∧
    (w.bindings.objects.get? torn.scopedName = none ∧
      w.roles.objects.get? torn.scopedName = some (torn.clusterRole .kubernetes) ∧
      (w.registry.clients.get? (Resource.key torn)).isSome) ∧
    Goes unreliable torn.teardown.run w events (done (.ok ())) v ∧
    Shrinks torn tornStored v ∧ v.Clear torn ∧
    torn.teardown.run.run serve v = (.ok (), v) := by
  let w := (torn.teardown.run.run interrupted tornStored).2
  obtain ⟨_, hfirst⟩ :=
    (Script.exec_of_run unreliable_interrupted torn.teardown.run tornStored).exists_goes
  have hw : Attempted torn tornStored w := .again .never hfirst
  obtain ⟨events, hsecond⟩ :=
    (Script.exec_of_run unreliable_serve torn.teardown.run w).exists_goes
  rw [run_teardown] at hsecond
  obtain ⟨hshrinks, -, hend⟩ := teardown_attempted hw hsecond
  obtain ⟨hclear, hrun, -⟩ := hend rfl
  exact ⟨w, events, _, hw, by decide +kernel, hsecond, hshrinks, hclear, hrun⟩

end Remains

end GridOperator
