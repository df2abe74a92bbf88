import GridOperator.Proofs.Reconcile.PassWorld
import GridOperator.Proofs.Results

/-!
# What a pass over a cluster sees

Much of a pass only looks. What it sees is determined by the world and by the
outlook, unless a call fails: `Shows` is closed under putting passes one after the
other, and `shows_observe` says which status the world shows.
-/

namespace GridOperator

open Kubernetes Pass
open ClusterPass (within Reachable)

namespace PassWorld

variable {o : Outlook} {c : Cluster} {w : PassWorld} {α β : Type}

/-- Whether a pass writes nothing, leaves the world as it is and comes to this result, if no call
fails. -/
def Shows (o : Outlook) (w : PassWorld) (p : ClusterPass α) (a : α) : Prop :=
  ∀ ⦃r : Except Error α⦄ ⦃w' : PassWorld⦄, Exec (environment .unreliable o) p w r w' →
    Exec (environment .still o) p w r w' ∧ w' = w ∧ ∀ b, r = .ok b → b = a

theorem shows_pure (a : α) : Shows o w (pure a) a := by
  intro r w' h
  obtain ⟨rfl, rfl⟩ := exec_pure.1 h
  exact ⟨exec_pure.2 ⟨rfl, rfl⟩, rfl, fun b hb => (Except.ok.inj hb).symm⟩

theorem shows_bind {p : ClusterPass α} {f : α → ClusterPass β} {a : α} {b : β}
    (hp : Shows o w p a) (hf : Shows o w (f a) b) : Shows o w (p >>= f) b := by
  intro r w' h
  rcases exec_bind_cases h with ⟨e, rfl, hfirst⟩ | ⟨a', v, hfirst, hrest⟩
  · obtain ⟨hstill, rfl, -⟩ := hp hfirst
    exact ⟨exec_bind.2 ⟨_, _, hstill, rfl, rfl⟩, rfl, nofun⟩
  · obtain ⟨hstill, rfl, hresult⟩ := hp hfirst
    obtain rfl := hresult a' rfl
    obtain ⟨hrest, hend⟩ := hf hrest
    exact ⟨exec_bind.2 ⟨_, _, hstill, hrest⟩, hend⟩

theorem shows_allM {p : α → ClusterPass Bool} {f : α → Id Bool}
    (hp : ∀ a, Shows o w (p a) (f a).run) (l : List α) : Shows o w (l.allM p) (l.allM f).run := by
  induction l with
  | nil => exact shows_pure true
  | cons a l ih =>
    refine shows_bind (hp a) ?_
    rw [List.run_allM_cons]
    cases (f a).run with
    | true => exact ih
    | false => exact shows_pure false

/-! ## Calls -/

/-- A question about what is not in the stores is asked in every manner. -/
theorem shows_call {call : ClusterCall} {a : call.Answer}
    (h : ∀ m answer w', environment m o call w answer w' ↔ answer = a ∧ w' = w) :
    Shows o w (ExceptT.lift (Script.call (I := clusterCalls) call)) a := by
  intro r w' hexec
  obtain ⟨answer, rfl, hcall⟩ := exec_lift.1 hexec
  obtain ⟨rfl, rfl⟩ := (h _ answer w').1 (Script.exec_call.1 hcall)
  exact ⟨exec_lift.2 ⟨answer, rfl, Script.exec_call.2 ((h _ _ _).2 ⟨rfl, rfl⟩)⟩, rfl,
    fun b hb => (Except.ok.inj hb).symm⟩

theorem shows_resolves (host : String) :
    Shows o w (ClusterPass.resolves host) (o.resolves host) := shows_call fun _ _ _ => Iff.rfl

theorem shows_memberState (member : Endpoint) :
    Shows o w (ClusterPass.memberState member) (o.memberState member) :=
  shows_call fun _ _ _ => Iff.rfl

theorem shows_look {p : ClusterPass α} {a : α}
    (h : ∀ m r w', Exec (environment m o) p w r w' ↔ m.look a r ∧ w' = w) : Shows o w p a := by
  intro r w' hexec
  obtain ⟨hlook, rfl⟩ := (h _ r w').1 hexec
  refine ⟨(h _ r w').2 ⟨hlook, rfl⟩, rfl, ?_⟩
  rcases hlook with rfl | ⟨e, rfl⟩
  · exact fun b hb => (Except.ok.inj hb).symm
  · nofun

theorem shows_listPods (labels : TextMap) :
    Shows o w (ClusterPass.listPods labels) (o.pods labels) :=
  shows_look fun _ _ _ => Script.exec_call

theorem shows_listMaps : Shows o w ClusterPass.listMaps o.maps :=
  shows_look fun _ _ _ => Script.exec_call

theorem shows_get {K : Type} [Resource K] [Reachable K] [Stocked K] (name : String) :
    Shows o w (within (Store.get (K := K) name)) ((Stocked.stock w).objects.get? name) := by
  intro r w' h
  obtain ⟨s, hget, rfl⟩ := exec_within.1 h
  obtain ⟨rfl, hfound⟩ := Store.exec_get hget
  refine ⟨exec_within.2 ⟨_, Script.exec_call.2 ⟨Script.exec_call.1 hget, nofun, rfl⟩, rfl⟩,
    Stocked.restock_stock w, hfound⟩

/-! ## Services and members -/

/-- The services of the members as they are now. -/
def perPod (c : Cluster) (w : PassWorld) : List (Option Service) :=
  c.perPodServices.map fun desired => w.services.objects.get? (Resource.anyName desired)

/-- What a look at the services says about whether the members can be reached. -/
def reachable (o : Outlook) (c : Cluster) (services : List (Option Service)) : Bool :=
  (c.perPodReady (fun host => pure (o.resolves host)) services : Id Bool).run

theorem shows_isReachable (s : Service) : Shows o w (s.isReachable ClusterPass.resolves)
    (s.isReachable fun host => pure (o.resolves host) : Id Bool).run := by
  unfold Service.isReachable
  split
  · split
    · exact shows_pure false
    · exact shows_allM shows_resolves _
  · exact shows_pure true

theorem shows_perPodReady (services : List (Option Service)) :
    Shows o w (c.perPodReady ClusterPass.resolves services) (reachable o c services) := by
  unfold reachable Cluster.perPodReady
  split
  · refine shows_allM (fun s => ?_) services
    cases s with
    | none => exact shows_pure false
    | some s => exact shows_isReachable s
  · exact shows_pure true

theorem shows_readServices (desired : List Service) : Shows o w (Cluster.readServices desired)
    (desired.map fun d => w.services.objects.get? (Resource.anyName d)) := by
  induction desired with
  | nil => exact shows_pure []
  | cons d rest ih => exact shows_bind (shows_get _) (shows_bind ih (shows_pure _))

/-- A member with the mode that it tells, if it can be asked. -/
def told (o : Outlook) (c : Cluster) (m : MemberStatus) : MemberStatus :=
  match (m.ip.filter fun _ => m.ready).map fun ip => o.memberState (.ofMember c ip) with
  | some (.ok state) => { m with state := some state.name }
  | _ => m

theorem shows_askMember (m : MemberStatus) : Shows o w (c.askMember m) (told o c m) := by
  unfold Cluster.askMember told
  cases m.ip.filter fun _ => m.ready with
  | none => exact shows_pure m
  | some ip =>
    refine shows_bind (shows_memberState _) ?_
    rw [Option.map_some]
    cases o.memberState (.ofMember c ip) with
    | ok state => exact shows_pure _
    | error e => exact shows_pure m

theorem shows_askMembers (ms : List MemberStatus) :
    Shows o w (c.askMembers ms) (ms.map (told o c)) := by
  induction ms with
  | nil => exact shows_pure []
  | cons m rest ih => exact shows_bind (shows_askMember m) (shows_bind ih (shows_pure _))

/-- The status that the world shows to one who has looked at the services of the members. -/
def shownStatus (o : Outlook) (c : Cluster) (w : PassWorld) (services : List (Option Service)) :
    ClusterStatus :=
  let pods := o.pods c.labels
  let discovery := w.services.objects.get? (Resource.anyName c)
  c.observedStatus ((MemberStatus.ofPods pods).map (told o c)) pods
    (c.externalAddresses discovery (services.filterMap id) pods) none

theorem shows_observe (services : List (Option Service)) :
    Shows o w (c.observe services) (shownStatus o c w services) :=
  shows_bind (shows_listPods _) <| shows_bind (shows_askMembers _) <|
    shows_bind (shows_get _) (shows_pure _)

end PassWorld

end GridOperator
