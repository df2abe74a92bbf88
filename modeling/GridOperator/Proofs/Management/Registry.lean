import GridOperator.Desired.Service
import GridOperator.Proofs.Backup.Credentials
import GridOperator.Proofs.Desired.Services
import GridOperator.Proofs.Network.Authority

/-!
# Which client a cluster gets

A registry holds for each key the client that it has given last, unless that was
released since. A cluster gets this one as long as it has the name that the client was
made for, and a new one otherwise. So whatever a registry has done, what it gives talks
to the cluster's own service and proves itself by the cluster's present name
(`Registry.Faithful`).
-/

namespace GridOperator

open Kubernetes Text

/-! ## What clients talk to -/

/-- The host by which services of a key are reached inside the platform. -/
def Kubernetes.ObjectKey.serviceHost (key : ObjectKey) : String :=
  key.name ++ "." ++ key.space ++ ".svc.cluster.local"

/-- Whether the requests of a client go to a port of the service. -/
def Client.Reaches (client : Client) (s : Service) : Prop :=
  ∃ port ∈ s.ports, ∀ call, Authority.ofUrl? (client.endpoint.request call).url.toList =
    some { host := (Resource.key s).serviceHost, port := some port.port.toNat }

namespace Endpoint

variable {c maker : Cluster}

/-- Clusters of one key are told things in the same place. -/
theorem ofCluster_congr (hkey : Resource.key maker = Resource.key c)
    (hname : maker.spec.clusterName = c.spec.clusterName) : ofCluster maker = ofCluster c := by
  obtain ⟨hspace, hany⟩ := ObjectKey.mk.inj hkey
  replace hspace : maker.metadata.space.getD "" = c.metadata.space.getD "" := hspace
  unfold ofCluster
  rw [hspace, hany, hname]

end Endpoint

/-- What is told to a cluster goes to the service in front of its members. -/
theorem Client.reaches_of_endpoint {client : Client} {c : Cluster}
    (h : client.endpoint = Endpoint.ofCluster c) (hname : c.metadata.name.isSome)
    (hhost : Host.isName (Resource.key c).serviceHost.toList) :
    client.Reaches c.discoveryService := by
  have hkey : Resource.key c.discoveryService = Resource.key c := by
    obtain ⟨name, hname⟩ := Option.isSome_iff_exists.1 hname
    have hservice : Resource.anyName c.discoveryService = name := by
      rw [show Resource.anyName c.discoveryService = c.name from c.anyName_ownedMetadata,
        Cluster.name, hname, Option.getD_some]
    have hcluster : Resource.anyName c = name :=
      congrArg (fun name => (name <|> c.metadata.generateName).getD "") hname
    exact congrArg (ObjectKey.mk _) (hservice.trans hcluster.symm)
  refine ⟨Cluster.memberPort, List.mem_cons_self, fun call => ?_⟩
  have hreported : Host.IsReported (Resource.key c).serviceHost.toList := .inr (.inr hhost)
  have hsix : ¬ Host.isVersion6 (Resource.key c).serviceHost.toList := by
    intro hsix
    rcases Host.isAlphanum_of_isName hhost (Host.colon_mem_of_isVersion6 hsix) with h | h | h <;>
      exact absurd h (by decide)
  have hport := Numeral.toString Names.memberPortNumber.toNat
  have hread := (hreported.ofText?_iff hport).2 hsix
  rw [String.ofList_toList] at hread
  obtain ⟨path, hurl, -⟩ := Endpoint.exists_toList_url c (Resource.key c).serviceHost call
  rw [hkey, h, show Endpoint.ofCluster c = .ofMember c (Resource.key c).serviceHost from rfl, hurl,
    Authority.ofUrl?_eq (Url.isSign_append (fun c hc => hreported.isSign hc) hport.digits), hread]
  rfl

/-! ## What a registry has done -/

/-- What a registry is asked. -/
inductive RegistryCall
  | clientFor (c : Cluster)
  | release (key : ObjectKey)

/-- What a registry was asked and what it answered. -/
inductive RegistryEvent
  | given (c : Cluster) (client : Client)
  | released (key : ObjectKey) (held : Bool)

namespace RegistryEvent

variable {c : Cluster} {client : Client} {key : ObjectKey} {e : RegistryEvent}
  {events : List RegistryEvent}

/-- The client that was given last for a key, unless it has been released since. Events stand with
the latest first. -/
def held? (key : ObjectKey) : List RegistryEvent → Option Client
  | [] => none
  | given c client :: events => if Resource.key c = key then some client else held? key events
  | released k _ :: events => if k = key then none else held? key events

/-- The cluster that a client was given to first, which it was made for. -/
def maker? (client : Client) : List RegistryEvent → Option Cluster
  | [] => none
  | given c made :: events =>
    (maker? client events).or (if made = client then some c else none)
  | released _ _ :: events => maker? client events

theorem exists_given_of_held? (h : held? key events = some client) :
    ∃ c, given c client ∈ events ∧ Resource.key c = key := by
  induction events with
  | nil => cases h
  | cons e events ih =>
    cases e with
    | given c made =>
      unfold held? at h
      split at h
      · rename_i hkey
        obtain rfl := Option.some.inj h
        exact ⟨c, List.mem_cons_self, hkey⟩
      · obtain ⟨c', hmem, hkey⟩ := ih h
        exact ⟨c', List.mem_cons_of_mem _ hmem, hkey⟩
    | released k held =>
      unfold held? at h
      split at h
      · cases h
      · obtain ⟨c', hmem, hkey⟩ := ih h
        exact ⟨c', List.mem_cons_of_mem _ hmem, hkey⟩

/-- Who a client was made for does not change. -/
theorem maker?_cons (h : maker? client events = some c) (e : RegistryEvent) :
    maker? client (e :: events) = some c := by
  cases e with
  | given => rw [maker?, h, Option.some_or]
  | released => exact h

theorem maker?_eq_none (h : ∀ c, given c client ∉ events) : maker? client events = none := by
  induction events with
  | nil => rfl
  | cons e events ih =>
    have hrest := ih fun c hmem => h c (List.mem_cons_of_mem _ hmem)
    cases e with
    | given c made =>
      have hne : made ≠ client := fun heq => h c (heq ▸ List.mem_cons_self)
      rw [maker?, hrest, if_neg hne, Option.none_or]
    | released => exact hrest

end RegistryEvent

namespace Registry

open RegistryEvent (given released held? maker?)

def serve (call : RegistryCall) (r : Registry) : RegistryEvent × Registry :=
  match call with
  | .clientFor c => (given c (r.clientFor c).1, (r.clientFor c).2)
  | .release key => (released key (r.release key).1, (r.release key).2)

/-- What a registry that was empty has done, and what it holds then. The latest calls and events
stand first. -/
def after : List RegistryCall → List RegistryEvent × Registry
  | [] => ([], {})
  | call :: calls =>
    let (event, r) := (after calls).2.serve call
    (event :: (after calls).1, r)

variable {r : Registry} {c : Cluster} {client : Client} {key : ObjectKey}
  {events : List RegistryEvent}

/-! ## What one call does -/

theorem clientFor_of_held (hheld : r.clients.get? (Resource.key c) = some client)
    (hname : client.endpoint.clusterName = c.spec.clusterName) : r.clientFor c = (client, r) := by
  unfold clientFor
  simp only [hheld, if_pos hname]

/-- Where no client is held for the present name a new one takes the place. -/
theorem clientFor_of_not_held (h : ∀ client, r.clients.get? (Resource.key c) = some client →
      client.endpoint.clusterName ≠ c.spec.clusterName) :
    r.clientFor c = (⟨r.next, .ofCluster c⟩, {
      clients := r.clients.set (Resource.key c) ⟨r.next, .ofCluster c⟩
      next := r.next + 1 }) := by
  unfold clientFor
  dsimp only
  split
  · rename_i held hheld
    rw [if_neg (h held hheld)]
  · rfl

theorem clientFor_cases (c : Cluster) (r : Registry) :
    (∃ client, r.clients.get? (Resource.key c) = some client ∧
      client.endpoint.clusterName = c.spec.clusterName) ∨
    ∀ client, r.clients.get? (Resource.key c) = some client →
      client.endpoint.clusterName ≠ c.spec.clusterName := by
  by_cases h : ∃ client, r.clients.get? (Resource.key c) = some client ∧
      client.endpoint.clusterName = c.spec.clusterName
  · exact .inl h
  · exact .inr fun client hheld hname => h ⟨client, hheld, hname⟩

theorem get?_clientFor (c : Cluster) (key : ObjectKey) :
    (r.clientFor c).2.clients.get? key =
      if key = Resource.key c then some (r.clientFor c).1 else r.clients.get? key := by
  rcases clientFor_cases c r with ⟨client, hheld, hname⟩ | hnot
  · rw [clientFor_of_held hheld hname]
    split
    · subst key
      exact hheld
    · rfl
  · rw [clientFor_of_not_held hnot]
    split
    · subst key
      exact Table.get?_set_self _ _ _
    · rename_i hne
      exact Table.get?_set_of_ne hne _ _

theorem get?_release (key k : ObjectKey) : (r.release key).2.clients.get? k =
    if k = key then none else r.clients.get? k := by
  split
  · subst key
    exact Table.get?_erase_self _ _
  · rename_i hne
    exact Table.get?_erase_of_ne hne _

/-! ## What a registry holds -/

/-- What a registry is like that has done this. -/
structure Recalls (events : List RegistryEvent) (r : Registry) : Prop where
  ordered : Table.Ordered r.clients
  held : ∀ key, r.clients.get? key = held? key events
  numbered : ∀ c client, given c client ∈ events → client.serial < r.next
  endpoint : ∀ c client, given c client ∈ events → client.endpoint = .ofCluster c
  maker : ∀ c client, given c client ∈ events →
    ∃ maker, maker? client events = some maker ∧ client.endpoint = .ofCluster maker

theorem recalls_nil : Recalls [] {} where
  ordered := Table.ordered_nil
  held _ := rfl
  numbered _ _ h := absurd h List.not_mem_nil
  endpoint _ _ h := absurd h List.not_mem_nil
  maker _ _ h := absurd h List.not_mem_nil

section

variable (h : Recalls events r)
include h

/-- A cluster gets a client that was given before, or the next new one. -/
theorem Recalls.given_or_new (c : Cluster) :
    (∃ c', given c' (r.clientFor c).1 ∈ events ∧ Resource.key c' = Resource.key c ∧
      (r.clientFor c).2.next = r.next) ∨
    (r.clientFor c).1 = ⟨r.next, .ofCluster c⟩ ∧ (r.clientFor c).2.next = r.next + 1 := by
  rcases clientFor_cases c r with ⟨client, hheld, hname⟩ | hnot
  · rw [clientFor_of_held hheld hname]
    obtain ⟨c', hmem, hkey⟩ := RegistryEvent.exists_given_of_held? ((h.held _).symm.trans hheld)
    exact .inl ⟨c', hmem, hkey, rfl⟩
  · rw [clientFor_of_not_held hnot]
    exact .inr ⟨rfl, rfl⟩

theorem Recalls.endpoint_clientFor (c : Cluster) :
    (r.clientFor c).1.endpoint = .ofCluster c := by
  rcases h.given_or_new c with ⟨c', hmem, hkey, -⟩ | ⟨hnew, -⟩
  · have hendpoint := h.endpoint c' _ hmem
    have hname : c'.spec.clusterName = c.spec.clusterName :=
      (congrArg Endpoint.clusterName hendpoint).symm.trans (clusterName_clientFor c r)
    rw [hendpoint, Endpoint.ofCluster_congr hkey hname]
  · rw [hnew]

theorem Recalls.not_given {client : Client} (hclient : r.next ≤ client.serial) (c : Cluster) :
    given c client ∉ events :=
  fun hmem => absurd (h.numbered c client hmem) (Nat.not_lt.2 hclient)

theorem Recalls.given (c : Cluster) :
    Recalls (given c (r.clientFor c).1 :: events) (r.clientFor c).2 where
  ordered := by
    rcases clientFor_cases c r with ⟨client, hheld, hname⟩ | hnot
    · rw [clientFor_of_held hheld hname]
      exact h.ordered
    · rw [clientFor_of_not_held hnot]
      exact h.ordered.set _ _
  held key := by
    rw [get?_clientFor, held?, h.held]
    exact ite_congr (propext eq_comm) (fun _ => rfl) (fun _ => rfl)
  numbered c' client hmem := by
    have hserial : (r.clientFor c).1.serial < (r.clientFor c).2.next ∧
        r.next ≤ (r.clientFor c).2.next := by
      rcases h.given_or_new c with ⟨_, hgiven, -, hnext⟩ | ⟨hnew, hnext⟩
      · exact ⟨hnext ▸ h.numbered _ _ hgiven, hnext.ge⟩
      · rw [hnew, hnext]
        exact ⟨Nat.lt_succ_self _, Nat.le_succ _⟩
    rcases List.mem_cons.1 hmem with heq | hmem
    · cases heq
      exact hserial.1
    · exact (h.numbered _ _ hmem).trans_le hserial.2
  endpoint c' client hmem := by
    rcases List.mem_cons.1 hmem with heq | hmem
    · cases heq
      exact h.endpoint_clientFor c
    · exact h.endpoint c' client hmem
  maker c' client hmem := by
    have hbefore (c') (hmem : RegistryEvent.given c' client ∈ events) : ∃ maker,
        maker? client (.given c (r.clientFor c).1 :: events) = some maker ∧
          client.endpoint = .ofCluster maker := by
      obtain ⟨maker, hmaker, hendpoint⟩ := h.maker c' client hmem
      exact ⟨maker, RegistryEvent.maker?_cons hmaker _, hendpoint⟩
    rcases List.mem_cons.1 hmem with heq | hmem
    · cases heq
      rcases h.given_or_new c with ⟨c', hgiven, -⟩ | ⟨hnew, -⟩
      · exact hbefore c' hgiven
      · have hnone : maker? (r.clientFor c).1 events = none :=
          RegistryEvent.maker?_eq_none (h.not_given (by rw [hnew]))
        refine ⟨c, ?_, h.endpoint_clientFor c⟩
        rw [maker?, hnone, if_pos rfl, Option.none_or]
    · exact hbefore c' hmem

theorem Recalls.released (key : ObjectKey) :
    Recalls (released key (r.release key).1 :: events) (r.release key).2 where
  ordered := h.ordered.erase key
  held k := by
    rw [get?_release, held?, h.held]
    exact ite_congr (propext eq_comm) (fun _ => rfl) (fun _ => rfl)
  numbered c client hmem :=
    h.numbered c client ((List.mem_cons.1 hmem).resolve_left nofun)
  endpoint c client hmem :=
    h.endpoint c client ((List.mem_cons.1 hmem).resolve_left nofun)
  maker c client hmem :=
    h.maker c client ((List.mem_cons.1 hmem).resolve_left nofun)

end

theorem after_recalls (calls : List RegistryCall) : Recalls (after calls).1 (after calls).2 := by
  induction calls with
  | nil => exact recalls_nil
  | cons call calls ih =>
    cases call with
    | clientFor c => exact ih.given c
    | release key => exact ih.released key

/-- What a registry that has done this holds, and what it does when it is asked next. -/
structure Faithful (events : List RegistryEvent) (r : Registry) : Prop where
  nodup : (r.clients.map (·.1)).Nodup
  held : ∀ key, r.clients.get? key = held? key events
  /-- A cluster gets the client that is held exactly if it goes by the name of the cluster that this
  one was made for. -/
  held_iff : ∀ c, held? (Resource.key c) events = some (r.clientFor c).1 ↔
    ∃ client maker, held? (Resource.key c) events = some client ∧
      maker? client events = some maker ∧ maker.spec.clusterName = c.spec.clusterName
  /-- Any other client is none that has ever been given. -/
  new : ∀ c, held? (Resource.key c) events ≠ some (r.clientFor c).1 →
    ∀ c' client, given c' client ∈ events → client.serial ≠ (r.clientFor c).1.serial
  replaces : ∀ c key, (r.clientFor c).2.clients.get? key =
    if key = Resource.key c then some (r.clientFor c).1 else r.clients.get? key
  base : ∀ c, (r.clientFor c).1.endpoint.base = Endpoint.withPort (Resource.key c).serviceHost
  reaches : ∀ c, c.metadata.name.isSome → Host.isName (Resource.key c).serviceHost.toList →
    (r.clientFor c).1.Reaches c.discoveryService
  proves : ∀ c, (r.clientFor c).1.Proves c.spec.clusterName
  released : ∀ key, (r.release key).1 = (held? key events).isSome
  forgets : ∀ key k, (r.release key).2.clients.get? k =
    if k = key then none else r.clients.get? k

/-- A registry keeps to this whatever it is asked. -/
theorem after_faithful (calls : List RegistryCall) :
    Faithful (after calls).1 (after calls).2 := by
  have h := after_recalls calls
  generalize (after calls).1 = events at h ⊢
  generalize (after calls).2 = r at h ⊢
  have hbase (c : Cluster) := h.endpoint_clientFor c
  refine {
    nodup := h.ordered.nodup
    held := h.held
    held_iff c := ⟨fun hheld => ?_, ?_⟩
    new c hnot c' client hmem heq := ?_
    replaces := get?_clientFor
    base c := congrArg Endpoint.base (hbase c)
    reaches c := Client.reaches_of_endpoint (hbase c)
    proves c := Client.proves_iff.2 (clusterName_clientFor c r)
    released key := congrArg Option.isSome (h.held key)
    forgets := get?_release }
  · obtain ⟨c', hmem, -⟩ := RegistryEvent.exists_given_of_held? hheld
    obtain ⟨maker, hmaker, hendpoint⟩ := h.maker c' _ hmem
    have hname := congrArg Endpoint.clusterName hendpoint
    exact ⟨_, maker, hheld, hmaker, hname.symm.trans (clusterName_clientFor c r)⟩
  · rintro ⟨client, maker, hheld, hmaker, hname⟩
    obtain ⟨c', hmem, -⟩ := RegistryEvent.exists_given_of_held? hheld
    obtain ⟨maker', hmaker', hendpoint⟩ := h.maker c' _ hmem
    obtain rfl := Option.some.inj (hmaker.symm.trans hmaker')
    have hclient : client.endpoint.clusterName = c.spec.clusterName :=
      (congrArg Endpoint.clusterName hendpoint).trans hname
    rw [clientFor_of_held ((h.held _).trans hheld) hclient, hheld]
  · rcases clientFor_cases c r with ⟨held, hheld, hname⟩ | hother
    · rw [clientFor_of_held hheld hname] at hnot
      exact hnot ((h.held _).symm.trans hheld)
    · rw [clientFor_of_not_held hother] at heq
      exact h.not_given heq.ge c' hmem

/-- A cluster is given a client, and another one for another name. -/
def renamedOnce : List RegistryCall :=
  [.clientFor ClientWorld.renamedCluster, .clientFor BackupWorld.runningCluster]

/-- When it has its name back it gets a third one. -/
theorem after_faithful_renamedOnce : Faithful (after renamedOnce).1 (after renamedOnce).2 ∧
    given BackupWorld.runningCluster (clientFor BackupWorld.runningCluster {}).1 ∈
      (after renamedOnce).1 ∧
    (clientFor BackupWorld.runningCluster {}).1.serial ≠
      (clientFor BackupWorld.runningCluster (after renamedOnce).2).1.serial ∧
    (clientFor BackupWorld.runningCluster (after renamedOnce).2).1.Reaches
      BackupWorld.runningCluster.discoveryService := by
  have h := after_faithful renamedOnce
  have hgiven : given BackupWorld.runningCluster (clientFor BackupWorld.runningCluster {}).1 ∈
      (after renamedOnce).1 := List.mem_cons_of_mem _ List.mem_cons_self
  have hhost : Host.isName (Resource.key BackupWorld.runningCluster).serviceHost.toList := by
    decide +kernel
  have hnot : held? (Resource.key BackupWorld.runningCluster) (after renamedOnce).1 ≠
      some (clientFor BackupWorld.runningCluster (after renamedOnce).2).1 := by decide +kernel
  exact ⟨h, hgiven, h.new _ hnot _ _ hgiven, h.reaches _ rfl hhost⟩

end Registry

end GridOperator
