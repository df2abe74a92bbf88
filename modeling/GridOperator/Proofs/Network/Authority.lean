import GridOperator.Management.Endpoint
import GridOperator.Proofs.Network.Hosts
import GridOperator.Proofs.Observed.Addresses

/-!
# Hosts and ports read back

An address is read as its authority says: maybe who asks, then a host, then maybe a port.
A host has no colons of its own, except between brackets, where numbers of version six
belong. Addresses are put together without any brackets, so that numbers of version four
and names are read back and those numbers are not (`Authority.reads_back_iff`).
-/

namespace GridOperator

open Kubernetes Text

/-! ## What the platform reports -/

namespace Host

/-- A label of a name: letters, digits, and dashes inside. -/
def isLabel (cs : List Char) : Bool :=
  !cs.isEmpty && cs.all (fun c => c.isAlphanum || c == '-')
    && cs.head? != some '-' && cs.getLast? != some '-'

/-- Labels with points between them. -/
def isName (cs : List Char) : Bool := (splitAll '.' cs).all isLabel

/-- A number of either version or a name. -/
def IsReported (cs : List Char) : Prop := isDotted cs ∨ isVersion6 cs ∨ isName cs

end Host

/-! ## Authorities -/

/-- Who asks, and where. -/
structure Authority where
  user : Option String := none
  host : String
  port : Option Nat
  deriving DecidableEq

namespace Authority

/-- The characters that stand for themselves wherever they are. -/
def isUnreserved (c : Char) : Bool := c.isAlphanum || "-._~".toList.contains c

/-- The characters of hosts and users, some of which may have a meaning of their own. -/
def isNameSign (c : Char) : Bool := isUnreserved c || "!$&\x27()*+,;=".toList.contains c

def isUserSign (c : Char) : Bool := isNameSign c || c == ':'

/-- Whether a text has only the characters that are allowed, and escapes. -/
def isWritten (allowed : Char → Bool) : List Char → Bool
  | [] => true
  | '%' :: a :: b :: cs => (digit? 16 a).isSome && (digit? 16 b).isSome && isWritten allowed cs
  | c :: cs => allowed c && isWritten allowed cs

/-- Whether a text is a number of a version to come. -/
def isFuture : List Char → Bool
  | 'v' :: cs | 'V' :: cs => (splitOnce '.' cs).any fun p =>
      !p.1.isEmpty && p.1.all (fun c => (digit? 16 c).isSome) && !p.2.isEmpty && p.2.all isUserSign
  | _ => false

/-- Who asks, up to the first at-sign, and what follows. -/
def user? (cs : List Char) : Option (Option String × List Char) :=
  match splitOnce '@' cs with
  | some (user, rest) =>
    if isWritten isUserSign user then some (some (String.ofList user), rest) else none
  | none => some (none, cs)

/-- The host, which is a name or stands between brackets, and what follows. -/
def host? : List Char → Option (List Char × List Char)
  | '[' :: cs => (splitOnce ']' cs).filter fun p => Host.isVersion6 p.1 || isFuture p.1
  | cs =>
    let name := cs.takeWhile (· ≠ ':')
    if isWritten isNameSign name then some (name, cs.dropWhile (· ≠ ':')) else none

/-- The port after a colon; there may be none. -/
def port? : List Char → Option (Option Nat)
  | [] | [':'] => some none
  | ':' :: ds => if ds.all Char.isDigit then some (some (decimal ds)) else none
  | _ => none

def ofText? (cs : List Char) : Option Authority := do
  let (user, rest) ← user? cs
  let (host, rest) ← host? rest
  let port ← port? rest
  return { user, host := String.ofList host, port }

/-- What an address has between its scheme and its path. -/
def ofUrl? (url : List Char) : Option Authority :=
  match splitOnce ':' url with
  | some (_, '/' :: '/' :: rest) => ofText? (rest.takeWhile fun c => c ≠ '/' ∧ c ≠ '?' ∧ c ≠ '#')
  | _ => none

variable {host ds path : List Char} {n : Nat}

theorem isWritten_of_unreserved (h : ∀ c ∈ host, isUnreserved c) : isWritten isNameSign host := by
  induction host with
  | nil => rfl
  | cons c cs ih =>
    obtain ⟨hc, hcs⟩ := List.forall_mem_cons.1 h
    rw [isWritten.eq_def]
    split
    · rfl
    · rename_i heq
      obtain ⟨rfl, -⟩ := List.cons.inj heq
      exact absurd hc (by decide)
    · rename_i heq
      obtain ⟨rfl, rfl⟩ := List.cons.inj heq
      rw [ih hcs, isNameSign, hc]
      rfl

theorem user?_eq (h : '@' ∉ host) : user? host = some (none, host) := by
  rw [user?, splitOnce_of_notMem h]

theorem host?_eq (h : '[' ∉ host) : host? host =
    if isWritten isNameSign (host.takeWhile (· ≠ ':')) then
      some (host.takeWhile (· ≠ ':'), host.dropWhile (· ≠ ':')) else none := by
  rw [host?.eq_def]
  split
  · exact absurd List.mem_cons_self h
  · rfl

theorem port?_eq (h : Numeral ds n) : port? (':' :: ds) = some (some n) := by
  obtain ⟨c, rest, rfl, -⟩ := h.exists_cons
  have hdigits : (c :: rest).all Char.isDigit := List.all_eq_true.2 h.digits
  rw [port?, hdigits, h.value]
  · rfl
  · nofun

theorem port?_of_notDigit {c : Char} (hmem : c ∈ ds) (hc : c.isDigit = false) :
    port? (':' :: ds) = none := by
  obtain ⟨d, rest, rfl⟩ := List.exists_cons_of_ne_nil (List.ne_nil_of_mem hmem)
  have hdigits : (d :: rest).all Char.isDigit = false :=
    List.all_eq_false.2 ⟨c, hmem, Bool.eq_false_iff.1 hc⟩
  rw [port?, hdigits]
  · rfl
  · nofun

theorem notMem_append {sep : Char} (h : sep ∉ host) (hne : sep ≠ ':') (hsep : sep.isDigit = false)
    (hds : ∀ c ∈ ds, c.isDigit) : sep ∉ host ++ ':' :: ds := by
  intro hmem
  rcases List.mem_append.1 hmem with hmem | hmem
  · exact h hmem
  · rcases List.mem_cons.1 hmem with heq | hmem
    · exact hne heq
    · exact Bool.false_ne_true (hsep.symm.trans (hds sep hmem))

/-- Where nobody asks and there are no brackets, the first colon ends the host. -/
theorem ofText?_eq (hat : '@' ∉ host) (hbracket : '[' ∉ host) (hds : ∀ c ∈ ds, c.isDigit) :
    ofText? (host ++ ':' :: ds) =
      let name := (host ++ ':' :: ds).takeWhile (· ≠ ':')
      if isWritten isNameSign name then
        (port? ((host ++ ':' :: ds).dropWhile (· ≠ ':'))).map fun port =>
          { host := String.ofList name, port }
      else none := by
  have hat := notMem_append hat (by decide) (by decide) hds
  have hbracket := notMem_append hbracket (by decide) (by decide) hds
  rw [ofText?, user?_eq hat]
  dsimp only [Option.bind_eq_bind, Option.bind_some]
  rw [host?_eq hbracket]
  split
  · exact Option.map_eq_bind.symm
  · rfl

/-- A host of such characters is read back with its port. -/
theorem ofText?_append (h : ∀ c ∈ host, isUnreserved c) (hds : Numeral ds n) :
    ofText? (host ++ ':' :: ds) = some { host := String.ofList host, port := some n } := by
  have hnot {c : Char} (hc : isUnreserved c = false) : c ∉ host :=
    fun hmem => Bool.false_ne_true (hc.symm.trans (h c hmem))
  obtain ⟨hbefore, hafter⟩ := Url.cut_append (hnot (by decide)) ds
  rw [ofText?_eq (hnot (by decide)) (hnot (by decide)) hds.digits, hbefore, hafter,
    if_pos (isWritten_of_unreserved h), port?_eq hds]
  rfl

/-- The first colon of a number of version six ends the host, and what is after it is no port. -/
theorem ofText?_of_isVersion6 (h : Host.isVersion6 host) (hds : ∀ c ∈ ds, c.isDigit) :
    ofText? (host ++ ':' :: ds) = none := by
  have hnot {c : Char} (hc : Host.isSign c = false) : c ∉ host :=
    fun hmem => Bool.false_ne_true (hc.symm.trans (Host.isSign_of_isVersion6 h hmem))
  rw [ofText?_eq (hnot (by decide)) (hnot (by decide)) hds]
  obtain ⟨before, after, rfl, hbefore⟩ :=
    List.eq_append_cons_of_mem (Host.colon_mem_of_isVersion6 h)
  have hcut : before ++ ':' :: after ++ ':' :: ds = before ++ ':' :: (after ++ ':' :: ds) := by simp
  have hport : port? (':' :: (after ++ ':' :: ds)) = none :=
    port?_of_notDigit (c := ':') (by simp) (by decide)
  rw [hcut, (Url.cut_append hbefore _).2, hport]
  exact ite_self none

/-- The authority of an address with a path. -/
theorem ofUrl?_eq (h : ∀ c ∈ host, Host.isSign c) (path : List Char) :
    ofUrl? ("http://".toList ++ (host ++ '/' :: path)) = ofText? host := by
  have hcolon : ':' ∉ "http".toList := by decide
  have hsplit : splitOnce ':' ("http://".toList ++ (host ++ '/' :: path)) =
      some ("http".toList, '/' :: '/' :: (host ++ '/' :: path)) := splitOnce_append hcolon _
  have hinside : ∀ c ∈ host, decide (c ≠ '/' ∧ c ≠ '?' ∧ c ≠ '#') = true := by
    intro c hc
    refine decide_eq_true ⟨?_, ?_, ?_⟩ <;> rintro rfl <;> exact absurd (h _ hc) (by decide)
  rw [ofUrl?, hsplit]
  show ofText? (List.takeWhile _ (host ++ '/' :: path)) = _
  rw [List.takeWhile_append_of_pos hinside, List.takeWhile_cons_of_neg (by decide), List.append_nil]

end Authority

namespace Host

open Authority (isUnreserved ofText?)

variable {host ds : List Char} {n : Nat}

theorem isAlphanum_of_isName (h : isName host) {c : Char} (hc : c ∈ host) :
    c.isAlphanum ∨ c = '-' ∨ c = '.' := by
  by_cases hdot : c = '.'
  · exact .inr (.inr hdot)
  · obtain ⟨p, hp, hmem⟩ := exists_mem_splitAll hc hdot
    have hlabel := List.all_eq_true.1 h p hp
    simp only [isLabel, Bool.and_eq_true, List.all_eq_true] at hlabel
    have hsign := hlabel.1.1.2 c hmem
    simp only [Bool.or_eq_true, beq_iff_eq] at hsign
    exact hsign.imp_right .inl

theorem not_isVersion6_of_isDotted (h : isDotted host) : ¬ isVersion6 host := by
  intro hsix
  rcases isDigit_of_isDotted h (colon_mem_of_isVersion6 hsix) with hcolon | hcolon <;>
    exact absurd hcolon (by decide)

theorem IsReported.isSign (h : IsReported host) {c : Char} (hc : c ∈ host) : isSign c := by
  rcases h with h | h | h
  · exact isSign_of_isDotted h hc
  · exact isSign_of_isVersion6 h hc
  · rcases isAlphanum_of_isName h hc with halnum | rfl | rfl
    · exact isSign_of_isAlphanum halnum
    all_goals decide

theorem IsReported.isUnreserved (h : IsReported host) (hsix : ¬ isVersion6 host) {c : Char}
    (hc : c ∈ host) : isUnreserved c := by
  have halnum (h : c.isAlphanum) : Authority.isUnreserved c := by
    rw [Authority.isUnreserved, h]
    rfl
  rcases h with h | h | h
  · rcases isDigit_of_isDotted h hc with hdigit | rfl
    · exact halnum (isAlphanum_of_isDigit hdigit)
    · decide
  · exact absurd h hsix
  · rcases isAlphanum_of_isName h hc with h | rfl | rfl
    · exact halnum h
    all_goals decide

/-- A host is read back unless it needs brackets. -/
theorem IsReported.ofText?_iff (h : IsReported host) (hds : Numeral ds n) :
    ofText? (host ++ ':' :: ds) = some { host := String.ofList host, port := some n } ↔
      ¬ isVersion6 host := by
  constructor
  · intro hread hsix
    rw [Authority.ofText?_of_isVersion6 hsix hds.digits] at hread
    cases hread
  · intro hsix
    exact Authority.ofText?_append (fun c hc => h.isUnreserved hsix hc) hds

end Host

/-! ## Members and services -/

theorem Kubernetes.Service.toList_address (host : String) (n : Nat) :
    (Service.address host n).toList = host.toList ++ ':' :: (toString n).toList := by
  have hcolon : ":".toList = [':'] := rfl
  have hport : toString (n : Int) = toString n := rfl
  rw [Service.address, hport, String.toList_append, String.toList_append, hcolon, List.append_assoc]
  rfl

namespace Endpoint

variable {c : Cluster} {host : String} {call : ManageCall}

/-- A number of a port, and the rest of the address of a request. -/
theorem exists_toList_url (c : Cluster) (host : String) (call : ManageCall) :
    ∃ path, ((ofMember c host).request call).url.toList = "http://".toList ++
      (host.toList ++ ':' :: (toString Names.memberPortNumber.toNat).toList ++ '/' :: path) ∧
        ∀ c ∈ path, 0x20 < c.toNat := by
  have hpath : ∀ c ∈ "hazelcast/rest/management/cluster/".toList, 0x20 < c.toNat := by simp
  have hoperation : ∀ operation ∈ ["state", "changeState", "forceStart", "hotBackup"],
      ∀ c ∈ operation.toList, 0x20 < c.toNat := by simp
  refine ⟨"hazelcast/rest/management/cluster/".toList ++ call.operation.toList, ?_, ?_⟩
  · have hstart : "/hazelcast/rest/management/cluster/".toList =
        '/' :: "hazelcast/rest/management/cluster/".toList := by decide
    have hcolon : ":".toList = [':'] := rfl
    have hport : toString Names.memberPortNumber = toString Names.memberPortNumber.toNat := rfl
    unfold request ofMember withPort
    simp only [String.toList_append, hstart, hcolon, hport, List.append_assoc, List.cons_append,
      List.nil_append]
  · intro c hc
    rcases List.mem_append.1 hc with hc | hc
    · exact hpath c hc
    · exact hoperation call.operation (by cases call <;> simp [ManageCall.operation]) c hc

/-- A member is asked if a request can be sent to it at all. -/
theorem exists_ask_iff (e : Endpoint) : (∃ next, e.perform .getState =
    .ask (e.request .getState) next) ↔ Url.isHttp (e.request .getState).url := by
  cases hhttp : Url.isHttp (e.request .getState).url with
  | true =>
    refine iff_of_true ?_ rfl
    unfold perform post HttpRequest.send
    rw [hhttp]
    exact ⟨_, rfl⟩
  | false =>
    refine iff_of_false ?_ Bool.false_ne_true
    rintro ⟨next, hask⟩
    unfold perform post HttpRequest.send at hask
    rw [hhttp] at hask
    cases hask

/-- Of all numbers, requests can be sent to those of version four. -/
theorem isHttp_ofMember_iff (h : Host.isNumber host) :
    Url.isHttp ((ofMember c host).request call).url ↔ ¬ Host.isVersion6 host.toList := by
  obtain ⟨path, hurl, hpath⟩ := exists_toList_url c host call
  have hport := Numeral.toString Names.memberPortNumber.toNat
  rcases Bool.or_eq_true_iff.1 h with hdotted | hsix
  · exact iff_of_true (Url.isHttp_of_isDotted hdotted hport (by decide) hurl hpath)
      (Host.not_isVersion6_of_isDotted hdotted)
  · rw [Url.isHttp_of_isVersion6 hsix hport.digits hurl hpath]
    exact iff_of_false Bool.false_ne_true (not_not_intro hsix)

end Endpoint

namespace Authority

/-- From the address of a request to a member, and from the addresses of a service, the host and the
port are read back exactly if the host is no number of version six. A member whose address is such a
number is not even asked, and every other one is. -/
theorem reads_back_iff (c : Cluster) (s : Service) (hostIP : Option String) :
    (∀ (host : String) (call : ManageCall), Host.IsReported host.toList →
      (ofUrl? ((Endpoint.ofMember c host).request call).url.toList =
          some { host, port := some Names.memberPortNumber.toNat } ↔
        ¬ Host.isVersion6 host.toList)) ∧
    s.addresses hostIP = (s.points hostIP).map (fun p => Service.address p.1 p.2) ∧
    (∀ p ∈ s.points hostIP, Host.IsReported p.1.toList → 0 ≤ p.2 →
      (ofText? (Service.address p.1 p.2).toList = some { host := p.1, port := some p.2.toNat } ↔
        ¬ Host.isVersion6 p.1.toList)) ∧
    ∀ host : String, Host.isNumber host →
      ((∃ next, (Endpoint.ofMember c host).perform .getState =
          .ask ((Endpoint.ofMember c host).request .getState) next) ↔
        ¬ Host.isVersion6 host.toList) := by
  refine ⟨fun host call h => ?_, s.addresses_eq_map hostIP, ?_,
    fun host h => (Endpoint.exists_ask_iff _).trans (Endpoint.isHttp_ofMember_iff h)⟩
  · obtain ⟨path, hurl, -⟩ := Endpoint.exists_toList_url c host call
    have hport := Numeral.toString Names.memberPortNumber.toNat
    have hsign := Url.isSign_append (fun c hc => h.isSign hc) hport.digits
    have hread := h.ofText?_iff hport
    rw [String.ofList_toList] at hread
    rw [hurl, ofUrl?_eq hsign, hread]
  · rintro ⟨host, port⟩ - h hport
    obtain ⟨n, rfl⟩ := Int.eq_ofNat_of_zero_le hport
    have hread := h.ofText?_iff (Numeral.toString n)
    rw [String.ofList_toList] at hread
    rw [Service.toList_address, Int.toNat_natCast, hread]

/-- A load balancer with a number of version six. -/
def balancer : Service where
  metadata := { name := some "hz", space := some "default" }
  spec := some { type := some "LoadBalancer", ports := some [Cluster.memberPort] }
  status := some { loadBalancer := some (some [{ ip := some "2001:db8::1" }]) }

/-- Neither a member nor a service is found by a number of version six. -/
theorem reads_back_iff_version6 :
    ofUrl? ((Endpoint.ofMember Cluster.unisocket "2001:db8::1").request .getState).url.toList ≠
        some { host := "2001:db8::1", port := some 5701 } ∧
      (¬ ∃ next, (Endpoint.ofMember Cluster.unisocket "2001:db8::1").perform .getState =
        .ask ((Endpoint.ofMember Cluster.unisocket "2001:db8::1").request .getState) next) ∧
      ("2001:db8::1", 5701) ∈ balancer.points none ∧
      ofText? (Service.address "2001:db8::1" 5701).toList ≠
        some { host := "2001:db8::1", port := some 5701 } := by
  have hsix : Host.isVersion6 "2001:db8::1".toList := by decide
  have hreported : Host.IsReported "2001:db8::1".toList := .inr (.inl hsix)
  have hnumber : Host.isNumber "2001:db8::1" := by decide
  have hpoint : ("2001:db8::1", 5701) ∈ balancer.points none := by decide
  obtain ⟨hmembers, -, hservices, hasked⟩ := reads_back_iff Cluster.unisocket balancer none
  refine ⟨fun hread => ?_, fun hask => ?_, hpoint, fun hread => ?_⟩
  · exact (hmembers _ _ hreported).1 hread hsix
  · exact (hasked _ hnumber).1 hask hsix
  · exact (hservices _ hpoint hreported (by decide)).1 hread hsix

/-- In brackets it would be read back. -/
example : ofText? "[2001:db8::1]:5701".toList =
    some { host := "2001:db8::1", port := some 5701 } := by decide

end Authority

end GridOperator
