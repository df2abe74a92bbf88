import GridOperator.Kubernetes.Service
import GridOperator.Proofs.Kubernetes.Annotations

/-!
# The JSON of services

Services of one JSON agree in their labels, and in the type, selector, ports and
publication of addresses that are specified. This takes that whatever they keep
besides is called differently, as in every service that was read.
-/

namespace GridOperator

namespace Members

/-- Whether members have none of these names. -/
def Avoids (ms : Members) (names : List String) : Prop := ∀ name ∈ names, name ∉ ms.map (·.1)

theorem avoids_nil (names : List String) : Avoids [] names := fun _ _ => List.not_mem_nil

theorem avoids_without (ms : Members) (names : List String) : (ms.without names).Avoids names := by
  intro name hname hmem
  obtain ⟨m, hm, rfl⟩ := List.mem_map.1 hmem
  simp [without, hname] at hm

theorem exists_read_of_mem_list {α : Type} {ms : Members} {name : String} {read : Json → α} {a : α}
    (h : a ∈ ms.list name read) : ∃ item, a = read item := by
  unfold list list? sub? at h
  cases hj : ms.get? name with
  | none =>
    rw [hj] at h
    cases h
  | some j =>
    rw [hj] at h
    obtain ⟨item, -, rfl⟩ := List.mem_map.1 h
    exact ⟨item, rfl⟩

end Members

namespace Json

variable {known known' : List (String × Option Json)} {other other' : Members}
  {names : List String}

/-- Objects of one JSON have the same known members. -/
theorem lookup_eq_of_sorted_eq (h : sorted known other = sorted known' other')
    (hnodup : names.Nodup) (hknown : known.map (·.1) = names) (hknown' : known'.map (·.1) = names)
    (hother : other.Avoids names) (hother' : other'.Avoids names) {name : String}
    (hname : name ∈ names) : (known.lookup name).join = (known'.lookup name).join := by
  rw [← get?_sorted (hknown ▸ hnodup) (hother name hname),
    ← get?_sorted (hknown' ▸ hnodup) (hother' name hname), h]

/-- An object of the JSON of one with known members only has no others either. -/
theorem eq_nil_of_sorted_eq (h : sorted known other = sorted known' []) (hnodup : names.Nodup)
    (hknown' : known'.map (·.1) = names) (hother : other.Avoids names) : other = [] := by
  cases other with
  | nil => rfl
  | cons m ms =>
    have hmem : m.1 ∈ (m :: ms).map (·.1) := List.mem_cons_self
    have hlost : m.1 ∉ names := fun hname => hother m.1 hname hmem
    have hthere : (Table.get? m.1 (sorted known (m :: ms)).members).isSome := by
      show (Table.get? m.1 ((ofSome known ++ m :: ms).foldl _ [])).isSome
      rw [List.foldl_append]
      exact Table.isSome_get?_foldl_set hmem _
    have hnone : known'.lookup m.1 = none := Table.lookup_eq_none (hknown'.symm ▸ hlost)
    rw [h, get?_sorted (hknown' ▸ hnodup) List.not_mem_nil, hnone] at hthere
    cases hthere

end Json

namespace Kubernetes

theorem IntOrText.toJson_injective {a b : IntOrText} (h : a.toJson = b.toJson) : a = b := by
  cases a <;> cases b <;> cases h <;> rfl

/-! ## Ports -/

attribute [ext] ServicePort

namespace ServicePort

def names : List String := ["name", "protocol", "port", "targetPort", "nodePort"]

/-- Ports of one JSON are the same, if one of them has known members only. -/
theorem eq_of_toJson {p q : ServicePort} (hp : p.other = []) (hq : q.other.Avoids names)
    (h : p.toJson = q.toJson) : p = q := by
  have hnodup : names.Nodup := by decide
  unfold toJson at h
  rw [hp] at h
  have hother : q.other = [] := Json.eq_nil_of_sorted_eq h.symm hnodup rfl hq
  have hlookup {name : String} (hname : name ∈ names) :=
    Json.lookup_eq_of_sorted_eq h hnodup rfl rfl (Members.avoids_nil _) hq hname
  have hstr : Function.Injective Json.str := fun _ _ => Json.str.inj
  have hint : Function.Injective Json.int := fun _ _ => Json.int.inj
  have hname : p.name = q.name := Option.map_injective hstr (hlookup (by decide : "name" ∈ names))
  have hprotocol : p.protocol = q.protocol :=
    Option.map_injective hstr (hlookup (by decide : "protocol" ∈ names))
  have hport : p.port = q.port := hint (Option.some.inj (hlookup (by decide : "port" ∈ names)))
  have htargetPort : p.targetPort = q.targetPort :=
    Option.map_injective (fun _ _ => IntOrText.toJson_injective)
      (hlookup (by decide : "targetPort" ∈ names))
  have hnodePort : p.nodePort = q.nodePort :=
    Option.map_injective hint (hlookup (by decide : "nodePort" ∈ names))
  exact ServicePort.ext hname hprotocol hport htargetPort hnodePort (hp.trans hother.symm)

theorem map_toJson_inj {ps qs : List ServicePort} (hps : ∀ p ∈ ps, p.other = [])
    (hqs : ∀ q ∈ qs, q.other.Avoids names) (h : ps.map toJson = qs.map toJson) : ps = qs := by
  induction ps generalizing qs with
  | nil => exact (List.map_eq_nil_iff.1 h.symm).symm
  | cons p ps ih =>
    cases qs with
    | nil => cases h
    | cons q qs =>
      obtain ⟨hhead, htail⟩ := List.cons.inj h
      rw [List.forall_mem_cons] at hps hqs
      rw [eq_of_toJson hps.1 hqs.1 hhead, ih hps.2 hqs.2 htail]

end ServicePort

/-! ## Specifications -/

namespace ServiceSpec

def names : List String := ["type", "selector", "ports", "publishNotReadyAddresses"]

/-- A specification that does not keep anything besides under the name of a known member. -/
structure WellFormed (s : ServiceSpec) : Prop where
  other : s.other.Avoids names
  ports : ∀ port ∈ s.ports.getD [], port.other.Avoids ServicePort.names

/-- Specifications of one JSON agree, if the ports of one of them have known members only. -/
theorem fields_eq_of_toJson {s t : ServiceSpec} (hs : s.other.Avoids names)
    (hports : ∀ port ∈ s.ports.getD [], port.other = []) (ht : t.WellFormed)
    (h : s.toJson = t.toJson) : s.type = t.type ∧ s.selector = t.selector ∧ s.ports = t.ports ∧
      s.publishNotReadyAddresses = t.publishNotReadyAddresses := by
  have hnodup : names.Nodup := by decide
  have hlookup {name : String} (hname : name ∈ names) :=
    Json.lookup_eq_of_sorted_eq h hnodup rfl rfl hs ht.other hname
  refine ⟨?_, ?_, ?_, ?_⟩
  · exact Option.map_injective (fun _ _ => Json.str.inj) (hlookup (by decide : "type" ∈ names))
  · exact Option.map_injective (fun _ _ => TextMap.toJson_injective)
      (hlookup (by decide : "selector" ∈ names))
  · have hmap : s.ports.map (Json.ofList ServicePort.toJson) =
        t.ports.map (Json.ofList ServicePort.toJson) := hlookup (by decide : "ports" ∈ names)
    cases hps : s.ports with
    | none =>
      rw [hps] at hmap
      exact (Option.map_eq_none_iff.1 hmap.symm).symm
    | some ps =>
      obtain ⟨qs, hqs, hjson⟩ := Option.map_eq_some_iff.1 ((hps ▸ hmap).symm : _ = some _)
      have hformed := ht.ports
      rw [hps] at hports
      rw [hqs] at hformed
      have hsame : ps = qs := ServicePort.map_toJson_inj hports hformed (Json.arr.inj hjson).symm
      rw [hqs, hsame]
  · exact Option.map_injective (fun _ _ => Json.bool.inj)
      (hlookup (by decide : "publishNotReadyAddresses" ∈ names))

theorem wellFormed_ofNormal (j : Json) : (ofNormal j).WellFormed where
  other := Members.avoids_without _ _
  ports := by
    intro port hport
    obtain ⟨item, rfl⟩ := Members.exists_read_of_mem_list hport
    exact Members.avoids_without _ _

end ServiceSpec

/-! ## Services -/

namespace Service

/-- A service that does not keep anything besides under the name of what the operator writes. -/
structure WellFormed (s : Service) : Prop where
  labels : s.metadata.other.Avoids ["labels"]
  spec : (s.spec.getD {}).WellFormed

/-- Every service that is read is well formed. -/
theorem wellFormed_ofNormal (j : Json) : (ofNormal j).WellFormed where
  labels := by
    intro name hname
    obtain rfl := List.mem_singleton.1 hname
    exact Members.avoids_without _ _ _ (by decide)
  spec := by
    show ((Option.map ServiceSpec.ofNormal (j.members.get? "spec")).getD {}).WellFormed
    cases j.members.get? "spec" with
    | none => exact ⟨Members.avoids_nil _, fun _ => nofun⟩
    | some spec => exact ServiceSpec.wellFormed_ofNormal spec

def names : List String := ["apiVersion", "kind", "metadata", "spec", "status"]

variable {s t : Service}

theorem metadata_and_spec_eq_of_toJson (h : s.toJson = t.toJson) :
    s.metadata.toJson = t.metadata.toJson ∧
      s.spec.map ServiceSpec.toJson = t.spec.map ServiceSpec.toJson := by
  have hnodup : names.Nodup := by decide
  have hlookup {name : String} (hname : name ∈ names) :=
    Json.lookup_eq_of_sorted_eq h hnodup rfl rfl (Members.avoids_nil _) (Members.avoids_nil _) hname
  exact ⟨Option.some.inj (hlookup (by decide : "metadata" ∈ names)),
    hlookup (by decide : "spec" ∈ names)⟩

/-- What has the JSON of a service with a specification has a specification that agrees with it. -/
theorem exists_spec_of_toJson {spec : ServiceSpec} (hspec : t.spec = some spec)
    (hother : spec.other.Avoids ServiceSpec.names)
    (hports : ∀ port ∈ spec.ports.getD [], port.other = []) (hs : s.WellFormed)
    (h : t.toJson = s.toJson) : ∃ found, s.spec = some found ∧ spec.type = found.type ∧
      spec.selector = found.selector ∧ spec.ports = found.ports ∧
      spec.publishNotReadyAddresses = found.publishNotReadyAddresses := by
  have hjson := (metadata_and_spec_eq_of_toJson h).2
  rw [hspec, Option.map_some] at hjson
  obtain ⟨found, hfound, hsame⟩ := Option.map_eq_some_iff.1 hjson.symm
  have hformed := hs.spec
  rw [hfound] at hformed
  exact ⟨found, hfound, ServiceSpec.fields_eq_of_toJson hother hports hformed hsame.symm⟩

theorem labels_eq_of_toJson (hs : s.metadata.other.Avoids ["labels"])
    (ht : t.metadata.other.Avoids ["labels"]) (h : s.toJson = t.toJson) :
    s.metadata.labels = t.metadata.labels := by
  have hmetadata := (metadata_and_spec_eq_of_toJson h).1
  refine Option.map_injective (fun _ _ => TextMap.toJson_injective) ?_
  have hget {m : ObjectMeta} (hm : m.other.Avoids ["labels"]) :
      Table.get? "labels" m.toJson.members = m.labels.map TextMap.toJson := by
    unfold ObjectMeta.toJson
    rw [Json.get?_sorted (by simp only [List.map_cons, List.map_nil]; decide)
      (hm _ List.mem_cons_self)]
    rfl
  rw [← hget hs, ← hget ht, hmetadata]

end Service

end Kubernetes

end GridOperator
