import GridOperator.Proofs.Script.Partway
import GridOperator.Proofs.Store.Goals

/-!
# Bringing an object in line, call by call

In a store that nobody else works on, an object is read once, and then it is written
once or not at all. `Course` lists the ways in which this may go; `apply_accounted`
says what each result tells of the store, and that work which has succeeded finds
nothing left to do.
-/

namespace GridOperator

open Kubernetes Pass
open Script (Environment Event)

variable {K : Type} [Resource K]

namespace MemoryStore

/-- A store that nobody else works on. Every call may fail, and then it has no effect. -/
def fallible : Environment (store K) (MemoryStore K) := fun c s answer s' =>
  (answer, s') = serve c s ∨ ∃ e, answer = StoreCall.fail e c ∧ s' = s

variable {s s' : MemoryStore K} {object : K}

theorem fallible_create {r : Except Error K} (h : fallible (.create object) s r s') :
    (∃ e, r = .error e ∧ s' = s) ∨
      ∃ o, r = .ok o ∧ s' = s.put (Resource.anyName object) object := by
  rcases h with h | ⟨e, rfl, rfl⟩
  · rcases serve_create_cases object s with ⟨e, hserve⟩ | hserve <;> rw [hserve] at h
    · exact .inl ⟨e, Prod.mk.inj h⟩
    · exact .inr ⟨_, Prod.mk.inj h⟩
  · exact .inl ⟨e, rfl, rfl⟩

theorem fallible_update {r : Except Error K} (h : fallible (.update object) s r s') :
    (∃ e, r = .error e ∧ s' = s) ∨
      ∃ o, r = .ok o ∧ s' = s.put (Resource.anyName object) object := by
  rcases h with h | ⟨e, rfl, rfl⟩
  · rcases serve_update_cases object s with ⟨e, hserve⟩ | hserve <;> rw [hserve] at h
    · exact .inl ⟨e, Prod.mk.inj h⟩
    · exact .inr ⟨_, Prod.mk.inj h⟩
  · exact .inl ⟨e, rfl, rfl⟩

end MemoryStore

namespace Store

open MemoryStore

variable {s s' : MemoryStore K} {template object : K} {change : K → Except Error K}
  {before : Option K} {events : List (Event (store K))}

/-! ## The object that is to be written -/

/-- What a change makes of the object that is there, or else of the template, unless it gives it
another name. -/
def revised (template : K) (change : K → Except Error K) (before : Option K) : Except Error K := do
  let changed ← change (before.getD template)
  if Resource.anyName changed = Resource.anyName template then .ok changed
  else .error (.renamed (Resource.anyName template) (Resource.anyName changed))

theorem revised_of_error {e : Error} (h : change (before.getD template) = .error e) :
    revised template change before = .error e := by
  unfold revised
  rw [h]
  rfl

theorem revised_of_ok {changed : K} (h : change (before.getD template) = .ok changed) :
    revised template change before =
      if Resource.anyName changed = Resource.anyName template then .ok changed
      else .error (.renamed (Resource.anyName template) (Resource.anyName changed)) := by
  unfold revised
  rw [h]
  rfl

theorem revised_eq_ok_iff {changed : K} : revised template change before = .ok changed ↔
    change (before.getD template) = .ok changed ∧
      Resource.anyName changed = Resource.anyName template := by
  cases hchange : change (before.getD template) with
  | error e =>
    rw [revised_of_error hchange]
    exact iff_of_false nofun fun h => nomatch h.1
  | ok made =>
    rw [revised_of_ok hchange]
    constructor
    · intro h
      split at h
      · obtain rfl := Except.ok.inj h
        exact ⟨rfl, by assumption⟩
      · cases h
    · rintro ⟨h, hname⟩
      obtain rfl := Except.ok.inj h
      exact if_pos hname

/-- Creates what has been made where there is nothing, and replaces what is there by what it has
been changed to, unless that is the same. -/
def writeBack : Option K → K → Pass (store K) Applied
  | none, made => do
    let _ ← create made
    return .created
  | some found, changed => do
    if Resource.toJson changed = Resource.toJson found then return .unchanged
    let _ ← update changed
    return .updated

/-- The object is read, then changed, and then written back. -/
theorem apply_eq (template : K) (change : K → Except Error K) : apply template change = (do
    let before ← get (Resource.anyName template)
    let changed ← Pass.ofExcept (revised template change before)
    writeBack before changed) := by
  have hrevised {α : Type} (before : Option K) (f : K → Pass (store K) α) : (do
      let changed ← Pass.ofExcept (change (before.getD template))
      Pass.ofExcept (checkName (Resource.anyName template) changed)
      f changed) = Pass.ofExcept (revised template change before) >>= f := by
    cases hchange : change (before.getD template) with
    | error e =>
      rw [revised_of_error hchange]
      rfl
    | ok changed =>
      rw [revised_of_ok hchange]
      show Pass.ofExcept (checkName (Resource.anyName template) changed) >>= _ = _
      unfold checkName
      split <;> rfl
  refine bind_congr fun before => ?_
  cases before with
  | none => exact hrevised none _
  | some found => exact hrevised (some found) _

/-! ## Call by call -/

/-- How bringing an object in line may end: with which calls, the latest one first, with which
result, and with which store. -/
inductive Course (template : K) (change : K → Except Error K) (s : MemoryStore K) :
    List (Event (store K)) → Except Error Applied → MemoryStore K → Prop where
  | unread (e : Error) :
      Course template change s [⟨.get (Resource.anyName template), .error e⟩] (.error e) s
  | refused {before : Option K} {e : Error}
      (hbefore : s.objects.get? (Resource.anyName template) = before)
      (hchange : revised template change before = .error e) :
      Course template change s [⟨.get (Resource.anyName template), .ok before⟩] (.error e) s
  | uncreated {made : K} (e : Error)
      (hbefore : s.objects.get? (Resource.anyName template) = none)
      (hchange : revised template change none = .ok made) :
      Course template change s
        [⟨.create made, .error e⟩, ⟨.get (Resource.anyName template), .ok none⟩] (.error e) s
  | created {made : K} (answer : K)
      (hbefore : s.objects.get? (Resource.anyName template) = none)
      (hchange : revised template change none = .ok made) :
      Course template change s
        [⟨.create made, .ok answer⟩, ⟨.get (Resource.anyName template), .ok none⟩] (.ok .created)
        (s.put (Resource.anyName made) made)
  | unchanged {found changed : K}
      (hbefore : s.objects.get? (Resource.anyName template) = some found)
      (hchange : revised template change (some found) = .ok changed)
      (hsame : Resource.toJson changed = Resource.toJson found) :
      Course template change s [⟨.get (Resource.anyName template), .ok (some found)⟩]
        (.ok .unchanged) s
  | outdated {found changed : K} (e : Error)
      (hbefore : s.objects.get? (Resource.anyName template) = some found)
      (hchange : revised template change (some found) = .ok changed)
      (hdiffers : Resource.toJson changed ≠ Resource.toJson found) :
      Course template change s [⟨.update changed, .error e⟩,
        ⟨.get (Resource.anyName template), .ok (some found)⟩] (.error e) s
  | updated {found changed : K} (answer : K)
      (hbefore : s.objects.get? (Resource.anyName template) = some found)
      (hchange : revised template change (some found) = .ok changed)
      (hdiffers : Resource.toJson changed ≠ Resource.toJson found) :
      Course template change s [⟨.update changed, .ok answer⟩,
        ⟨.get (Resource.anyName template), .ok (some found)⟩] (.ok .updated)
        (s.put (Resource.anyName changed) changed)

theorem ended_get {name : String} {r : Except Error (Option K)}
    (h : Ended fallible (get name) s events r s') : events = [⟨.get name, r⟩] ∧ s' = s ∧
      ∀ found, r = .ok found → s.objects.get? name = found := by
  obtain ⟨answer, rfl, rfl, hserve | ⟨e, rfl, rfl⟩⟩ := ended_ask h
  · obtain ⟨rfl, rfl⟩ := Prod.mk.inj hserve
    exact ⟨rfl, rfl, fun found h => Except.ok.inj h⟩
  · exact ⟨rfl, rfl, nofun⟩

theorem course_of_ended {r : Except Error Applied}
    (h : Ended fallible (apply template change) s events r s') :
    Course template change s events r s' := by
  rw [apply_eq] at h
  rcases ended_bind_cases h with ⟨e, rfl, hget⟩ | ⟨before, later, earlier, u, rfl, hget, h₁⟩
  · obtain ⟨rfl, rfl, -⟩ := ended_get hget
    exact .unread e
  obtain ⟨rfl, rfl, hbefore⟩ := ended_get hget
  have hbefore := hbefore before rfl
  rcases ended_bind_cases h₁ with
    ⟨e, rfl, hrevised⟩ | ⟨changed, later, earlier, v, rfl, hrevised, h₂⟩
  · obtain ⟨rfl, hchange, rfl⟩ := ended_ofExcept hrevised
    exact .refused hbefore hchange.symm
  obtain ⟨rfl, hchange, rfl⟩ := ended_ofExcept hrevised
  rw [List.append_nil]
  cases before with
  | none =>
    rcases ended_bind_pure h₂ with ⟨e, rfl, hcreate⟩ | ⟨answer, rfl, hcreate⟩ <;>
      obtain ⟨_, rfl, rfl, hcall⟩ := ended_ask hcreate <;>
      rcases fallible_create hcall with ⟨_, he, rfl⟩ | ⟨_, he, rfl⟩ <;> cases he
    · exact .uncreated e hbefore hchange.symm
    · exact .created answer hbefore hchange.symm
  | some found =>
    rw [writeBack] at h₂
    split at h₂
    · rename_i hsame
      obtain ⟨rfl, rfl, rfl⟩ := ended_ofExcept (a := .ok Applied.unchanged) h₂
      exact .unchanged hbefore hchange.symm hsame
    · rename_i hdiffers
      rcases ended_bind_pure h₂ with ⟨e, rfl, hupdate⟩ | ⟨answer, rfl, hupdate⟩ <;>
        obtain ⟨_, rfl, rfl, hcall⟩ := ended_ask hupdate <;>
        rcases fallible_update hcall with ⟨_, he, rfl⟩ | ⟨_, he, rfl⟩ <;> cases he
      · exact .outdated e hbefore hchange.symm hdiffers
      · exact .updated answer hbefore hchange.symm hdiffers

/-! ## What the results tell -/

namespace Course

variable {r : Except Error Applied} (h : Course template change s events r s')

include h

theorem eq_of_error {e : Error} (hr : r = .error e) : s' = s := by
  cases h with
  | created | updated => cases hr
  | _ => rfl

theorem eq_error_of_fail {event : Event (store K)} (hevent : event ∈ events) {e : Error}
    (he : event.answer = StoreCall.fail e event.call) : r = .error e := by
  cases h with
  | unread =>
    obtain rfl := List.mem_singleton.1 hevent
    cases he
    rfl
  | refused | unchanged =>
    obtain rfl := List.mem_singleton.1 hevent
    cases he
  | uncreated | outdated =>
    rcases List.mem_cons.1 hevent with rfl | hevent
    · cases he
      rfl
    · obtain rfl := List.mem_singleton.1 hevent
      cases he
  | created | updated =>
    rcases List.mem_cons.1 hevent with rfl | hevent
    · cases he
    · obtain rfl := List.mem_singleton.1 hevent
      cases he

theorem exists_error {e : Error}
    (he : revised template change (s.objects.get? (Resource.anyName template)) = .error e) :
    ∃ e', r = .error e' := by
  cases h with
  | unread e | refused _ _ | uncreated e | outdated e => exact ⟨_, rfl⟩
  | created _ hbefore hchange | unchanged hbefore hchange | updated _ hbefore hchange =>
    rw [hbefore, hchange] at he
    cases he

theorem created_eq (hr : r = .ok .created) :
    s.objects.get? (Resource.anyName template) = none ∧
      ∃ made, change template = .ok made ∧ s' = s.put (Resource.anyName template) made := by
  cases h with
  | created _ hbefore hchange =>
    obtain ⟨hmade, hname⟩ := revised_eq_ok_iff.1 hchange
    exact ⟨hbefore, _, hmade, by rw [hname]⟩
  | _ => cases hr

theorem updated_eq (hr : r = .ok .updated) : ∃ found changed,
    s.objects.get? (Resource.anyName template) = some found ∧ change found = .ok changed ∧
      Resource.toJson changed ≠ Resource.toJson found ∧
      s' = s.put (Resource.anyName template) changed := by
  cases h with
  | updated _ hbefore hchange hdiffers =>
    obtain ⟨hchanged, hname⟩ := revised_eq_ok_iff.1 hchange
    exact ⟨_, _, hbefore, hchanged, hdiffers, by rw [hname]⟩
  | _ => cases hr

theorem unchanged_eq (hr : r = .ok .unchanged) : ∃ found changed,
    s.objects.get? (Resource.anyName template) = some found ∧ change found = .ok changed ∧
      Resource.toJson changed = Resource.toJson found ∧ s' = s ∧
      events = [⟨.get (Resource.anyName template), .ok (some found)⟩] := by
  cases h with
  | unchanged hbefore hchange hsame =>
    exact ⟨_, _, hbefore, (revised_eq_ok_iff.1 hchange).1, hsame, rfl, rfl⟩
  | _ => cases hr

theorem exists_writes : ∃ answer writes,
    events = writes ++ [⟨.get (Resource.anyName template), answer⟩] ∧ writes.length ≤ 1 ∧
      ∀ write ∈ writes, ∃ object, (write.call = .create object ∨ write.call = .update object) ∧
        Resource.anyName object = Resource.anyName template := by
  cases h with
  | unread | refused | unchanged => exact ⟨_, [], rfl, Nat.zero_le 1, nofun⟩
  | uncreated _ _ hchange | created _ _ hchange =>
    exact ⟨_, [_], rfl, Nat.le_refl 1, List.forall_mem_singleton.2
      ⟨_, .inl rfl, (revised_eq_ok_iff.1 hchange).2⟩⟩
  | outdated _ _ hchange | updated _ _ hchange =>
    exact ⟨_, [_], rfl, Nat.le_refl 1, List.forall_mem_singleton.2
      ⟨_, .inr rfl, (revised_eq_ok_iff.1 hchange).2⟩⟩

end Course

/-- What the result of bringing an object in line tells of the calls that have been made, the latest
one first, and of the store that is left. -/
structure Accounted (template : K) (change : K → Except Error K) (s : MemoryStore K)
    (events : List (Event (store K))) (r : Except Error Applied) (s' : MemoryStore K) : Prop where
  /-- Whatever fails, the store is as it was. -/
  kept : (∃ e, r = .error e) → s' = s
  /-- A call that fails gives its error to the work. -/
  failed : ∀ event ∈ events, ∀ e, event.answer = StoreCall.fail e event.call → r = .error e
  /-- A change that cannot be made fails the work. -/
  refused : (∃ e, change ((s.objects.get? (Resource.anyName template)).getD template) = .error e) →
    ∃ e, r = .error e
  /-- So does a change that gives the object another name. -/
  renamed : (∃ changed,
      change ((s.objects.get? (Resource.anyName template)).getD template) = .ok changed ∧
        Resource.anyName changed ≠ Resource.anyName template) →
    ∃ e, r = .error e
  /-- There was nothing under the name, and now there is what the change makes of the template. -/
  created : r = .ok .created → s.objects.get? (Resource.anyName template) = none ∧
    ∃ made, change template = .ok made ∧ s' = s.put (Resource.anyName template) made
  /-- The change has made a difference to what was there, and this has been replaced. -/
  updated : r = .ok .updated → ∃ found changed,
    s.objects.get? (Resource.anyName template) = some found ∧ change found = .ok changed ∧
      Resource.toJson changed ≠ Resource.toJson found ∧
      s' = s.put (Resource.anyName template) changed
  /-- The change makes no difference to what is there, and nothing has been written. -/
  unchanged : r = .ok .unchanged → ∃ found changed,
    s.objects.get? (Resource.anyName template) = some found ∧ change found = .ok changed ∧
      Resource.toJson changed = Resource.toJson found ∧ s' = s ∧
      events = [⟨.get (Resource.anyName template), .ok (some found)⟩]
  /-- The object is read, and then written once at most, under its name. -/
  written : ∃ answer writes, events = writes ++ [⟨.get (Resource.anyName template), answer⟩] ∧
    writes.length ≤ 1 ∧ ∀ write ∈ writes, ∃ object,
      (write.call = .create object ∨ write.call = .update object) ∧
        Resource.anyName object = Resource.anyName template

theorem Course.accounted {r : Except Error Applied} (h : Course template change s events r s') :
    Accounted template change s events r s' where
  kept := fun ⟨_, hr⟩ => h.eq_of_error hr
  failed _ hevent _ he := h.eq_error_of_fail hevent he
  refused := fun ⟨_, he⟩ => h.exists_error (revised_of_error he)
  renamed := fun ⟨_, hchanged, hname⟩ =>
    h.exists_error ((revised_of_ok hchanged).trans (if_neg hname))
  created := h.created_eq
  updated := h.updated_eq
  unchanged := h.unchanged_eq
  written := h.exists_writes

/-! ## Once more -/

/-- Whether a change makes no difference to what it has made. -/
def Idempotent (change : K → Except Error K) : Prop :=
  ∀ object changed, change object = .ok changed → change changed = .ok changed

/-- Whether a change goes without the version of an object, which it leaves. -/
def IgnoresVersion (change : K → Except Error K) : Prop := ∀ object version,
  change (Resource.withVersion object version) =
    (change object).map fun changed => Resource.withVersion changed version

theorem lasting_of_idempotent (template : K) (hidempotent : Idempotent change)
    (hversion : IgnoresVersion change) :
    (Goal.bring template change).Lasting := by
  intro object changed version h
  rw [hversion, hidempotent object changed h]
  rfl

theorem run_apply_of_same {found changed : K}
    (hbefore : s.objects.get? (Resource.anyName template) = some found)
    (hchange : revised template change (some found) = .ok changed)
    (hsame : Resource.toJson changed = Resource.toJson found) :
    (apply template change).run.run serve s = (.ok .unchanged, s) := by
  rw [apply_eq]
  show (Pass.ofExcept (revised template change (s.objects.get? (Resource.anyName template))) >>=
    writeBack (s.objects.get? (Resource.anyName template))).run.run serve s = _
  rw [hbefore, hchange]
  show (writeBack (some found) changed).run.run serve s = _
  rw [writeBack, if_pos hsame]
  rfl

/-- Work that has succeeded finds nothing left to do, if the change makes no difference to what it
has made, as any version. -/
theorem Course.run_again [LawfulResource K] {a : Applied}
    (h : Course template change s events (.ok a) s') (hidempotent : Idempotent change)
    (hversion : IgnoresVersion change) :
    (apply template change).run.run serve s' = (.ok .unchanged, s') := by
  -- what has been written is there as a new version, under the name of the template
  have hwritten {before : Option K} {changed : K}
      (hchange : revised template change before = .ok changed) :
      (apply template change).run.run serve (s.put (Resource.anyName changed) changed) =
        (.ok .unchanged, s.put (Resource.anyName changed) changed) := by
    obtain ⟨hchanged, hname⟩ := revised_eq_ok_iff.1 hchange
    have hthere := get?_put_self (Resource.anyName changed) changed s
    rw [hname] at hthere ⊢
    refine run_apply_of_same hthere (revised_eq_ok_iff.2 ⟨?_, ?_⟩) rfl
    · exact lasting_of_idempotent template hidempotent hversion _ _ _ hchanged
    · rw [Resource.anyName_withVersion, hname]
  cases h with
  | created _ _ hchange => exact hwritten hchange
  | updated _ _ hchange => exact hwritten hchange
  | unchanged hbefore hchange hsame => exact run_apply_of_same hbefore hchange hsame

/-- Nobody else works on the store, and a call that fails has no effect. Then the result of bringing
an object in line accounts for what has become of the store, and if it is a success, the work is
not needed again. -/
theorem apply_accounted [LawfulResource K] {r : Except Error Applied}
    (h : Ended fallible (apply template change) s events r s') :
    Accounted template change s events r s' ∧
      ∀ a, r = .ok a → Idempotent change → IgnoresVersion change →
        (apply template change).run.run serve s' = (.ok .unchanged, s') := by
  have hcourse := course_of_ended h
  refine ⟨hcourse.accounted, ?_⟩
  rintro a rfl hidempotent hversion
  exact hcourse.run_again hidempotent hversion

/-- A map without data. -/
def blank : ConfigMap := { metadata := { name := some "hz" } }

/-- Puts data into a map. -/
def refill (object : ConfigMap) : Except Error ConfigMap :=
  .ok { object with data := some [("port", "5701")] }

theorem ended_refill : ∃ events s',
    Ended fallible (apply blank refill) (MemoryStore.ofList [blank]) events (.ok .updated) s' := by
  have hexec : Exec fallible (apply blank refill) (MemoryStore.ofList [blank]) _ _ :=
    Script.exec_of_run (h := serve) (fun _ _ => .inl rfl) _ _
  have hresult : ((apply blank refill).run.run serve (MemoryStore.ofList [blank])).1 =
    .ok .updated := rfl
  rw [hresult] at hexec
  obtain ⟨events, h⟩ := hexec.exists_goes
  exact ⟨events, _, h⟩

/-- Data is put into the map that is stored, and then it is there. -/
theorem apply_accounted_refilled : ∃ events s',
    Ended fallible (apply blank refill) (MemoryStore.ofList [blank]) events (.ok .updated) s' ∧
    Accounted blank refill (MemoryStore.ofList [blank]) events (.ok .updated) s' ∧
    (apply blank refill).run.run serve s' = (.ok .unchanged, s') := by
  have hidempotent : Idempotent refill := by
    rintro object _ ⟨⟩
    rfl
  have hversion : IgnoresVersion refill := fun _ _ => rfl
  obtain ⟨events, s', h⟩ := ended_refill
  obtain ⟨haccounted, hagain⟩ := apply_accounted h
  exact ⟨events, s', h, haccounted, hagain _ rfl hidempotent hversion⟩

end Store

end GridOperator
