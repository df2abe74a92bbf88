import GridOperator.Proofs.Script.Interleaving
import GridOperator.Proofs.Store.Versions

/-!
# Many clients of one store

Clients read, change and write the objects of one store beside each other. Whatever
stands between a client's reading and its writing, what it writes takes the place
of what it has read, or nothing is written: `Work.write_served`.
-/

namespace GridOperator

open Kubernetes
open Script (Environment Event Follows Interleaved ask done own)

/-- A piece of work on a store. A client that does several of them, one after the other, counts as
several clients. -/
inductive Work (K : Type) where
  | apply (template : K) (change : K → Except Error K)
  | annotate (name key value : String)
  | addFinalizer (object : K)
  | removeFinalizer (object : K)
  | delete (name : String)

variable {K : Type} [Resource K]

namespace Work

def pass : Work K → Pass (store K) Unit
  | apply template change => do let _ ← Store.apply template change
  | annotate name key value => do let _ ← Store.annotate (K := K) name key value
  | addFinalizer object => do let _ ← Store.addFinalizer object
  | removeFinalizer object => do let _ ← Store.removeFinalizer object
  | delete name => do let _ ← Store.delete (K := K) name

def script (work : Work K) : Script (store K) (Except Error Unit) := work.pass.run

/-- What the work makes of an object that is there. -/
def change : Work K → K → Except Error K
  | apply _ change => change
  | annotate _ key value => fun object => .ok (Resource.mapMetadata (·.annotate key value) object)
  | addFinalizer _ => fun object => .ok (Resource.mapMetadata (·.addFinalizer) object)
  | removeFinalizer _ => fun object => .ok (Resource.mapMetadata (·.removeFinalizer) object)
  | delete _ => .ok

/-- What has been read by a call. -/
def read? : Event (store K) → Option K
  | ⟨.get _, .ok found⟩ => found
  | _ => none

/-- The object that the work goes out from: the one that it is given, or else has read. -/
def base? (events : List (Event (store K))) : Work K → Option K
  | addFinalizer object | removeFinalizer object => some object
  | _ => events.findSome? read?

/-- Whether the work leaves versions alone, and if it is given an object, is given one of the
store. -/
def Fair (held : K → Prop) : Work K → Prop
  | apply _ change => ∀ object changed, change object = .ok changed →
    Resource.version? changed = Resource.version? object
  | addFinalizer object | removeFinalizer object => held object
  | _ => True

/-! ## Call by call -/

theorem run_ite_bind {I : Interface} {α β : Type} {c : Prop} [Decidable c] (a : α) (p : Pass I α)
    (f : α → Pass I β) :
    ((if c then pure a else p) >>= f).run = if c then (f a).run else (p >>= f).run := by
  split <;> rfl

/-- A write, with which the work ends. -/
def create (object : K) : Script (store K) (Except Error Unit) :=
  ask (I := store K) (.create object) fun r => done (r.map fun _ => ())

def update (object : K) : Script (store K) (Except Error Unit) :=
  ask (I := store K) (.update object) fun r => done (r.map fun _ => ())

/-- What follows on a change, if it succeeds and keeps the name. -/
def renew (name : String) (changed : Except Error K)
    (next : K → Script (store K) (Except Error Unit)) : Script (store K) (Except Error Unit) :=
  match changed with
  | .error e => done (.error e)
  | .ok object => match Store.checkName name object with
    | .error e => done (.error e)
    | .ok _ => next object

omit [Resource K] in
theorem run_create_bind {α : Type} (object : K) (a : α) :
    (do let _ ← Store.create object; let _ ← pure a : Pass (store K) Unit).run = create object :=
  congrArg (ask _) (funext fun r => by cases r <;> rfl)

omit [Resource K] in
theorem run_update_bind {α : Type} (object : K) (a : α) :
    (do let _ ← Store.update object; let _ ← pure a : Pass (store K) Unit).run = update object :=
  congrArg (ask _) (funext fun r => by cases r <;> rfl)

theorem run_renew_bind (name : String) (changed : Except Error K) (f : K → Pass (store K) Unit) :
    (do
      let object ← Pass.ofExcept changed
      Pass.ofExcept (Store.checkName name object)
      f object).run = renew name changed fun object => (f object).run := by
  unfold renew
  cases changed with
  | error e => rfl
  | ok object =>
    show (Pass.ofExcept (Store.checkName name object) >>= fun _ => f object).run = _
    dsimp only
    cases Store.checkName name object <;> rfl

theorem script_apply (template : K) (change : K → Except Error K) :
    (apply template change).script = ask (I := store K) (.get (Resource.anyName template)) fun
      | .error e => done (.error e)
      | .ok none => renew (Resource.anyName template) (change template) create
      | .ok (some found) => renew (Resource.anyName template) (change found) fun changed =>
        if Resource.toJson changed = Resource.toJson found then done (.ok ())
        else update changed := by
  refine congrArg (ask _) (funext fun answer => ?_)
  rcases answer with e | _ | found
  · rfl
  · show ((do
      let made ← Pass.ofExcept (change template)
      Pass.ofExcept (Store.checkName (Resource.anyName template) made)
      let _ ← Store.create made
      return Applied.created) >>= fun _ => pure () : Pass (store K) Unit).run = _
    simp only [bind_assoc, run_renew_bind, run_create_bind]
  · show ((do
      let changed ← Pass.ofExcept (change found)
      Pass.ofExcept (Store.checkName (Resource.anyName template) changed)
      if Resource.toJson changed = Resource.toJson found then return Applied.unchanged
      let _ ← Store.update changed
      return Applied.updated) >>= fun _ => pure () : Pass (store K) Unit).run = _
    simp only [bind_assoc, run_renew_bind, run_ite_bind, run_update_bind]
    rfl

theorem script_annotate (name key value : String) :
    (annotate name key value : Work K).script = ask (I := store K) (.get name) fun
      | .error e => done (.error e)
      | .ok none => done (.ok ())
      | .ok (some found) =>
        if (Resource.metadata found).annotation? key = some value then done (.ok ())
        else update (Resource.mapMetadata (·.annotate key value) found) := by
  refine congrArg (ask _) (funext fun answer => ?_)
  rcases answer with e | _ | found
  · rfl
  · rfl
  · show ((do
      if (Resource.metadata found).annotation? key = some value then return Applied.unchanged
      let _ ← Store.update (Resource.mapMetadata (·.annotate key value) found)
      return Applied.updated) >>= fun _ => pure () : Pass (store K) Unit).run = _
    simp only [bind_assoc, run_ite_bind, run_update_bind]
    rfl

theorem script_addFinalizer (object : K) : (addFinalizer object).script =
    if (Resource.metadata object).hasFinalizer || (Resource.metadata object).isDeleted then
      done (.ok ())
    else update (Resource.mapMetadata (·.addFinalizer) object) := by
  unfold script pass Store.addFinalizer
  simp only [bind_assoc, run_ite_bind, run_update_bind]
  rfl

theorem script_removeFinalizer (object : K) : (removeFinalizer object).script =
    if !(Resource.metadata object).hasFinalizer then done (.ok ())
    else update (Resource.mapMetadata (·.removeFinalizer) object) := by
  unfold script pass Store.removeFinalizer
  simp only [bind_assoc, run_ite_bind, run_update_bind]
  rfl

/-! ## What a client is about to write -/

/-- A new object is what the work makes of its template, another one what it makes of the object
that it goes out from. If the write fails, so does the work. -/
def Writes (work : Work K) (events : List (Event (store K))) :
    (c : StoreCall K) → (c.Answer → Script (store K) (Except Error Unit)) → Prop
  | .create object, next => (∃ template change, work = apply template change ∧
      change template = .ok object) ∧ ∀ e, next (.error e) = done (.error e)
  | .update object, next => (∃ base, work.base? events = some base ∧
      work.change base = .ok object) ∧ ∀ e, next (.error e) = done (.error e)
  | _, _ => True

variable {work : Work K} {events : List (Event (store K))}

theorem asks_renew {name : String} {changed : Except Error K}
    {next : K → Script (store K) (Except Error Unit)}
    (h : ∀ object, changed = .ok object → (next object).Asks work.Writes events) :
    (renew name changed next).Asks work.Writes events := by
  unfold renew
  cases changed with
  | error e => trivial
  | ok object =>
    dsimp only
    split
    · trivial
    · exact h object rfl

theorem asks_create {template object : K} {change : K → Except Error K}
    (h : change template = .ok object) :
    (create object).Asks (apply template change).Writes events :=
  ⟨⟨⟨template, change, rfl, h⟩, fun _ => rfl⟩, fun _ => trivial⟩

theorem asks_update {base object : K} (hbase : work.base? events = some base)
    (h : work.change base = .ok object) : (update object).Asks work.Writes events :=
  ⟨⟨⟨base, hbase, h⟩, fun _ => rfl⟩, fun _ => trivial⟩

theorem asks_script (work : Work K) : work.script.Asks work.Writes [] := by
  cases work with
  | apply template change =>
    rw [script_apply]
    refine ⟨trivial, fun answer => ?_⟩
    rcases answer with e | _ | found
    · trivial
    · exact asks_renew fun made hmade => asks_create hmade
    · refine asks_renew fun changed hchanged => ?_
      split
      · trivial
      · exact asks_update rfl hchanged
  | annotate name key value =>
    rw [script_annotate]
    refine ⟨trivial, fun answer => ?_⟩
    rcases answer with e | _ | found
    · trivial
    · trivial
    · dsimp only
      split
      · trivial
      · exact asks_update rfl rfl
  | addFinalizer object =>
    rw [script_addFinalizer]
    split
    · trivial
    · exact asks_update rfl rfl
  | removeFinalizer object =>
    rw [script_removeFinalizer]
    split
    · trivial
    · exact asks_update rfl rfl
  | delete name =>
    refine ⟨trivial, fun answer => ?_⟩
    cases answer <;> trivial

end Work

/-! ## Many clients -/

namespace MemoryStore

/-- The store that answers all calls. -/
def reliable : Environment (store K) (MemoryStore K) :=
  fun c s answer s' => (answer, s') = serve c s

variable {ι : Type}

/-- Whether a call fails without any effect and its error is the end of the client's work. -/
def Refuses (s : MemoryStore K) (c : StoreCall K)
    (next : c.Answer → Script (store K) (Except Error Unit)) (e : Error) : Prop :=
  serve c s = (StoreCall.fail e c, s) ∧ next (StoreCall.fail e c) = done (.error e)

/-- The store when it has answered calls, the latest one first. -/
def after (s : MemoryStore K) (trace : List (ι × Event (store K))) : MemoryStore K :=
  trace.foldr (fun e s => (serve e.2.call s).2) s

/-- Whether an object is or has been in the store when it has answered calls. -/
def Held (s : MemoryStore K) (trace : List (ι × Event (store K))) (object : K) : Prop :=
  ∃ earlier, earlier <:+ trace ∧
    (s.after earlier).objects.get? (Resource.anyName object) = some object

variable {s s₀ : MemoryStore K} {trace : List (ι × Event (store K))} {object : K}

theorem held_nil : s.Held ([] : List (ι × Event (store K))) object ↔
    s.objects.get? (Resource.anyName object) = some object := by
  unfold Held
  simp only [List.suffix_nil, exists_eq_left]
  rfl

theorem held_cons {e : ι × Event (store K)} : s.Held (e :: trace) object ↔ s.Held trace object ∨
    (s.after (e :: trace)).objects.get? (Resource.anyName object) = some object := by
  unfold Held
  simp only [List.suffix_cons_iff, or_and_right, exists_or, exists_eq_left]
  exact or_comm

variable [DecidableEq ι] {scripts rest : ι → Script (store K) (Except Error Unit)}

theorem eq_after (h : Interleaved reliable scripts s₀ trace rest s) : s = s₀.after trace := by
  induction h with
  | start => rfl
  | step k _ _ hserved ih =>
    rw [(Prod.mk.inj hserved).2, ih]
    rfl

omit [DecidableEq ι] in
theorem exists_get?_of_read {c : StoreCall K} {answer : c.Answer} {s' : MemoryStore K}
    (h : reliable c s answer s') (hread : Work.read? ⟨c, answer⟩ = some object) :
    ∃ name, s.objects.get? name = some object := by
  cases c with
  | get name =>
    obtain rfl := (Prod.mk.inj h).1
    exact ⟨name, hread⟩
  | _ => cases hread

variable [LawfulResource K]

/-- All along, objects that are or have been in the store have different versions. -/
theorem numbered_of_interleaved {objects : List K}
    (h : Interleaved reliable scripts (ofList objects) trace rest s) :
    s.Numbered ((ofList objects).Held trace) := by
  induction h with
  | start => exact (numbered_ofList objects).restrict (fun o => held_nil.1) fun name o ho =>
      held_nil.2 (by rwa [(numbered_ofList objects).named ho])
  | @step trace rest w w' k c next answer before hk hserved ih =>
    obtain rfl := (Prod.mk.inj hserved).2
    have hafter : (serve c w).2 = (ofList objects).after ((k, ⟨c, answer⟩) :: trace) := by
      rw [eq_after before]
      rfl
    refine (ih.serve c).restrict (fun o ho => ?_) fun name o ho => ?_
    · rwa [held_cons, ← hafter] at ho
    · rw [held_cons, ← hafter]
      exact (ih.serve c).stored ho

/-- What is read has been there. -/
theorem held_of_read {objects : List K}
    (h : Interleaved reliable scripts (ofList objects) trace rest s) {k : ι} {e : Event (store K)}
    (he : (k, e) ∈ trace) (hread : Work.read? e = some object) :
    (ofList objects).Held trace object := by
  induction h with
  | start => cases he
  | @step trace rest w w' j c next answer before hj hserved ih =>
    rw [held_cons]
    rcases List.mem_cons.1 he with he | he
    · obtain ⟨-, rfl⟩ := Prod.mk.inj he
      obtain ⟨name, hfound⟩ := exists_get?_of_read hserved hread
      exact .inl ((numbered_of_interleaved before).stored hfound)
    · exact .inl (ih he)

end MemoryStore

namespace Work

open MemoryStore

variable [LawfulResource K] {ι : Type} {work : Work K} {object base : K}

theorem version?_change {held : K → Prop} (hfair : work.Fair held)
    (h : work.change base = .ok object) :
    Resource.version? object = Resource.version? base := by
  cases work with
  | apply template change => exact hfair _ _ h
  | delete name =>
    cases h
    rfl
  | _ =>
    obtain rfl := Except.ok.inj h
    unfold Resource.version?
    rw [Resource.metadata_mapMetadata]
    rfl

variable [DecidableEq ι] {works : ι → Work K} {k : ι} {objects : List K} {s : MemoryStore K}
  {trace : List (ι × Event (store K))} {rest : ι → Script (store K) (Except Error Unit)}

theorem held_base
    (h : Interleaved reliable (fun k => (works k).script) (ofList objects) trace rest s)
    (hfair : (works k).Fair ((ofList objects).Held trace))
    (hbase : (works k).base? (own k trace) = some base) : (ofList objects).Held trace base := by
  have hread : (own k trace).findSome? read? = some base → (ofList objects).Held trace base := by
    intro hfound
    obtain ⟨e, he, hread⟩ := List.exists_of_findSome?_eq_some hfound
    obtain ⟨⟨j, e'⟩, hmem, rfl⟩ := List.mem_map.1 he
    exact held_of_read h (List.mem_filter.1 hmem).1 hread
  cases hwork : works k <;> rw [hwork] at hbase hfair
  case addFinalizer =>
    cases hbase
    exact hfair
  case removeFinalizer =>
    cases hbase
    exact hfair
  all_goals exact hread hbase

/-- Whatever the others have done, a client that is about to create an object has made it of its
template, and it is stored exactly if nothing is stored under its name. A client that is about to
replace an object has changed the one that it goes out from, and the change is stored exactly if
that very object is still stored. Otherwise nothing is changed and the client gives up, with a
conflict if there is another object. -/
theorem write_served
    (h : Interleaved reliable (fun k => (works k).script) (ofList objects) trace rest s)
    (hfair : (works k).Fair ((ofList objects).Held trace)) :
    (∀ object next, rest k = ask (I := store K) (.create object) next →
      (∃ template change, works k = apply template change ∧ change template = .ok object) ∧
        ((s.objects.get? (Resource.anyName object) = none ∧
            serve (.create object) s = (.ok (Resource.withVersion object (s.version + 1)),
              s.put (Resource.anyName object) object)) ∨
          (s.objects.get? (Resource.anyName object) ≠ none ∧ s.Refuses (.create object) next
            (.conflict (Resource.kind K) (Resource.anyName object))))) ∧
    ∀ object next, rest k = ask (I := store K) (.update object) next →
      ∃ base, (works k).base? (own k trace) = some base ∧ (works k).change base = .ok object ∧
        ((s.objects.get? (Resource.anyName object) = some base ∧
            serve (.update object) s = (.ok (Resource.withVersion object (s.version + 1)),
              s.put (Resource.anyName object) object)) ∨
          (∃ found, s.objects.get? (Resource.anyName object) = some found ∧ found ≠ base ∧
            s.Refuses (.update object) next
              (.conflict (Resource.kind K) (Resource.anyName object))) ∨
          (s.objects.get? (Resource.anyName object) = none ∧
            s.Refuses (.update object) next (.notFound (Resource.anyName object)))) := by
  have hasks := (h.follows k).asks (asks_script (works k))
  refine ⟨fun object next hk => ?_, fun object next hk => ?_⟩
  · rw [hk] at hasks
    obtain ⟨hmade, hend⟩ := hasks.1
    refine ⟨hmade, ?_⟩
    cases hfound : s.objects.get? (Resource.anyName object) with
    | none => exact .inl ⟨rfl, serve_create_of_none hfound⟩
    | some found =>
      exact .inr ⟨Option.some_ne_none _, serve_create_of_some hfound, hend _⟩
  · rw [hk] at hasks
    obtain ⟨⟨base, hbase, hchange⟩, hend⟩ := hasks.1
    refine ⟨base, hbase, hchange, ?_⟩
    cases hfound : s.objects.get? (Resource.anyName object) with
    | none => exact .inr (.inr ⟨rfl, serve_update_of_none hfound, hend _⟩)
    | some found =>
      have hcurrent := (numbered_of_interleaved h).isCurrent_iff_eq (held_base h hfair hbase)
        (version?_change hfair hchange) hfound
      by_cases hsame : found = base
      · exact .inl ⟨congrArg some hsame, serve_update_of_current hfound (hcurrent.2 hsame)⟩
      · have hstale : isCurrent object found = false := by
          simpa using fun hc => hsame (hcurrent.1 hc)
        exact .inr (.inl ⟨found, rfl, hsame, serve_update_of_stale hfound hstale, hend _⟩)

/-! ## A client that comes too late -/

/-- An object as it is stored first. -/
def first : ConfigMap := Resource.withVersion { metadata := { name := some "hz" } } 1

/-- One client sets an annotation of the object, the other one puts the finalizer on it. -/
def rivals : Bool → Work ConfigMap
  | true => annotate "hz" "color" "red"
  | false => addFinalizer first

theorem interleaved_rivals : ∃ trace rest s object next found,
    Interleaved reliable (fun k => (rivals k).script) (ofList [first]) trace rest s ∧
    rest false = ask (I := store ConfigMap) (.update object) next ∧
    s.objects.get? (Resource.anyName object) = some found ∧ found ≠ first :=
  ⟨_, _, _, _, _, _, .step true (.step true .start rfl rfl) rfl rfl, rfl, rfl, by decide⟩

theorem held_first (trace : List (Bool × Event (store ConfigMap))) :
    (ofList [first]).Held trace first :=
  ⟨[], List.nil_suffix, rfl⟩

/-- The annotation is set first, and the finalizer is not put over it. -/
theorem write_served_rivals : ∃ trace rest s object next,
    Interleaved reliable (fun k => (rivals k).script) (ofList [first]) trace rest s ∧
    (rivals false).Fair ((ofList [first]).Held trace) ∧
    rest false = ask (I := store ConfigMap) (.update object) next ∧
    s.Refuses (.update object) next (.conflict "ConfigMap" (Resource.anyName object)) := by
  obtain ⟨trace, rest, s, object, next, found, h, hk, hfound, hne⟩ := interleaved_rivals
  have hfair : (rivals false).Fair ((ofList [first]).Held trace) := held_first trace
  refine ⟨trace, rest, s, object, next, h, hfair, hk, ?_⟩
  obtain ⟨base, hbase, -, hserved⟩ := (write_served h hfair).2 object next hk
  obtain rfl : first = base := Option.some.inj hbase
  rw [hfound] at hserved
  rcases hserved with ⟨hsame, -⟩ | ⟨-, -, -, hrefused⟩ | ⟨hnone, -⟩
  · exact absurd (Option.some.inj hsame) hne
  · exact hrefused
  · cases hnone

end Work

end GridOperator
