import GridOperator.Proofs.Script.Execution
import Mathlib.Logic.Function.Basic

/-!
# Scripts side by side

Any number of scripts in one world. Each makes its calls in its own order, but
between two of them any number of calls of the others may be answered.
-/

namespace GridOperator

namespace Script

variable {I : Interface} {ι α σ : Type}

/-- A call with the answer it got. -/
structure Event (I : Interface) where
  call : I.Call
  answer : I.Answer call

/-! ## What is left of a script -/

/-- What is left of a script after some answered calls, the latest one first. -/
inductive Follows (s : Script I α) : List (Event I) → Script I α → Prop where
  | start : Follows s [] s
  | step {events : List (Event I)} {c : I.Call} {next : I.Answer c → Script I α}
      (answer : I.Answer c) : Follows s events (ask c next) →
      Follows s (⟨c, answer⟩ :: events) (next answer)

/-- A script that still makes a call has either made none or got its first answer and gone on. -/
theorem Follows.ask_cases {c : I.Call} {next : I.Answer c → Script I α} {events : List (Event I)}
    {rest : Script I α} (h : Follows (ask c next) events rest) :
    (events = [] ∧ rest = ask c next) ∨
      ∃ answer later, events = later ++ [⟨c, answer⟩] ∧ Follows (next answer) later rest := by
  induction h with
  | start => exact .inl ⟨rfl, rfl⟩
  | step answer _ ih =>
    right
    rcases ih with ⟨rfl, h⟩ | ⟨first, later, rfl, h⟩
    · cases h
      exact ⟨answer, [], rfl, .start⟩
    · exact ⟨first, ⟨_, answer⟩ :: later, rfl, .step answer h⟩

theorem Follows.done_cases {a : α} {events : List (Event I)} {rest : Script I α}
    (h : Follows (done a) events rest) : events = [] ∧ rest = done a := by
  induction h with
  | start => exact ⟨rfl, rfl⟩
  | step _ _ ih => cases ih.2

/-- Whether `P` holds of every call that a script may come to after these events, with the events
so far and what follows on the answer. -/
def Asks (P : List (Event I) → (c : I.Call) → (I.Answer c → Script I α) → Prop) :
    List (Event I) → Script I α → Prop
  | _, done _ => True
  | events, ask c next => P events c next ∧ ∀ answer, Asks P (⟨c, answer⟩ :: events) (next answer)

theorem Follows.asks {P : List (Event I) → (c : I.Call) → (I.Answer c → Script I α) → Prop}
    {s rest : Script I α} {events : List (Event I)} (h : Follows s events rest) (hs : Asks P [] s) :
    Asks P events rest := by
  induction h with
  | start => exact hs
  | step answer _ ih => exact ih.2 answer

/-! ## What scripts ask for, and where they end -/

variable {β : Type} {J : Interface} {P : List (Event I) → I.Call → Prop}
  {Q Q' : List (Event I) → α → Prop} {events : List (Event I)}

/-- Whether `P` holds of every call that a script may come to after these events, and `Q` of every
end, both with the events so far. -/
def Guards (P : List (Event I) → I.Call → Prop) (Q : List (Event I) → α → Prop) :
    List (Event I) → Script I α → Prop
  | events, done a => Q events a
  | events, ask c next => P events c ∧ ∀ answer, Guards P Q (⟨c, answer⟩ :: events) (next answer)

theorem guards_bind {s : Script I α} {f : α → Script I β} {R : List (Event I) → β → Prop} :
    Guards P R events (s >>= f) ↔ Guards P (fun later a => Guards P R later (f a)) events s := by
  show Guards P R events (s.bind f) ↔ _
  induction s generalizing events with
  | done a => exact Iff.rfl
  | ask c next ih => exact and_congr_right' (forall_congr' fun answer => ih answer)

theorem Guards.mono {s : Script I α} (h : Guards P Q events s)
    (hQ : ∀ later a, events <:+ later → Q later a → Q' later a) : Guards P Q' events s := by
  induction s generalizing events with
  | done a => exact hQ events a (List.suffix_refl _) h
  | ask c next ih =>
    exact ⟨h.1, fun answer => ih answer (h.2 answer) fun later a hlater =>
      hQ later a ((List.suffix_cons _ _).trans hlater)⟩

theorem Follows.guards {s rest : Script I α} (h : Follows s events rest) (hs : Guards P Q [] s) :
    Guards P Q events rest := by
  induction h with
  | start => exact hs
  | step answer _ ih => exact ih.2 answer

/-- Each call that has been made was as it should be after those before it. -/
theorem Follows.guarded {s rest : Script I α} (h : Follows s events rest) (hs : Guards P Q [] s)
    {later earlier : List (Event I)} {e : Event I} (hevents : events = later ++ e :: earlier) :
    P earlier e.call := by
  induction h generalizing later with
  | start => cases later <;> cases hevents
  | step answer hsteps ih =>
    cases later with
    | nil =>
      obtain ⟨rfl, rfl⟩ := List.cons.inj hevents
      exact (hsteps.guards hs).1
    | cons _ later => exact ih (List.cons.inj hevents).2

/-- A script that is made through another interface, all calls of which are as they should be. -/
theorem guards_embed {P : List (Event J) → J.Call → Prop} {e : Embedding I J}
    (h : ∀ events c, P events (e.call c)) (s : Script I α) (events : List (Event J)) :
    Guards P (fun _ _ => True) events (s.embed e) := by
  induction s generalizing events with
  | done a => trivial
  | ask c next ih => exact ⟨h events c, fun answer => ih _ _⟩

/-! ## Many scripts -/

variable [DecidableEq ι]

/-- What scripts may come to in one world: the calls they have made, the latest one first, what is
left of each of them, and the world. -/
inductive Interleaved (env : Environment I σ) (scripts : ι → Script I α) (w₀ : σ) :
    List (ι × Event I) → (ι → Script I α) → σ → Prop where
  | start : Interleaved env scripts w₀ [] scripts w₀
  | step {trace : List (ι × Event I)} {rest : ι → Script I α} {w w' : σ} (k : ι) {c : I.Call}
      {next : I.Answer c → Script I α} {answer : I.Answer c} :
      Interleaved env scripts w₀ trace rest w → rest k = ask c next → env c w answer w' →
      Interleaved env scripts w₀ ((k, ⟨c, answer⟩) :: trace)
        (Function.update rest k (next answer)) w'

/-- The calls of one script. -/
def own (k : ι) (trace : List (ι × Event I)) : List (Event I) :=
  (trace.filter (·.1 = k)).map (·.2)

theorem own_cons_self (k : ι) (e : Event I) (trace : List (ι × Event I)) :
    own k ((k, e) :: trace) = e :: own k trace := by
  simp [own]

theorem own_cons_of_ne {j k : ι} (h : j ≠ k) (e : Event I) (trace : List (ι × Event I)) :
    own k ((j, e) :: trace) = own k trace := by
  simp [own, h]

/-- Each script goes on by its own answers alone. -/
theorem Interleaved.follows {env : Environment I σ} {scripts rest : ι → Script I α} {w₀ w : σ}
    {trace : List (ι × Event I)} (h : Interleaved env scripts w₀ trace rest w) (k : ι) :
    Follows (scripts k) (own k trace) (rest k) := by
  induction h with
  | start => exact .start
  | step j _ hj _ ih =>
    by_cases hk : j = k
    · subst hk
      rw [own_cons_self, Function.update_self]
      exact .step _ (hj ▸ ih)
    · rw [own_cons_of_ne hk, Function.update_of_ne (Ne.symm hk)]
      exact ih

/-- The only call of a script so far stands between calls of the others. -/
theorem eq_append_of_own_eq_singleton {k : ι} {e : Event I} {trace : List (ι × Event I)}
    (h : own k trace = [e]) :
    ∃ later earlier, trace = later ++ (k, e) :: earlier ∧ ∀ x ∈ later, x.1 ≠ k := by
  obtain ⟨⟨j, e'⟩, hf, rfl⟩ := List.map_eq_singleton_iff.1 h
  obtain ⟨later, earlier, rfl, hlater, hk, -⟩ := List.filter_eq_cons_iff.1 hf
  obtain rfl : j = k := by simpa using hk
  exact ⟨later, earlier, rfl, fun x hx => by simpa using hlater x hx⟩

end Script

/-! ## Passes -/

namespace Pass

open Script (Event)

variable {I : Interface} {α β : Type} {P : List (Event I) → I.Call → Prop}
  {Q : List (Event I) → α → Prop} {R : List (Event I) → β → Prop} {events : List (Event I)}

/-- Whether `P` holds of every call that a pass may come to, and `E` of whatever it ends with. -/
def Leads (P : List (Event I) → I.Call → Prop) (E : List (Event I) → Except Error α → Prop)
    (events : List (Event I)) (p : Pass I α) : Prop :=
  Script.Guards P E events p.run

variable {E E' : List (Event I) → Except Error α → Prop}
  {F : List (Event I) → Except Error β → Prop}

theorem leads_pure {a : α} (h : E events (.ok a)) : Leads P E events (pure a) := h

theorem leads_ofExcept {r : Except Error α} (h : E events r) : Leads P E events (ofExcept r) := h

theorem leads_lift {c : I.Call} (h : P events c) :
    Leads P (fun later r => ∃ answer, r = .ok answer ∧ later = ⟨c, answer⟩ :: events) events
      (ExceptT.lift (Script.call c)) :=
  ⟨h, fun answer => ⟨answer, rfl, rfl⟩⟩

theorem leads_bind {p : Pass I α} {f : α → Pass I β} (hp : Leads P E events p)
    (hok : ∀ later a, E later (.ok a) → Leads P F later (f a))
    (herror : ∀ later e, E later (.error e) → F later (.error e)) :
    Leads P F events (p >>= f) := by
  unfold Leads
  rw [ExceptT.run_bind]
  refine Script.guards_bind.2 (hp.mono fun later r _ hr => ?_)
  cases r with
  | ok a => exact hok later a hr
  | error e => exact herror later e hr

theorem leads_outcome {p : Pass I α} (h : Leads P E events p) :
    Leads P (fun later r => ∃ a, r = .ok a ∧ E later a) events p.outcome :=
  Script.guards_bind.2 (h.mono fun _ a _ ha => ⟨a, rfl, ha⟩)

theorem Leads.mono {p : Pass I α} (h : Leads P E events p)
    (hE : ∀ later r, E later r → E' later r) : Leads P E' events p :=
  Script.Guards.mono h fun later r _ => hE later r

/-- Whether `P` holds of every call that a pass may come to, and `Q` where it succeeds. -/
def Guards (P : List (Event I) → I.Call → Prop) (Q : List (Event I) → α → Prop)
    (events : List (Event I)) (p : Pass I α) : Prop :=
  Script.Guards P (fun later r => ∀ a, r = .ok a → Q later a) events p.run

theorem guards_pure {a : α} (h : Q events a) : Guards P Q events (pure a) :=
  fun _ ha => Except.ok.inj ha ▸ h

theorem guards_ofExcept {r : Except Error α} (h : ∀ a, r = .ok a → Q events a) :
    Guards P Q events (ofExcept r) := h

theorem guards_bind {p : Pass I α} {f : α → Pass I β} (hp : Guards P Q events p)
    (hf : ∀ later a, events <:+ later → Q later a → Guards P R later (f a)) :
    Guards P R events (p >>= f) := by
  have hfollows : Leads P (fun later r => events <:+ later ∧ ∀ a, r = .ok a → Q later a) events p :=
    Script.Guards.mono hp fun _ _ hlater hr => ⟨hlater, hr⟩
  exact leads_bind hfollows (fun later a h => hf later a h.1 (h.2 a rfl)) fun _ _ _ => nofun

theorem guards_lift {c : I.Call} (h : P events c) :
    Guards P (fun _ _ => True) events (ExceptT.lift (Script.call c)) :=
  ⟨h, fun _ _ _ => trivial⟩

theorem guards_outcome {p : Pass I α} (h : Guards P Q events p) :
    Guards P (fun _ _ => True) events p.outcome :=
  Script.guards_bind.2 (h.mono fun _ _ _ _ _ _ => trivial)

end Pass

end GridOperator
