import GridOperator.Proofs.Script.Interleaving

/-!
# Scripts partway

`Script.Goes` says where a script may be before its end: which calls have been
answered, what is left of it, and the world. The next call of a pass
(`Pass.Pending`) is one of its first part, or of its second part if the first one has
succeeded. A pass that is `Strict` makes calls of certain kinds and ends with the
first one that fails.
-/

namespace GridOperator

namespace Script

variable {I J : Interface} {α β σ τ : Type} {env : Environment I σ} {s rest : Script I α}
  {w v w' : σ} {events : List (Event I)} {a r : α}

/-- How far a script may come from a world: the calls so far, the latest one first, what is left of
it, and the world. -/
inductive Goes (env : Environment I σ) (s : Script I α) (w : σ) :
    List (Event I) → Script I α → σ → Prop where
  | start : Goes env s w [] s w
  | step {events : List (Event I)} {c : I.Call} {next : I.Answer c → Script I α}
      {answer : I.Answer c} {v v' : σ} : Goes env s w events (ask c next) v →
      env c v answer v' → Goes env s w (⟨c, answer⟩ :: events) (next answer) v'

theorem Goes.follows (h : Goes env s w events rest v) : Follows s events rest := by
  induction h with
  | start => exact .start
  | step _ _ ih => exact .step _ ih

theorem Goes.exec (h : Goes env s w events rest v) (hrest : rest.Exec env v r w') :
    s.Exec env w r w' := by
  induction h with
  | start => exact hrest
  | step _ hcall ih => exact ih ⟨_, _, hcall, hrest⟩

theorem Goes.exec_done (h : Goes env s w events (done r) v) : s.Exec env w r v :=
  h.exec ⟨rfl, rfl⟩

/-- What every answer preserves is preserved up to wherever a script has come. -/
theorem Goes.preserves {P : σ → Prop} (step : ∀ c u answer u', env c u answer u' → P u → P u')
    (h : Goes env s w events rest v) (hw : P w) : P v := by
  induction h with
  | start => exact hw
  | step _ hcall ih => exact step _ _ _ _ hcall ih

/-- What is left of a script can be gone through to the end. -/
theorem Goes.exists_done (h : Goes env s w events rest v) (hrest : rest.Exec env v r w') :
    ∃ later, Goes env s w later (done r) w' := by
  induction rest generalizing events v with
  | done a =>
    obtain ⟨rfl, rfl⟩ := hrest
    exact ⟨events, h⟩
  | ask c next ih =>
    obtain ⟨answer, u, hcall, hrest⟩ := hrest
    exact ih answer (h.step hcall) hrest

theorem Exec.exists_goes (h : s.Exec env w r w') : ∃ events, Goes env s w events (done r) w' :=
  Goes.start.exists_done h

/-- What a script has come to, after the calls so far and some more that a world has answered. -/
def advance (h : Handler I σ) : Nat → List (Event I) → Script I α → σ →
    List (Event I) × Script I α × σ
  | n + 1, events, ask c next, w =>
    advance h n (⟨c, (h c w).1⟩ :: events) (next (h c w).1) (h c w).2
  | _, events, s, w => (events, s, w)

theorem Goes.advance {h : Handler I σ} (admits : ∀ c w, env c w (h c w).1 (h c w).2)
    (hgoes : Goes env s w events rest v) (n : Nat) :
    Goes env s w (advance h n events rest v).1 (advance h n events rest v).2.1
      (advance h n events rest v).2.2 := by
  induction n generalizing events rest v with
  | zero => exact hgoes
  | succ n ih =>
    cases rest with
    | done a => exact hgoes
    | ask c next => exact ih (hgoes.step (admits c v))

theorem Goes.done_cases (h : Goes env (done a) w events rest v) :
    events = [] ∧ rest = done a ∧ v = w := by
  induction h with
  | start => exact ⟨rfl, rfl, rfl⟩
  | step _ _ ih => cases ih.2.1

/-- A script that makes a call has not made it yet, or goes on with the answer. -/
theorem Goes.ask_cases {c : I.Call} {next : I.Answer c → Script I α}
    (h : Goes env (ask c next) w events rest v) :
    (events = [] ∧ rest = ask c next ∧ v = w) ∨ ∃ answer later u,
      events = later ++ [⟨c, answer⟩] ∧ env c w answer u ∧
        Goes env (next answer) u later rest v := by
  induction h with
  | start => exact .inl ⟨rfl, rfl, rfl⟩
  | step _ hcall ih =>
    rcases ih with ⟨rfl, heq, rfl⟩ | ⟨first, later, u, rfl, hfirst, h⟩
    · cases heq
      exact .inr ⟨_, [], _, rfl, hcall, .start⟩
    · exact .inr ⟨first, _ :: later, u, rfl, hfirst, h.step hcall⟩

/-- Two scripts one after the other: the first one still has calls to make, or it has ended and the
second one is under way. -/
theorem goes_bind {f : α → Script I β} {rest : Script I β}
    (h : Goes env (s >>= f) w events rest v) :
    (∃ c next, Goes env s w events (ask c next) v ∧ rest = ask c fun answer => next answer >>= f) ∨
      ∃ a later earlier u, events = later ++ earlier ∧ Goes env s w earlier (done a) u ∧
        Goes env (f a) u later rest v := by
  induction h with
  | start =>
    cases s with
    | done a => exact .inr ⟨a, [], [], w, rfl, .start, .start⟩
    | ask c next => exact .inl ⟨c, next, .start, rfl⟩
  | step _ hcall ih =>
    rcases ih with ⟨c, next, hfirst, heq⟩ | ⟨a, later, earlier, u, rfl, hfirst, hrest⟩
    · cases heq
      have hfirst := hfirst.step hcall
      -- this call may have been the last one of the first script
      dsimp only
      generalize next _ = after at hfirst
      cases after with
      | done a => exact .inr ⟨a, [], _, _, rfl, hfirst, .start⟩
      | ask c' next' => exact .inl ⟨c', next', hfirst, rfl⟩
    · exact .inr ⟨a, _ :: later, earlier, u, rfl, hfirst, hrest.step hcall⟩

/-- Whether a script has been run to a result within some calls. -/
def Ran (s : Script I α) (r : α) (events : List (Event I)) : Prop :=
  ∃ own, own <:+: events ∧ Follows s own (done r)

theorem Ran.before (h : Ran s r events) (later : List (Event I)) : Ran s r (later ++ events) := by
  obtain ⟨own, hown, hs⟩ := h
  exact ⟨own, hown.trans (List.suffix_append later events).isInfix, hs⟩

theorem Ran.after (h : Ran s r events) (earlier : List (Event I)) :
    Ran s r (events ++ earlier) := by
  obtain ⟨own, hown, hs⟩ := h
  exact ⟨own, hown.trans (List.prefix_append events earlier).isInfix, hs⟩

theorem Goes.ran (h : Goes env s w events (done r) v) : Ran s r events :=
  ⟨events, List.infix_rfl, h.follows⟩

/-! ## Failing calls -/

/-- What counts as the failure of a call. -/
class Failing (I : Interface) where
  failure? : (c : I.Call) → I.Answer c → Option Error

open Failing (failure?)

variable [Failing I] [Failing J] {K K' : I.Call → Prop}

/-- Whether all calls of a script satisfy `K`, and one that fails is the last one. -/
def Strict (K : I.Call → Prop) : Script I (Except Error α) → Prop
  | done _ => True
  | ask c next => K c ∧ ∀ answer,
      (∀ e, failure? c answer = some e → next answer = done (.error e)) ∧ Strict K (next answer)

theorem Strict.mono {s : Script I (Except Error α)} (h : Strict K s) (hK : ∀ c, K c → K' c) :
    Strict K' s := by
  induction s with
  | done a => trivial
  | ask c next ih => exact ⟨hK c h.1, fun answer => ⟨(h.2 answer).1, ih _ (h.2 answer).2⟩⟩

theorem strict_bind {s : Script I (Except Error α)} {f : Except Error α → Script I (Except Error β)}
    (hs : Strict K s) (hf : ∀ r, Strict K (f r)) (herror : ∀ e, f (.error e) = done (.error e)) :
    Strict K (s >>= f) := by
  show Strict K (s.bind f)
  induction s with
  | done a => exact hf a
  | ask c next ih =>
    refine ⟨hs.1, fun answer => ⟨fun e he => ?_, ih _ (hs.2 answer).2⟩⟩
    dsimp only
    rw [(hs.2 answer).1 e he]
    exact herror e

theorem strict_embed {e : Embedding I J} {K : J.Call → Prop} {s : Script I (Except Error α)}
    (he : ∀ c answer, failure? (e.call c) answer = failure? c (e.answer c answer))
    (hs : Strict (fun c => K (e.call c)) s) : Strict K (s.embed e) := by
  induction s with
  | done a => trivial
  | ask c next ih =>
    refine ⟨hs.1, fun answer => ⟨fun error herror => ?_, ih _ (hs.2 _).2⟩⟩
    rw [he] at herror
    dsimp only
    rw [(hs.2 _).1 error herror]
    rfl

theorem Follows.strict {s rest : Script I (Except Error α)} (h : Follows s events rest)
    (hs : Strict K s) : Strict K rest ∧ ∀ event ∈ events, K event.call := by
  induction h with
  | start => exact ⟨hs, nofun⟩
  | step answer _ ih => exact ⟨(ih.1.2 answer).2, List.forall_mem_cons.2 ⟨ih.1.1, ih.2⟩⟩

/-- The first call that fails is the last one, and the script ends with its error. -/
theorem Follows.ends {s rest : Script I (Except Error α)} (h : Follows s events rest)
    (hs : Strict K s) {later earlier : List (Event I)} {event : Event I} {e : Error}
    (hevents : events = later ++ event :: earlier)
    (hfailed : failure? event.call event.answer = some e) :
    later = [] ∧ rest = done (.error e) := by
  induction h generalizing later with
  | start => cases later <;> cases hevents
  | step answer hsteps ih =>
    cases later with
    | nil =>
      obtain ⟨rfl, -⟩ := List.cons.inj hevents
      exact ⟨rfl, (((hsteps.strict hs).1.2 answer).1 e hfailed)⟩
    | cons _ later =>
      -- the script would have gone on after the failure
      obtain ⟨-, hevents⟩ := List.cons.inj hevents
      cases (ih hevents).2

/-- What no call of these kinds changes is as it was. -/
theorem Goes.keeps {s rest : Script I (Except Error α)} (h : Goes env s w events rest v)
    (hs : Strict K s) (view : σ → τ)
    (hkeeps : ∀ c u answer u', K c → env c u answer u' → view u' = view u) : view v = view w := by
  induction h with
  | start => rfl
  | step hsteps hcall ih =>
    rw [hkeeps _ _ _ _ (hsteps.follows.strict hs).1.1 hcall, ih]

end Script

/-! ## Passes -/

namespace Pass

open Script (Event Goes Ran Follows Environment Failing)
open Script.Failing (failure?)

variable {I J : Interface} {α β σ τ : Type} {env : Environment I σ} {p : Pass I α}
  {f : α → Pass I β} {w v : σ} {events : List (Event I)} {c : I.Call}

/-- Whether a call may be the next one of a pass, after some calls and in some world. -/
def Pending (env : Environment I σ) (p : Pass I α) (w : σ) (events : List (Event I)) (c : I.Call)
    (v : σ) : Prop :=
  ∃ next, Goes env p.run w events (.ask c next) v

/-- Whether a pass may have ended, after some calls and in some world. -/
def Ended (env : Environment I σ) (p : Pass I α) (w : σ) (events : List (Event I))
    (r : Except Error α) (v : σ) : Prop :=
  Goes env p.run w events (.done r) v

theorem pending_bind (h : Pending env (p >>= f) w events c v) : Pending env p w events c v ∨
    ∃ a later earlier u, events = later ++ earlier ∧ Ended env p w earlier (.ok a) u ∧
      Pending env (f a) u later c v := by
  obtain ⟨next, h⟩ := h
  rw [ExceptT.run_bind] at h
  rcases Script.goes_bind h with ⟨c', next', hfirst, heq⟩ | ⟨r, later, earlier, u, rfl, hfirst, h⟩
  · cases heq
    exact .inl ⟨next', hfirst⟩
  · cases r with
    | ok a => exact .inr ⟨a, later, earlier, u, rfl, hfirst, next, h⟩
    | error e => cases (h.follows.done_cases).2

/-- A pass has ended in its first part, which has failed, or in its second part. -/
theorem ended_bind_cases {r : Except Error β} (h : Ended env (p >>= f) w events r v) :
    (∃ e, r = .error e ∧ Ended env p w events (.error e) v) ∨
      ∃ a later earlier u, events = later ++ earlier ∧ Ended env p w earlier (.ok a) u ∧
        Ended env (f a) u later r v := by
  unfold Ended at h
  rw [ExceptT.run_bind] at h
  rcases Script.goes_bind h with ⟨_, _, _, heq⟩ | ⟨first, later, earlier, u, rfl, hfirst, h⟩
  · cases heq
  · cases first with
    | ok a => exact .inr ⟨a, later, earlier, u, rfl, hfirst, h⟩
    | error e =>
      obtain ⟨rfl, heq, rfl⟩ := h.done_cases
      cases heq
      exact .inl ⟨e, rfl, hfirst⟩

theorem ended_bind {b : β} (h : Ended env (p >>= f) w events (.ok b) v) :
    ∃ a later earlier u, events = later ++ earlier ∧ Ended env p w earlier (.ok a) u ∧
      Ended env (f a) u later (.ok b) v :=
  (ended_bind_cases h).resolve_left fun ⟨_, he, _⟩ => nomatch he

/-- A pass without calls. -/
theorem ended_ofExcept {a r : Except Error α} (h : Ended env (ofExcept a) w events r v) :
    events = [] ∧ r = a ∧ v = w := by
  obtain ⟨rfl, heq, rfl⟩ := Goes.done_cases h
  cases heq
  exact ⟨rfl, rfl, rfl⟩

/-- A pass that goes on without calls has ended as its first part has. -/
theorem ended_bind_pure {b : β} {r : Except Error β}
    (h : Ended env (p >>= fun _ => pure b) w events r v) :
    (∃ e, r = .error e ∧ Ended env p w events (.error e) v) ∨
      ∃ a, r = .ok b ∧ Ended env p w events (.ok a) v := by
  rcases ended_bind_cases h with h | ⟨a, later, earlier, u, rfl, hp, hpure⟩
  · exact .inl h
  · obtain ⟨rfl, rfl, rfl⟩ := ended_ofExcept (a := .ok b) hpure
    exact .inr ⟨a, rfl, hp⟩

theorem not_pending_pure {a : α} : ¬ Pending env (pure a : Pass I α) w events c v :=
  fun ⟨_, h⟩ => nomatch h.follows.done_cases.2

theorem Ended.exec {r : Except Error α} (h : Ended env p w events r v) : Exec env p w r v :=
  Goes.exec_done h

theorem Ended.ran {r : Except Error α} (h : Ended env p w events r v) : Ran p.run r events :=
  Goes.ran h

/-- A single call, whose answer is the result. -/
theorem ended_ask {g : I.Answer c → Except Error α} {r : Except Error α}
    (h : Ended env (ofScript (.ask c fun answer => .done (g answer))) w events r v) :
    ∃ answer, events = [⟨c, answer⟩] ∧ r = g answer ∧ env c w answer v := by
  rcases Goes.ask_cases h with ⟨-, heq, -⟩ | ⟨answer, later, u, rfl, hcall, hend⟩
  · cases heq
  · obtain ⟨rfl, heq, rfl⟩ := hend.done_cases
    cases heq
    exact ⟨answer, rfl, rfl, hcall⟩

/-! ## Strict passes -/

variable [Failing I] [Failing J] {K K' : I.Call → Prop}

/-- Whether all calls of a pass satisfy `K`, and the first one that fails ends it. -/
def Strict (K : I.Call → Prop) (p : Pass I α) : Prop := Script.Strict K p.run

theorem Strict.mono (h : Strict K p) (hK : ∀ c, K c → K' c) : Strict K' p := Script.Strict.mono h hK

theorem strict_pure (a : α) : Strict K (pure a : Pass I α) := trivial

theorem strict_ofExcept (r : Except Error α) : Strict K (ofExcept r : Pass I α) := trivial

theorem strict_bind (hp : Strict K p) (hf : ∀ a, Strict K (f a)) : Strict K (p >>= f) := by
  unfold Strict
  rw [ExceptT.run_bind]
  refine Script.strict_bind hp (fun r => ?_) fun _ => rfl
  cases r with
  | ok a => exact hf a
  | error e => trivial

theorem strict_ite {q : Pass I α} {P : Prop} [Decidable P] (hp : Strict K p) (hq : Strict K q) :
    Strict K (if P then p else q) := by
  by_cases h : P
  · rwa [if_pos h]
  · rwa [if_neg h]

theorem strict_allM {q : α → Pass I Bool} (hq : ∀ a, Strict K (q a)) (l : List α) :
    Strict K (l.allM q) := by
  induction l with
  | nil => exact strict_pure true
  | cons a l ih =>
    refine strict_bind (hq a) fun holds => ?_
    cases holds with
    | true => exact ih
    | false => exact strict_pure false

/-- A single call, whose answer is the result. -/
theorem strict_ask {f : I.Answer c → Except Error α} (hc : K c)
    (hf : ∀ answer e, failure? c answer = some e → f answer = .error e) :
    Strict K (ofScript (.ask c fun answer => .done (f answer))) :=
  ⟨hc, fun answer => ⟨fun e he => congrArg Script.done (hf answer e he), trivial⟩⟩

/-- A single call that cannot fail. -/
theorem strict_lift (hc : K c) (hf : ∀ answer, failure? c answer = none) :
    Strict K (ExceptT.lift (Script.call c) : Pass I (I.Answer c)) :=
  ⟨hc, fun answer => ⟨fun _ he => (nomatch (hf answer).symm.trans he), trivial⟩⟩

theorem strict_embed {e : Script.Embedding I J} {K : J.Call → Prop}
    (he : ∀ c answer, failure? (e.call c) answer = failure? c (e.answer c answer))
    (hp : Strict (fun c => K (e.call c)) p) : Strict K (p.embed e) := Script.strict_embed he hp

theorem Strict.pending (hp : Strict K p) (h : Pending env p w events c v) : K c :=
  (h.choose_spec.follows.strict hp).1.1

theorem Strict.keeps_pending (hp : Strict K p) (view : σ → τ)
    (hkeeps : ∀ c u answer u', K c → env c u answer u' → view u' = view u)
    (h : Pending env p w events c v) : view v = view w := h.choose_spec.keeps hp view hkeeps

theorem Strict.keeps_ended (hp : Strict K p) (view : σ → τ)
    (hkeeps : ∀ c u answer u', K c → env c u answer u' → view u' = view u) {r : Except Error α}
    (h : Ended env p w events r v) : view v = view w := Goes.keeps h hp view hkeeps

/-- What no call of these kinds changes a pass keeps, whatever comes of it. -/
theorem Strict.keeps (hp : Strict K p) (view : σ → τ)
    (hkeeps : ∀ c u answer u', K c → env c u answer u' → view u' = view u) :
    Keeps env view p := fun _ _ _ h =>
  h.exists_goes.elim fun _ hgoes => hp.keeps_ended view hkeeps hgoes

end Pass

end GridOperator
