import GridOperator.Error

/-!
# Scripts of calls

A pass of the operator talks to the world in calls: to the platform, to the
members, to its own tables. A `Script` is the tree of these calls, one branch for
each answer, so that a pass can be run against any world (`Script.run`), call by
call beside others, or over all answers at once (`Script.Always`).
-/

namespace GridOperator

/-- The calls that may be made, each with the type of its answers. -/
structure Interface where
  Call : Type
  Answer : Call → Type

inductive Script (I : Interface) (α : Type) where
  | done (result : α)
  | ask (call : I.Call) (next : I.Answer call → Script I α)

namespace Script

variable {I J : Interface} {α β γ : Type}

def bind (s : Script I α) (f : α → Script I β) : Script I β :=
  match s with
  | done a => f a
  | ask c next => ask c fun answer => (next answer).bind f

instance : Monad (Script I) where
  pure := done
  bind := bind

/-- A single call. -/
def call (c : I.Call) : Script I (I.Answer c) := ask c done

theorem bind_done (s : Script I α) : s.bind done = s := by
  induction s with
  | done => rfl
  | ask c next ih => exact congrArg (ask c) (funext ih)

theorem bind_assoc (s : Script I α) (f : α → Script I β) (g : β → Script I γ) :
    (s.bind f).bind g = s.bind fun a => (f a).bind g := by
  induction s with
  | done => rfl
  | ask c next ih => exact congrArg (ask c) (funext ih)

instance : LawfulMonad (Script I) :=
  LawfulMonad.mk' _ bind_done (fun _ _ => rfl) bind_assoc

/-! ## Running -/

/-- How a world `σ` answers calls, and what becomes of it. -/
abbrev Handler (I : Interface) (σ : Type) := (c : I.Call) → σ → I.Answer c × σ

/-- The result against a world, and the world afterwards. -/
def run (h : Handler I σ) : Script I α → σ → α × σ
  | done a, w => (a, w)
  | ask c next, w => (next (h c w).1).run h (h c w).2

@[simp] theorem run_done (h : Handler I σ) (a : α) (w : σ) : run h (done a) w = (a, w) := rfl

@[simp] theorem run_call (h : Handler I σ) (c : I.Call) (w : σ) : run h (call c) w = h c w := rfl

@[simp] theorem run_bind (h : Handler I σ) (s : Script I α) (f : α → Script I β) (w : σ) :
    run h (s.bind f) w = run h (f (run h s w).1) (run h s w).2 := by
  induction s generalizing w with
  | done => rfl
  | ask c next ih => exact ih (h c w).1 (h c w).2

/-- Whether `P` holds of the result whatever the answers are. -/
def Always (P : α → Prop) : Script I α → Prop
  | done a => P a
  | ask _ next => ∀ answer, Always P (next answer)

/-! ## Scripts inside scripts -/

/-- How the calls of one interface are made through another. -/
structure Embedding (I J : Interface) where
  call : I.Call → J.Call
  answer : (c : I.Call) → J.Answer (call c) → I.Answer c

/-- The script that makes its calls through another interface. -/
def embed (e : Embedding I J) : Script I α → Script J α
  | done a => done a
  | ask c next => ask (e.call c) fun answer => (next (e.answer c answer)).embed e

end Script

/-- A script that may end early with an error. -/
abbrev Pass (I : Interface) := ExceptT Error (Script I)

namespace Pass

variable {I J : Interface} {α : Type}

/-- A call that may fail. -/
def ofScript (s : Script I (Except Error α)) : Pass I α := ExceptT.mk s

/-- The outcome of a pass, which is then no reason to end. -/
def outcome (p : Pass I α) : Pass I (Except Error α) :=
  ExceptT.mk (ExceptT.run p >>= fun r => pure (.ok r))

def embed (e : Script.Embedding I J) (p : Pass I α) : Pass J α := ExceptT.mk (Script.embed e p.run)

def ofExcept (r : Except Error α) : Pass I α := ExceptT.mk (pure r)

end Pass

end GridOperator
