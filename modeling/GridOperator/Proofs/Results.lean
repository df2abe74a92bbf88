import Mathlib.Data.List.Basic

/-!
# Lists that are read one by one, and steps that may fail

What is known of the values of a list where some may be missing, of conditions on each of its
elements, and of results that may be an error.
-/

variable {α β ε : Type}

namespace List

variable {f : α → Option β} {a : α} {l : List α} {bs : List β}

theorem mapM_cons_eq_some_iff : (a :: l).mapM f = some bs ↔
    ∃ b rest, f a = some b ∧ l.mapM f = some rest ∧ bs = b :: rest := by
  rw [mapM_cons]
  cases f a with
  | none => simp
  | some b => cases l.mapM f <;> simp [eq_comm]

theorem length_of_mapM_eq_some (h : l.mapM f = some bs) : bs.length = l.length := by
  induction l generalizing bs with
  | nil =>
    obtain rfl := Option.some.inj h
    rfl
  | cons a l ih =>
    obtain ⟨b, rest, -, hrest, rfl⟩ := mapM_cons_eq_some_iff.1 h
    rw [length_cons, length_cons, ih hrest]

/-- A function that gives a value for each element gives one for the list. -/
theorem mapM_eq_some_map {g : α → β} (h : ∀ a ∈ l, f a = some (g a)) :
    l.mapM f = some (l.map g) := by
  induction l with
  | nil => rfl
  | cons a l ih =>
    obtain ⟨ha, hl⟩ := forall_mem_cons.1 h
    exact mapM_cons_eq_some_iff.2 ⟨g a, l.map g, ha, ih hl, rfl⟩

theorem run_allM_cons (p : α → Id Bool) (a : α) (l : List α) :
    ((a :: l).allM p).run = ((p a).run && (l.allM p).run) := by
  rw [allM]
  generalize p a = b
  cases b <;> rfl

theorem run_allM_iff {p : α → Id Bool} : (l.allM p).run ↔ ∀ a ∈ l, (p a).run := by
  induction l with
  | nil => exact iff_of_true rfl fun _ ha => absurd ha not_mem_nil
  | cons a l ih => rw [run_allM_cons, Bool.and_eq_true, ih, forall_mem_cons]

end List

namespace Except

theorem exists_of_bind_eq_ok {x : Except ε α} {f : α → Except ε β} {b : β}
    (h : x >>= f = .ok b) : ∃ a, x = .ok a ∧ f a = .ok b := by
  cases x with
  | error e => cases h
  | ok a => exact ⟨a, rfl, h⟩

theorem map_eq_error_iff {f : α → β} {x : Except ε α} {e : ε} :
    x.map f = .error e ↔ x = .error e := by
  cases x <;> simp [Except.map]

end Except
