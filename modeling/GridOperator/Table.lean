/-!
# Tables

Entries in increasing order of their keys, each key once. `get?_set_self` and
`get?_set_of_ne` say what setting an entry does to the others.
-/

namespace GridOperator

/-- Entries in increasing order of their keys. -/
abbrev Table (κ α : Type) := List (κ × α)

namespace Table

variable {κ α : Type} [DecidableEq κ]

/-- The value at a key. -/
def get? (key : κ) : Table κ α → Option α
  | [] => none
  | e :: es => if e.1 = key then some e.2 else get? key es

def contains (key : κ) (t : Table κ α) : Bool := (get? key t).isSome

def erase (key : κ) (t : Table κ α) : Table κ α := t.filter fun e => e.1 ≠ key

variable [LT κ] [DecidableLT κ]

/-- Sets the value at a key, which takes its place in the order. -/
def set (key : κ) (value : α) : Table κ α → Table κ α
  | [] => [(key, value)]
  | e :: es =>
    if e.1 = key then (key, value) :: es
    else if key < e.1 then (key, value) :: e :: es
    else e :: set key value es

/-- The table of the given entries; of a repeated key the last value stands. -/
def ofEntries (es : List (κ × α)) : Table κ α :=
  es.foldl (fun t e => set e.1 e.2 t) []

omit [LT κ] [DecidableLT κ] in
@[simp] theorem get?_nil (key : κ) : get? key ([] : Table κ α) = none := rfl

@[simp] theorem get?_set_self (key : κ) (value : α) (t : Table κ α) :
    get? key (set key value t) = some value := by
  induction t with
  | nil => simp [set, get?]
  | cons e es ih =>
    unfold set
    split
    · simp [get?]
    · split
      · simp [get?]
      · simp_all [get?]

theorem get?_set_of_ne {key other : κ} (h : other ≠ key) (value : α) (t : Table κ α) :
    get? other (set key value t) = get? other t := by
  induction t with
  | nil => simp [set, get?, h.symm]
  | cons e es ih =>
    unfold set
    split
    · rename_i he
      simp [get?, he, h.symm]
    · split
      · simp [get?, h.symm]
      · simp [get?, ih]

/-- The value that is set last stands. -/
@[simp] theorem set_set (key : κ) (value other : α) (t : Table κ α) :
    set key value (set key other t) = set key value t := by
  induction t with
  | nil => simp [set]
  | cons e es ih => by_cases h : e.1 = key <;> by_cases hlt : key < e.1 <;> simp [set, h, hlt, ih]

omit [LT κ] [DecidableLT κ] in
@[simp] theorem get?_erase_self (key : κ) (t : Table κ α) : get? key (erase key t) = none := by
  induction t with
  | nil => rfl
  | cons e es ih => by_cases h : e.1 = key <;> simp_all [erase, get?]

omit [LT κ] [DecidableLT κ] in
theorem erase_of_get?_eq_none {key : κ} {t : Table κ α} (h : get? key t = none) :
    erase key t = t := by
  induction t with
  | nil => rfl
  | cons e es ih =>
    unfold get? at h
    split at h
    · cases h
    · rename_i he
      rw [erase, List.filter_cons_of_pos (by simpa using he)]
      exact congrArg (e :: ·) (ih h)

omit [LT κ] [DecidableLT κ] in
theorem get?_erase_of_ne {key other : κ} (h : other ≠ key) (t : Table κ α) :
    get? other (erase key t) = get? other t := by
  induction t with
  | nil => rfl
  | cons e es ih =>
    by_cases he : e.1 = key
    · simp_all [erase, get?, h.symm]
    · simp_all [erase, get?]

end Table

end GridOperator
