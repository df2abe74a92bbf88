import GridOperator.Number.Binary64
import GridOperator.Table

/-!
# JSON values

`Json` keeps what the documents of this library can differ in: the order and
the repetitions of an object's members, and whether a number was written as an
integer of the 64-bit ranges (`int`) or in any other way (`real`). Objects that
mean a map are kept in the order of their keys (`Members.sort`).

A document may hold values that nothing can be made of, as long as nobody asks
for them; they are `unreadable`.
-/

namespace GridOperator

/-- A JSON value. -/
inductive Json where
  | null
  | bool (value : Bool)
  /-- A number written without fraction and exponent, from `-2^63` to `2^64 - 1`. -/
  | int (value : Int)
  /-- Any other number. -/
  | real (value : Binary64)
  | str (value : String)
  | arr (items : List Json)
  | obj (members : List (String × Json))
  /-- A text with half of a surrogate pair, an object with such a name, a number beyond the greatest
  one, or a list or object inside too many others. -/
  | unreadable
  deriving Inhabited

/-- The members of an object, in order and with repetitions. -/
abbrev Members := List (String × Json)

/-! ## Equality -/

namespace Json

mutual

def beq : Json → Json → Bool
  | .null, .null => true
  | .bool a, .bool b => a == b
  | .int a, .int b => a == b
  | .real a, .real b => a == b
  | .str a, .str b => a == b
  | .arr xs, .arr ys => beqItems xs ys
  | .obj xs, .obj ys => beqMembers xs ys
  | .unreadable, .unreadable => true
  | _, _ => false

def beqItems : List Json → List Json → Bool
  | [], [] => true
  | x :: xs, y :: ys => beq x y && beqItems xs ys
  | _, _ => false

def beqMembers : List (String × Json) → List (String × Json) → Bool
  | [], [] => true
  | (k, x) :: xs, (l, y) :: ys => k == l && beq x y && beqMembers xs ys
  | _, _ => false

end

instance : BEq Json := ⟨beq⟩

mutual

theorem eq_of_beq : ∀ {a b : Json}, beq a b = true → a = b
  | .null, b, h => by cases b <;> simp_all [beq]
  | .bool _, b, h => by cases b <;> simp_all [beq]
  | .int _, b, h => by cases b <;> simp_all [beq]
  | .real _, b, h => by cases b <;> simp_all [beq]
  | .str _, b, h => by cases b <;> simp_all [beq]
  | .arr xs, b, h => by
    cases b <;> simp only [beq, Bool.false_eq_true] at h
    rw [eqItems_of_beq h]
  | .obj xs, b, h => by
    cases b <;> simp only [beq, Bool.false_eq_true] at h
    rw [eqMembers_of_beq h]
  | .unreadable, b, h => by cases b <;> simp_all [beq]

theorem eqItems_of_beq : ∀ {xs ys : List Json}, beqItems xs ys = true → xs = ys
  | [], [], _ => rfl
  | x :: xs, y :: ys, h => by
    simp only [beqItems, Bool.and_eq_true] at h
    rw [eq_of_beq h.1, eqItems_of_beq h.2]
  | [], _ :: _, h => by simp [beqItems] at h
  | _ :: _, [], h => by simp [beqItems] at h

theorem eqMembers_of_beq :
    ∀ {xs ys : List (String × Json)}, beqMembers xs ys = true → xs = ys
  | [], [], _ => rfl
  | (k, x) :: xs, (l, y) :: ys, h => by
    simp only [beqMembers, Bool.and_eq_true, beq_iff_eq] at h
    rw [h.1.1, eq_of_beq h.1.2, eqMembers_of_beq h.2]
  | [], _ :: _, h => by simp [beqMembers] at h
  | _ :: _, [], h => by simp [beqMembers] at h

end

mutual

theorem beq_refl : ∀ a : Json, beq a a = true
  | .null => rfl
  | .bool _ => by simp [beq]
  | .int _ => by simp [beq]
  | .real _ => by simp [beq]
  | .str _ => by simp [beq]
  | .arr xs => by simp only [beq, beqItems_refl xs]
  | .obj xs => by simp only [beq, beqMembers_refl xs]
  | .unreadable => rfl

theorem beqItems_refl : ∀ xs : List Json, beqItems xs xs = true
  | [] => rfl
  | x :: xs => by simp only [beqItems, beq_refl x, beqItems_refl xs, Bool.and_self]

theorem beqMembers_refl : ∀ xs : List (String × Json), beqMembers xs xs = true
  | [] => rfl
  | (k, x) :: xs => by
    simp only [beqMembers, beq_refl x, beqMembers_refl xs, BEq.rfl, Bool.and_self]

end

instance : LawfulBEq Json where
  eq_of_beq := eq_of_beq
  rfl := beq_refl _

instance : DecidableEq Json := fun a b =>
  if h : beq a b = true then .isTrue (eq_of_beq h)
  else .isFalse fun e => h (e ▸ beq_refl a)

end Json

/-! ## Members -/

namespace Members

/-- The value of the last member called `name`. -/
def get? (ms : Members) (name : String) : Option Json :=
  (ms.reverse.find? (·.1 == name)).map (·.2)

/-- The members whose names are not among `names`. -/
def without (ms : Members) (names : List String) : Members :=
  ms.filter fun m => !names.contains m.1

/-- Sets `name`, replacing the member of that name where it stands. -/
def set (name : String) (value : Json) : Members → Members
  | [] => [(name, value)]
  | m :: ms => if m.1 = name then (name, value) :: ms else m :: set name value ms

/-- The members in the order of their names, the last one of each name. -/
def sort (ms : Members) : Members := Table.ofEntries ms

end Members

namespace Json

/-- The members of an object; none for any other value. -/
def members : Json → Members
  | .obj ms => ms
  | _ => []

/-- The items of an array; none for any other value. -/
def items : Json → List Json
  | .arr xs => xs
  | _ => []

/-- The member called `name`, the last one if it is repeated. -/
def get? (j : Json) (name : String) : Option Json := j.members.get? name

def str? : Json → Option String
  | .str s => some s
  | _ => none

def int? : Json → Option Int
  | .int n => some n
  | _ => none

def bool? : Json → Option Bool
  | .bool b => some b
  | _ => none

def isNull : Json → Bool
  | .null => true
  | _ => false

/-- The object with the given members, less those without a value. -/
def ofSome (ms : List (String × Option Json)) : Members :=
  ms.filterMap fun (k, v) => v.map (k, ·)

def ofOption (f : α → Json) : Option α → Json
  | none => .null
  | some a => f a

def ofList (f : α → Json) (xs : List α) : Json := .arr (xs.map f)

def strings (xs : List String) : Json := ofList .str xs

end Json

end GridOperator
