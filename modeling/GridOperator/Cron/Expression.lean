import GridOperator.Cron.Schedule
import GridOperator.Text.Digits
import GridOperator.Text.Split

/-!
# Schedule expressions

Six or seven fields: second, minute, hour, day of the month, month, day of the
week and, if given, year; or one of five descriptors (`@daily`, …). A field is a
list of items: `*`, a value, a range `a-b`, any of these with a step, or a name
in the fields that have names. `?` stands for `*` in the two day fields.
-/

namespace GridOperator.Cron

open Text

/-! ## Fields -/

/-- A part of a date or a time: the range of its values and their names. -/
structure Part where
  lo : Nat
  hi : Nat
  names : List (String × Nat) := []
  /-- Whether `?` may stand for every value. -/
  anyMark : Bool := false

namespace Part

def second : Part := ⟨0, 59, [], false⟩
def minute : Part := ⟨0, 59, [], false⟩
def hour : Part := ⟨0, 23, [], false⟩
def dayOfMonth : Part := ⟨1, 31, [], true⟩
def year : Part := ⟨1970, 2100, [], false⟩

def month : Part where
  lo := 1
  hi := 12
  names := [("jan", 1), ("january", 1), ("feb", 2), ("february", 2), ("mar", 3), ("march", 3),
    ("apr", 4), ("april", 4), ("may", 5), ("jun", 6), ("june", 6), ("jul", 7), ("july", 7),
    ("aug", 8), ("august", 8), ("sep", 9), ("september", 9), ("oct", 10), ("october", 10),
    ("nov", 11), ("november", 11), ("dec", 12), ("december", 12)]

def dayOfWeek : Part where
  lo := 1
  hi := 7
  names := [("sun", 1), ("sunday", 1), ("mon", 2), ("monday", 2), ("tue", 3), ("tues", 3),
    ("tuesday", 3), ("wed", 4), ("wednesday", 4), ("thu", 5), ("thurs", 5), ("thursday", 5),
    ("fri", 6), ("friday", 6), ("sat", 7), ("saturday", 7)]
  anyMark := true

def named? (p : Part) (name : List Char) : Option Nat :=
  p.names.lookup (asciiLower (String.ofList name))

end Part

/-- The values an item starts from. -/
inductive Base where
  | all
  | point (n : Nat)
  | range (a b : Nat)
  | namedRange (a b : List Char)

inductive Item where
  | plain (base : Base)
  | stepped (base : Base) (step : Nat)
  | named (name : List Char)

/-- The numbers from `a` to `b`, both included. -/
def upTo (a b : Nat) : List Nat := List.range' a (b + 1 - a)

/-- Every `step`-th of the numbers from `a` to `b`, starting with `a`. -/
def everyUpTo (a b step : Nat) : List Nat := (upTo a b).filter fun n => (n - a) % step == 0

/-- First and last value; `none` when one is outside the part or they descend. -/
def Base.bounds? (p : Part) (b : Base) : Option (Nat × Nat) :=
  match b with
  | .all => some (p.lo, p.hi)
  | .point n => if p.lo ≤ n ∧ n ≤ p.hi then some (n, n) else none
  | .range a b => if p.lo ≤ a ∧ a ≤ b ∧ b ≤ p.hi then some (a, b) else none
  | .namedRange a b => do
    let a ← p.named? a
    let b ← p.named? b
    if a ≤ b then some (a, b) else none

/-- The values of an item. A step after a single value runs to the end of the part. -/
def Item.values? (p : Part) (i : Item) : Option (List Nat) :=
  match i with
  | .plain base => (base.bounds? p).map fun (a, b) => upTo a b
  | .stepped base step =>
    if step = 0 ∨ p.hi < step then none
    else (base.bounds? p).map fun (a, b) =>
      match base with
      | .point _ => everyUpTo a p.hi step
      | _ => everyUpTo a b step
  | .named name => (p.named? name).map fun n => [n]

/-- The values that some item of a field has, in increasing order. -/
def fieldValues? (p : Part) (items : List Item) : Option (List Nat) :=
  (items.mapM (Item.values? p)).map fun vs => (upTo p.lo p.hi).filter fun n => vs.any (n ∈ ·)

/-! ## Text -/

namespace Expression

/-- Reads something from the front of a text. -/
abbrev Reader (α : Type) := List Char → Option (α × List Char)

def isSpace (c : Char) : Bool := c == ' ' || c == '\t' || c == '\r' || c == '\n'

def skipSpace (cs : List Char) : List Char := cs.dropWhile isSpace

/-- A run of characters of a class, at least one, with blanks around it. -/
def run? (p : Char → Bool) : Reader (List Char) := fun cs =>
  let cs := skipSpace cs
  let w := cs.takeWhile p
  if w.isEmpty then none else some (w, skipSpace (cs.dropWhile p))

/-- A number that fits 32 bits. -/
def ordinal? : Reader Nat := fun cs =>
  match run? Char.isDigit cs with
  | some (ds, cs) => if decimal ds < UInt32.size then some (decimal ds, cs) else none
  | none => none

def name? : Reader (List Char) := run? Char.isAlpha

/-- Two things with a character between them. -/
def pair? (first : Reader α) (sep : Char) (second : Reader β) : Reader (α × β) := fun cs =>
  match first cs with
  | some (a, c :: cs) => if c = sep then (second cs).map fun (b, cs) => ((a, b), cs) else none
  | _ => none

def base? (anyMark : Bool) : Reader Base := fun cs =>
  match cs with
  | '*' :: r => some (.all, r)
  | '?' :: r => if anyMark then some (.all, r) else none
  | cs =>
    ((pair? ordinal? '-' ordinal? cs).map fun ((a, b), r) => (Base.range a b, r))
      <|> ((ordinal? cs).map fun (n, r) => (Base.point n, r))
      <|> ((pair? name? '-' name? cs).map fun ((a, b), r) => (Base.namedRange a b, r))

def item? (anyMark : Bool) : Reader Item := fun cs =>
  ((pair? (base? anyMark) '/' ordinal? cs).map fun ((b, n), r) => (Item.stepped b n, r))
    <|> ((base? anyMark cs).map fun (b, r) => (Item.plain b, r))
    <|> ((name? cs).map fun (w, r) => (Item.named w, r))

/-- The items after the first one; a comma that no item follows is left. -/
def moreItems (anyMark : Bool) : Nat → List Char → List Item × List Char
  | 0, cs => ([], cs)
  | fuel + 1, cs =>
    match cs with
    | ',' :: r =>
      match item? anyMark r with
      | some (i, r) => let (is, r) := moreItems anyMark fuel r; (i :: is, r)
      | none => ([], cs)
    | cs => ([], cs)

/-- The values of a field, with the blanks around it. -/
def field? (p : Part) : Reader (List Nat) := fun cs => do
  let (i, r) ← item? p.anyMark (skipSpace cs)
  let (is, r) := moreItems p.anyMark r.length r
  return (← fieldValues? p (i :: is), skipSpace r)

def everyYear : List Nat := upTo Part.year.lo Part.year.hi

def fields? (cs : List Char) : Option Schedule := do
  let (seconds, cs) ← field? .second cs
  let (minutes, cs) ← field? .minute cs
  let (hours, cs) ← field? .hour cs
  let (daysOfMonth, cs) ← field? .dayOfMonth cs
  let (months, cs) ← field? .month cs
  let (daysOfWeek, cs) ← field? .dayOfWeek cs
  if cs.isEmpty then
    return ⟨seconds, minutes, hours, daysOfMonth, months, daysOfWeek, everyYear⟩
  let (years, cs) ← field? .year cs
  guard cs.isEmpty
  return ⟨seconds, minutes, hours, daysOfMonth, months, daysOfWeek, years⟩

/-- A schedule at midnight, or at every full hour, of certain days. -/
def atMidnight (hours daysOfMonth months daysOfWeek : List Nat) : Schedule :=
  ⟨[0], [0], hours, daysOfMonth, months, daysOfWeek, everyYear⟩

def descriptors : List (String × Schedule) :=
  [("@yearly", atMidnight [0] [1] [1] (upTo 1 7)),
    ("@monthly", atMidnight [0] [1] (upTo 1 12) (upTo 1 7)),
    ("@weekly", atMidnight [0] (upTo 1 31) (upTo 1 12) [1]),
    ("@daily", atMidnight [0] (upTo 1 31) (upTo 1 12) (upTo 1 7)),
    ("@hourly", atMidnight (upTo 0 23) (upTo 1 31) (upTo 1 12) (upTo 1 7))]

end Expression

/-- The schedule an expression means. -/
def Schedule.parse? (expr : String) : Option Schedule :=
  Expression.descriptors.lookup expr <|> Expression.fields? expr.toList

end GridOperator.Cron
