import GridOperator.Json.Basic
import GridOperator.Text.Digits

/-!
# Reading JSON text

`Json.parse?` reads one value with nothing but blanks around it. Objects keep
repeated members, so that a reader of records can refuse them. A text that is
well formed but has no value becomes `Json.unreadable`, which a reader of records
only refuses where it needs one.
-/

namespace GridOperator.Json

namespace Reader

open Text

def isSpace (c : Char) : Bool := c == ' ' || c == '\n' || c == '\t' || c == '\r'

def skipSpace (cs : List Char) : List Char := cs.dropWhile isSpace

/-! ## Strings -/

def isHighSurrogate (u : Nat) : Bool := 0xd800 ≤ u && u < 0xdc00

def isLowSurrogate (u : Nat) : Bool := 0xdc00 ≤ u && u < 0xe000

/-- The character that a letter after a backslash stands for. -/
def escaped? : Char → Option Char
  | '"' => some '"'
  | '\\' => some '\\'
  | '/' => some '/'
  | 'b' => some '\x08'
  | 'f' => some '\x0c'
  | 'n' => some '\n'
  | 'r' => some '\r'
  | 't' => some '\t'
  | _ => none

/-- Puts a character in front of a string that may be unreadable. -/
def put (c : Char) (p : Option (List Char) × List Char) : Option (List Char) × List Char :=
  (p.1.map (c :: ·), p.2)

/-- The characters of a string up to its closing quote, and the text after it. A string that has a
surrogate other than as half of a pair has no characters, but it does have an end. -/
def stringBody : List Char → Option (Option (List Char) × List Char)
  | [] => none
  | '"' :: r => some (some [], r)
  | '\\' :: 'u' :: a :: b :: c :: d :: r =>
    match inBase? 16 [a, b, c, d] with
    | none => none
    | some u =>
      if isLowSurrogate u then (stringBody r).map fun p => (none, p.2)
      else if isHighSurrogate u then
        match r with
        | '\\' :: 'u' :: e :: f :: g :: h :: r' =>
          match inBase? 16 [e, f, g, h] with
          | none => none
          | some v =>
            if isLowSurrogate v then
              (stringBody r').map (put (Char.ofNat (0x10000 + (u - 0xd800) * 0x400 + (v - 0xdc00))))
            else (stringBody r').map fun p => (none, p.2)
        | r => (stringBody r).map fun p => (none, p.2)
      else (stringBody r).map (put (Char.ofNat u))
  | '\\' :: e :: r =>
    match escaped? e with
    | some c => (stringBody r).map (put c)
    | none => none
  | c :: r => if c.toNat < 0x20 then none else (stringBody r).map (put c)

/-- A string that has been read as a value. -/
def textOf : Option (List Char) → Json
  | some cs => .str (String.ofList cs)
  | none => .unreadable

/-! ## Numbers -/

/-- Digits, at least one, and what follows them. -/
def digits? (cs : List Char) : Option (List Char × List Char) :=
  let ds := cs.takeWhile Char.isDigit
  if ds.isEmpty then none else some (ds, cs.dropWhile Char.isDigit)

/-- The digits before the point: a zero alone, or digits that start with another one. -/
def whole? : List Char → Option (List Char × List Char)
  | '0' :: r => some (['0'], r)
  | cs => digits? cs

/-- The digits after the point, if there is one. -/
def fraction? : List Char → Option (List Char × List Char)
  | '.' :: r => digits? r
  | r => some ([], r)

/-- The power of ten after the mark of one, if there is one. -/
def exponent? : List Char → Option (Option Int × List Char)
  | e :: r =>
    if e = 'e' ∨ e = 'E' then
      match r with
      | '+' :: r => (digits? r).map fun p => (some (decimal p.1 : Int), p.2)
      | '-' :: r => (digits? r).map fun p => (some (-(decimal p.1 : Int)), p.2)
      | r => (digits? r).map fun p => (some (decimal p.1 : Int), p.2)
    else some (none, e :: r)
  | [] => some (none, [])

/-- Appends digits to a number while it stays below `2 ^ 64`. Gives the number and how many digits
are left over. -/
def gather : Nat → List Char → Nat × Nat
  | n, [] => (n, 0)
  | n, d :: ds =>
    let m := n * 10 + (d.toNat - 48)
    if m < 0x10000000000000000 then gather m ds else (n, ds.length + 1)

/-- The value of a number that is no integer, or too large a one. Digits that do not fit into 64
bits are left out, those of the fraction also where they leave no mark. -/
def realOf (negative : Bool) (whole fraction : List Char) (exponent : Int) : Json :=
  let (n, beyond) := gather 0 whole
  let (n, unused) := gather n fraction
  let used : Int := fraction.length - unused
  match (Binary64.ofNat? n).bind (·.timesTenTo? (exponent + beyond - used)) with
  | some x => .real { x with negative }
  | none => .unreadable

/-- The value of a number's spelling. Minus zero is not an integer. -/
def numberOf (negative : Bool) (whole fraction : List Char) (exponent : Option Int) : Json :=
  let n := decimal whole
  if fraction.isEmpty && exponent.isNone && !negative && n < 0x10000000000000000 then .int n
  else if fraction.isEmpty && exponent.isNone && negative && 0 < n && n ≤ 0x8000000000000000 then
    .int (-n)
  else realOf negative whole fraction (exponent.getD 0)

def number? (cs : List Char) : Option (Json × List Char) := do
  let (negative, cs) := match cs with
    | '-' :: r => (true, r)
    | r => (false, r)
  let (w, r) ← whole? cs
  let (f, r) ← fraction? r
  let (e, r) ← exponent? r
  return (numberOf negative w f e, r)

/-! ## Values -/

/-- How many lists and objects may stand one inside the other. -/
def deepest : Nat := 127

/-- A list or object inside `level` others, which is unreadable if they are too many. -/
def atLevel (level : Nat) (j : Json) : Json := if level < deepest then j else .unreadable

/-- An object whose members have been read; a name that is unreadable makes it so. -/
def objectOf (ms : List (Option (List Char) × Json)) : Json :=
  match ms.mapM fun m => m.1.map fun k => (String.ofList k, m.2) with
  | some ms => .obj ms
  | none => .unreadable

mutual

/-- A value inside `level` lists and objects, and the text after it. -/
def value : Nat → Nat → List Char → Option (Json × List Char)
  | 0, _, _ => none
  | fuel + 1, level, cs =>
    match skipSpace cs with
    | '"' :: r => (stringBody r).map fun p => (textOf p.1, p.2)
    | '[' :: r =>
      match skipSpace r with
      | ']' :: r => some (atLevel level (.arr []), r)
      | r => (items fuel (level + 1) r).map fun p => (atLevel level (.arr p.1), p.2)
    | '{' :: r =>
      match skipSpace r with
      | '}' :: r => some (atLevel level (.obj []), r)
      | r => (membersFrom fuel (level + 1) r).map fun p => (atLevel level (objectOf p.1), p.2)
    | 'n' :: 'u' :: 'l' :: 'l' :: r => some (.null, r)
    | 't' :: 'r' :: 'u' :: 'e' :: r => some (.bool true, r)
    | 'f' :: 'a' :: 'l' :: 's' :: 'e' :: r => some (.bool false, r)
    | r => number? r

/-- The items of an array that has one, up to its closing bracket. -/
def items : Nat → Nat → List Char → Option (List Json × List Char)
  | 0, _, _ => none
  | fuel + 1, level, cs =>
    match value fuel level cs with
    | none => none
    | some (x, r) =>
      match skipSpace r with
      | ']' :: r => some ([x], r)
      | ',' :: r => (items fuel level r).map fun p => (x :: p.1, p.2)
      | _ => none

/-- The members of an object that has one, up to its closing brace. -/
def membersFrom : Nat → Nat → List Char →
    Option (List (Option (List Char) × Json) × List Char)
  | 0, _, _ => none
  | fuel + 1, level, cs =>
    match skipSpace cs with
    | '"' :: r =>
      match stringBody r with
      | none => none
      | some (k, r) =>
        match skipSpace r with
        | ':' :: r =>
          match value fuel level r with
          | none => none
          | some (x, r) =>
            match skipSpace r with
            | '}' :: r => some ([(k, x)], r)
            | ',' :: r => (membersFrom fuel level r).map fun p => ((k, x) :: p.1, p.2)
            | _ => none
        | _ => none
    | _ => none

end

end Reader

/-- The value that `text` spells, if it spells one and nothing else. Each level of nesting and
each element takes a character at least, so the fuel is never the reason for a refusal. -/
def parse? (text : String) : Option Json :=
  let cs := text.toList
  match Reader.value (2 * cs.length + 2) 0 cs with
  | some (j, r) => if (Reader.skipSpace r).isEmpty then some j else none
  | none => none

end GridOperator.Json
