import GridOperator.Text.Digits

/-!
# How a text is written

A text is written plainly if it would be read back as the same text. `resolves`
tells that a plain text would be read as something else, null, a truth value or a
number; `Traits` is what its characters rule out; `style` decides.
-/

namespace GridOperator.Yaml

open Text

/-! ## Plain texts that mean something else -/

def meansNull (s : String) : Bool := ["", "~", "null", "Null", "NULL"].contains s

def meansFlag (s : String) : Bool :=
  ["true", "True", "TRUE", "false", "False", "FALSE"].contains s

/-- The value of a run of at least one digit. -/
def digits? (base : Nat) (cs : List Char) : Option Nat :=
  if cs.isEmpty then none else inBase? base cs

/-- Digits after one of the marks of a base, or decimal ones. -/
def magnitude? : List Char → Option Nat
  | '0' :: 'x' :: ds => digits? 16 ds
  | '0' :: 'o' :: ds => digits? 8 ds
  | '0' :: 'b' :: ds => digits? 2 ds
  | ds => digits? 10 ds

/-- Two or more decimal digits that begin with a zero, which mean a text. -/
def isZeroed (cs : List Char) : Bool :=
  let ds := match cs with
    | '-' :: ds | '+' :: ds => ds
    | ds => ds
  1 < ds.length && ds.head? == some '0' && ds.all Char.isDigit

/-- An integer that fits into 128 bits. -/
def meansInteger (cs : List Char) : Bool :=
  !isZeroed cs && match cs with
    | '-' :: ds => (magnitude? ds).any (· ≤ Nat.pow 2 127)
    | '+' :: ds => (magnitude? ds).any (· < Nat.pow 2 128)
    | ds => (magnitude? ds).any (· < Nat.pow 2 128)

/-- Whether `m * 10 ^ e` is nearer to a number of double precision than to infinity. -/
def isFinite (m : Nat) (e : Int) : Bool :=
  let width := (toString m).length
  if m = 0 ∨ e + width ≤ 308 then true
  else if 310 ≤ e + width then false
  else
    let limit := Nat.pow 2 1024 - Nat.pow 2 970
    if 0 ≤ e then m * Nat.pow 10 e.toNat < limit else m < limit * Nat.pow 10 (-e).toNat

/-- The exponent of a decimal number, and whether the rest is well formed. -/
def exponent? : List Char → Option Int
  | [] => some 0
  | c :: cs =>
    if c = 'e' ∨ c = 'E' then
      match cs with
      | '-' :: ds => (digits? 10 ds).map fun n => -(n : Int)
      | '+' :: ds => (digits? 10 ds).map fun n => (n : Int)
      | ds => (digits? 10 ds).map fun n => (n : Int)
    else none

/-- A decimal number that is finite in double precision, its sign left out. -/
def isDecimal (cs : List Char) : Bool :=
  let whole := cs.takeWhile Char.isDigit
  let (fraction, rest) := match cs.dropWhile Char.isDigit with
    | '.' :: r => (r.takeWhile Char.isDigit, r.dropWhile Char.isDigit)
    | r => ([], r)
  !(whole ++ fraction).isEmpty &&
    (exponent? rest).any fun e => isFinite (decimal (whole ++ fraction)) (e - fraction.length)

def isInfinite (s : String) : Bool := [".inf", ".Inf", ".INF"].contains s

def meansDecimal (s : String) : Bool :=
  [".nan", ".NaN", ".NAN"].contains s || match s.toList with
    | '-' :: cs => isInfinite (String.ofList cs) || isDecimal cs
    | '+' :: cs => isInfinite (String.ofList cs) || isDecimal cs
    | cs => isInfinite s || isDecimal cs

/-- Whether a plain text would not be read as a text, or not by every reader. -/
def resolves (s : String) : Bool :=
  meansNull s || meansFlag s || meansInteger s.toList || isZeroed s.toList || meansDecimal s

/-! ## What the characters of a text rule out -/

def isBreak (c : Char) : Bool :=
  c == '\n' || c == '\r' || c.toNat == 0x85 || c.toNat == 0x2028 || c.toNat == 0x2029

/-- The characters that can stand for themselves, breaks of lines apart. All of those beyond the
first plane can, also the unassigned ones. -/
def isPrintable (c : Char) : Bool :=
  let n := c.toNat
  n == 0x0a || (0x20 ≤ n && n ≤ 0x7e) || (0xa0 ≤ n && n ≤ 0xfffd && n != 0xfeff) || 0x10000 ≤ n

/-- A blank, a break or the end of the text. -/
def endsWord : Option Char → Bool
  | none => true
  | some c => c == ' ' || c == '\t' || isBreak c

/-- Whether a character at the place between `before` and `after` has a meaning of its own. -/
def isIndicator (before : Option Char) (c : Char) (after : Option Char) : Bool :=
  if before.isNone then
    "#,[]\x7b\x7d&*!|>'\"%@`".toList.contains c
      || ((c == '?' || c == ':' || c == '-') && endsWord after)
  else (c == ':' && endsWord after) || (c == '#' && endsWord before)

/-- Whether some character of the rest of a text has a meaning of its own. -/
def hasIndicator (before : Option Char) : List Char → Bool
  | [] => false
  | c :: cs => isIndicator before c cs.head? || hasIndicator (some c) cs

/-- Whether two neighbours satisfy `p` and `q`. -/
def adjacent (p q : Char → Bool) : List Char → Bool
  | c :: d :: cs => (p c && q d) || adjacent p q (d :: cs)
  | _ => false

structure Traits where
  multiline : Bool
  plain : Bool
  singleQuoted : Bool
  literal : Bool

def Traits.of (cs : List Char) : Traits :=
  if cs.isEmpty then ⟨false, true, true, false⟩
  else
    let space := (· == ' ')
    let special := cs.any (!isPrintable ·)
    let multiline := cs.any isBreak
    let endBlank (c? : Option Char) := c?.any fun c => space c || isBreak c
    let breakSpace := adjacent isBreak space cs
    let spaceBreak := adjacent space isBreak cs
    let marked := ['-', '-', '-'].isPrefixOf cs || ['.', '.', '.'].isPrefixOf cs
    let quotable := !(breakSpace || spaceBreak || special)
    { multiline
      plain := quotable && !multiline && !endBlank cs.head? && !endBlank cs.getLast?
        && !marked && !hasIndicator none cs
      singleQuoted := quotable
      literal := !(cs.getLast?.any space || spaceBreak || special) }

inductive Style where
  | plain
  | singleQuoted
  | doubleQuoted
  | literal
  deriving DecidableEq

/-- A text of several lines is written line by line and any other one plainly, if that is possible
and means the same; in single quotes, if that does not; and in double quotes otherwise. -/
def style (s : String) (isKey : Bool) : Style :=
  let cs := s.toList
  let traits := Traits.of cs
  if cs.contains '\n' then
    if traits.literal && !isKey then .literal else .doubleQuoted
  else if traits.plain && !resolves s then .plain
  else if traits.singleQuoted && !(isKey && traits.multiline) then .singleQuoted
  else .doubleQuoted

end GridOperator.Yaml
