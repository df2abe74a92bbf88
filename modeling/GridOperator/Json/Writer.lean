import GridOperator.Json.Basic
import GridOperator.Number.Shortest
import GridOperator.Text.Digits

/-!
# Compact JSON text

No spaces; members in their order; in strings only the quote, the backslash and
the controls are escaped, the common ones by a letter. Numbers that are no
integers have the fewest digits that read back and a point or an exponent.
-/

namespace GridOperator.Json

open Text

def escapeChar (c : Char) : List Char :=
  match c with
  | '"' => ['\\', '"']
  | '\\' => ['\\', '\\']
  | '\n' => ['\\', 'n']
  | '\r' => ['\\', 'r']
  | '\t' => ['\\', 't']
  | '\x08' => ['\\', 'b']
  | '\x0c' => ['\\', 'f']
  | c => if c.toNat < 0x20 then ['\\', 'u'] ++ hexPadded 4 c.toNat else [c]

def stringChars (s : String) : List Char :=
  '"' :: s.toList.flatMap escapeChar ++ ['"']

/-- A number without its sign: digits and a point if the point is among the first sixteen digits or
at most five places before the first one, and otherwise one digit before the point and an exponent
with its sign. -/
def decimalChars (d : Decimal) : List Char :=
  let zeros (n : Int) := List.replicate n.toNat '0'
  let count : Int := d.digits.length
  if count ≤ d.point ∧ d.point ≤ 16 then d.digits ++ zeros (d.point - count) ++ ['.', '0']
  else if 0 < d.point ∧ d.point ≤ 16 then
    d.digits.take d.point.toNat ++ '.' :: d.digits.drop d.point.toNat
  else if -5 < d.point ∧ d.point ≤ 0 then '0' :: '.' :: (zeros (-d.point) ++ d.digits)
  else
    let fraction := d.digits.drop 1
    let exponent := d.point - 1
    d.digits.take 1 ++ (if fraction.isEmpty then [] else '.' :: fraction)
      ++ 'e' :: (if exponent < 0 then '-' else '+') :: (toString exponent.natAbs).toList

def realChars (x : Binary64) : List Char :=
  (if x.negative then ['-'] else [])
    ++ match x.shortest? with
      | some d => decimalChars d
      | none => ['0', '.', '0']

mutual

/-- The text of a value; an unreadable one, which documents that are written never hold, counts as
null. -/
def chars : Json → List Char
  | .null | .unreadable => ['n', 'u', 'l', 'l']
  | .bool true => ['t', 'r', 'u', 'e']
  | .bool false => ['f', 'a', 'l', 's', 'e']
  | .int n => (toString n).toList
  | .real x => realChars x
  | .str s => stringChars s
  | .arr [] => ['[', ']']
  | .arr (x :: xs) => '[' :: (chars x ++ itemsChars xs)
  | .obj [] => ['{', '}']
  | .obj ((k, x) :: ms) => '{' :: (stringChars k ++ ':' :: (chars x ++ membersChars ms))

/-- The items after the first one, and the closing bracket. -/
def itemsChars : List Json → List Char
  | [] => [']']
  | x :: xs => ',' :: (chars x ++ itemsChars xs)

/-- The members after the first one, and the closing brace. -/
def membersChars : List (String × Json) → List Char
  | [] => ['}']
  | (k, x) :: ms => ',' :: (stringChars k ++ ':' :: (chars x ++ membersChars ms))

end

/-- The compact text of a value. -/
def render (j : Json) : String := String.ofList j.chars

end GridOperator.Json
