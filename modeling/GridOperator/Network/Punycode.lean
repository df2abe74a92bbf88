/-!
# Labels of names written in ASCII

Punycode (RFC 3492) writes the ASCII characters of a text first, then a dash, then
for each other character, in increasing order, how far it is from the one before:
how many code points further, and at which place. The distances are numbers in
base 36, the least digit first, in which each column tells by a threshold which
digit ends the number; the thresholds follow the numbers before (`adapt`).
-/

namespace GridOperator.Punycode

/-- The value of a digit: letters come before figures. -/
def digit? (c : Char) : Option Nat :=
  if 'a' ≤ c ∧ c ≤ 'z' then some (c.toNat - 97)
  else if c.isDigit then some (c.toNat - 22)
  else none

/-- Digits below it end a number. Columns are counted in steps of 36. -/
def threshold (column bias : Nat) : Nat := max 1 (min 26 (column - bias))

def settle (distance steps : Nat) : Nat :=
  if 455 < distance then settle (distance / 35) (steps + 36)
  else steps + 36 * distance / (distance + 38)
termination_by distance
decreasing_by omega

/-- The bias after a distance has been read and the text has grown to `length`. -/
def adapt (distance length : Nat) (first : Bool) : Nat :=
  let d := distance / if first then 700 else 2
  settle (d + d / length) 0

/-- A text that is being read. -/
structure Draft where
  text : List Char
  /-- The code point that was put in last. -/
  point : Nat := 128
  /-- The place after the character that was put in last. -/
  place : Nat := 0
  bias : Nat := 72
  /-- The digits so far of the number that is being read, and the worth of its next digit. -/
  distance : Nat := 0
  worth : Nat := 1
  column : Nat := 36

namespace Draft

/-- Puts in the character at a distance. -/
def insert? (distance : Nat) (d : Draft) : Option Draft :=
  let length := d.text.length + 1
  let point := d.point + (d.place + distance) / length
  let place := (d.place + distance) % length
  if point.isValidChar then
    some { text := d.text.insertIdx place (Char.ofNat point), point, place := place + 1,
           bias := adapt distance length (d.place == 0) }
  else none

def next? (d : Draft) (c : Char) : Option Draft := do
  let digit ← digit? c
  let distance := d.distance + digit * d.worth
  let t := threshold d.column d.bias
  if digit < t then d.insert? distance
  else some { d with distance, worth := d.worth * (36 - t), column := d.column + 36 }

/-- No number is left unfinished. -/
def isWhole (d : Draft) : Bool := d.column == 36

end Draft

/-- The ASCII characters before the last dash, and what follows it. A dash at the start has nothing
before it and is no such mark. -/
def split (cs : List Char) : List Char × List Char :=
  let tail := (cs.reverse.takeWhile (· != '-')).reverse
  let head := cs.take (cs.length - tail.length - 1)
  if head.isEmpty then ([], cs) else (head, tail)

/-- The text that is written as `cs`, which has no capital letters. -/
def decode? (cs : List Char) : Option (List Char) := do
  let (ascii, numbers) := split cs
  let d ← numbers.foldlM Draft.next? { text := ascii }
  if d.isWhole && ascii.all (·.toNat < 0x80) then some d.text else none

end GridOperator.Punycode
