import GridOperator.Text.Blank
import GridOperator.Text.Digits
import GridOperator.Time.Civil

/-!
# Timestamps

A `Timestamp` is a second of UTC, which may be a leap second. It is read from a
date and a time of day with their distance from UTC, in the form of RFC 3339
(`parse?`) or in a loose form (`parseLoose?`), where numbers may lack their leading
zeros, parts may have blanks between them, and years may be of any length after a
sign. Fractions of a second are dropped.
-/

namespace GridOperator

open Text

structure Timestamp where
  /-- The moment, or the second before it if that is a leap second. -/
  instant : Instant
  /-- Whether it is the second with the number 60 that follows `instant`. -/
  leap : Bool := false
  deriving DecidableEq, Repr

namespace Timestamp

/-- Writes a leap second as the second 60 of its minute. -/
def render (t : Timestamp) : String :=
  let c := Civil.ofInstant t.instant
  (if t.leap then { c with second := 60 } else c).render

/-- The days of the years from -262143 to 262142, and no others, have timestamps. -/
def hasDay (t : Instant) : Bool :=
  Civil.dayNumber (-262143) 1 1 ≤ t / 86400 && t / 86400 ≤ Civil.dayNumber 262142 12 31

/-- The timestamp of a local date and time, which has to exist, at a distance from UTC in minutes
that is less than a day. -/
def ofLocal? (c : Civil) (offset : Int) : Option Timestamp :=
  let here := Civil.toInstant { c with second := min c.second 59 }
  let t := here - offset * 60
  if 1 ≤ c.month ∧ c.month ≤ 12 ∧ 1 ≤ c.day ∧ c.day ≤ Civil.daysInMonth c.year c.month
      ∧ c.hour < 24 ∧ c.minute < 60 ∧ c.second ≤ 60 ∧ offset.natAbs < 1440
      ∧ hasDay here ∧ hasDay t then
    some ⟨t, c.second == 60⟩
  else none

/-! ## Parts -/

def char? (p : Char → Bool) : List Char → Option (List Char)
  | c :: cs => if p c then some cs else none
  | [] => none

/-- The next `n` characters as a number, if they are digits. -/
def fixed? (n : Nat) (cs : List Char) : Option (Nat × List Char) :=
  let ds := cs.take n
  if ds.length = n ∧ ds.all Char.isDigit then some (decimal ds, cs.drop n) else none

/-- The digits that come next as a number, at least one and at most `most` of them. -/
def digits? (most : Nat) (cs : List Char) : Option (Nat × List Char) :=
  let ds := (cs.take most).takeWhile Char.isDigit
  if ds.isEmpty then none else some (decimal ds, cs.drop ds.length)

/-- A fraction of a second, dropped. -/
def fraction? : List Char → Option (List Char)
  | '.' :: cs =>
    if (cs.takeWhile Char.isDigit).isEmpty then none else some (cs.dropWhile Char.isDigit)
  | cs => some cs

def isSeparator (c : Char) : Bool := c == 'T' || c == 't' || c == ' '

/-- The sign of a distance from UTC, which may be a true minus sign. -/
def sign? : List Char → Option (Int × List Char)
  | c :: cs =>
    if c = '+' then some (1, cs)
    else if c = '-' ∨ c.toNat = 0x2212 then some (-1, cs)
    else none
  | [] => none

/-- The distance from UTC in minutes; `between?` passes over what stands between its hours and its
minutes. -/
def offset? (between? : List Char → Option (List Char)) (cs : List Char) :
    Option (Int × List Char) :=
  match cs with
  | 'Z' :: cs | 'z' :: cs => some (0, cs)
  | cs => do
    let (sign, cs) ← sign? cs
    let (h, cs) ← fixed? 2 cs
    let (m, cs) ← fixed? 2 (← between? cs)
    if m < 60 then some (sign * (h * 60 + m), cs) else none

/-! ## The form of RFC 3339 -/

def parse? (text : String) : Option Timestamp := do
  let (year, cs) ← fixed? 4 text.toList
  let (month, cs) ← fixed? 2 (← char? (· == '-') cs)
  let (day, cs) ← fixed? 2 (← char? (· == '-') cs)
  let (hour, cs) ← fixed? 2 (← char? isSeparator cs)
  let (minute, cs) ← fixed? 2 (← char? (· == ':') cs)
  let (second, cs) ← fixed? 2 (← char? (· == ':') cs)
  let (offset, cs) ← offset? (char? (· == ':')) (← fraction? cs)
  if cs.isEmpty then ofLocal? ⟨year, month, day, hour, minute, second⟩ offset else none

/-! ## The loose form -/

/-- At most four digits, or any number of them after a sign. -/
def year? : List Char → Option (Int × List Char)
  | '-' :: cs => (digits? cs.length cs).map fun p => (-(p.1 : Int), p.2)
  | '+' :: cs => (digits? cs.length cs).map fun p => ((p.1 : Int), p.2)
  | cs => (digits? 4 cs).map fun p => ((p.1 : Int), p.2)

/-- A mark and a number of one or two digits, each of them after any blanks. -/
def marked? (mark : Char) (cs : List Char) : Option (Nat × List Char) := do
  digits? 2 (skipBlanks (← char? (· == mark) (skipBlanks cs)))

/-- The distance from UTC, or the letters of UTC in either case. -/
def looseOffset? (cs : List Char) : Option (Int × List Char) :=
  if (cs.take 3).map Char.toLower = ['u', 't', 'c'] then some (0, cs.drop 3)
  else offset? (fun cs => some (cs.dropWhile fun c => c == ':' || isBlank c)) cs

def parseLoose? (text : String) : Option Timestamp := do
  let (year, cs) ← year? (skipBlanks text.toList)
  let (month, cs) ← marked? '-' cs
  let (day, cs) ← marked? '-' cs
  let (hour, cs) ← digits? 2 (skipBlanks (← char? isSeparator cs))
  let (minute, cs) ← marked? ':' cs
  let (second, cs) ← marked? ':' cs
  let (offset, cs) ← looseOffset? (skipBlanks (← fraction? cs))
  if (skipBlanks cs).isEmpty then ofLocal? ⟨year, month, day, hour, minute, second⟩ offset
  else none

end Timestamp

end GridOperator
