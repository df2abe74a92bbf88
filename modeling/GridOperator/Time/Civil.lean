/-!
# Civil time

Instants are whole seconds since the first of January 1970, UTC. `Civil` is the
same in years, months, days, hours, minutes and seconds of the proleptic
Gregorian calendar.
-/

namespace GridOperator

/-- Seconds since the first of January 1970, UTC. -/
abbrev Instant := Int

/-- A date and a time of day in UTC. -/
structure Civil where
  year : Int
  month : Nat
  day : Nat
  hour : Nat
  minute : Nat
  second : Nat
  deriving DecidableEq, Repr

namespace Civil

def isLeap (year : Int) : Bool :=
  year % 4 == 0 && (year % 100 != 0 || year % 400 == 0)

def daysInMonth (year : Int) : Nat → Nat
  | 2 => if isLeap year then 29 else 28
  | 4 | 6 | 9 | 11 => 30
  | _ => 31

/-- Days from the first of January 1970 to the given date. Years are counted from March, so that
the leap day is the last of its year. -/
def dayNumber (year : Int) (month day : Nat) : Int :=
  let y := if month ≤ 2 then year - 1 else year
  let m : Int := (month + 9) % 12
  let dayOfYear := (153 * m + 2) / 5 + day - 1
  365 * y + y / 4 - y / 100 + y / 400 + dayOfYear - 719468

/-- The date that is `n` days after the first of January 1970. -/
def ofDayNumber (n : Int) : Int × Nat × Nat :=
  let z := n + 719468
  let era := z / 146097
  let dayOfEra := z % 146097
  let yearOfEra := (dayOfEra - dayOfEra / 1460 + dayOfEra / 36524 - dayOfEra / 146096) / 365
  let dayOfYear := dayOfEra - (365 * yearOfEra + yearOfEra / 4 - yearOfEra / 100)
  let m := (5 * dayOfYear + 2) / 153
  let day := dayOfYear - (153 * m + 2) / 5 + 1
  let month := if m < 10 then m + 3 else m - 9
  let year := yearOfEra + era * 400 + if month ≤ 2 then 1 else 0
  (year, month.toNat, day.toNat)

def toInstant (c : Civil) : Instant :=
  ((dayNumber c.year c.month c.day * 24 + c.hour) * 60 + c.minute) * 60 + c.second

def ofInstant (t : Instant) : Civil :=
  let (year, month, day) := ofDayNumber (t / 86400)
  let s := (t % 86400).toNat
  ⟨year, month, day, s / 3600, s / 60 % 60, s % 60⟩

/-- The day of the week of a day number, Sunday being 1. -/
def weekday (dayNumber : Int) : Nat := ((dayNumber + 4) % 7).toNat + 1

/-- Decimal digits, at least `width`. -/
def padded (width n : Nat) : List Char :=
  let ds := (toString n).toList
  List.replicate (width - ds.length) '0' ++ ds

/-- The year in four digits; one that needs more or is before the year 0 has a sign. -/
def yearChars (y : Int) : List Char :=
  if 0 ≤ y ∧ y ≤ 9999 then padded 4 y.toNat
  else if 0 ≤ y then '+' :: padded 5 y.toNat
  else '-' :: padded 4 (-y).toNat

/-- The date and the time of day in UTC, in the form of RFC 3339. -/
def render (c : Civil) : String :=
  String.ofList (yearChars c.year ++ '-' :: padded 2 c.month ++ '-' :: padded 2 c.day
    ++ 'T' :: padded 2 c.hour ++ ':' :: padded 2 c.minute ++ ':' :: padded 2 c.second ++ ['Z'])

end Civil

/-- The form of RFC 3339, in UTC. -/
def Instant.render (t : Instant) : String := (Civil.ofInstant t).render

end GridOperator
