/-!
# Numbers of double precision

A finite number is a mantissa below `2 ^ 53` times a power of two. `nearest?` rounds a
quotient of naturals to one; products and quotients of numbers are exact up to
that one rounding.
-/

namespace GridOperator

/-- `mantissa * 2 ^ exponent` with a sign. Of the ways to write a number this is the one with the
least exponent that is not below `leastExponent`. -/
structure Binary64 where
  negative : Bool := false
  mantissa : Nat
  exponent : Int
  deriving DecidableEq, Repr

namespace Binary64

/-- The mantissas of numbers that are not below the least exponent start here; it is `2 ^ 52`. -/
def unit : Nat := 4503599627370496

def leastExponent : Int := -1074

def greatestExponent : Int := 971

def zero : Binary64 := ⟨false, 0, leastExponent⟩

def isZero (x : Binary64) : Bool := x.mantissa == 0

/-- The integer nearest to `n / d`, the even one of two. -/
def roundHalfEven (n d : Nat) : Nat :=
  let q := n / d
  let r := 2 * (n % d)
  if r < d ∨ (r = d ∧ q % 2 = 0) then q else q + 1

/-- `n * 2 ^ e`, as far as it is an integer, and otherwise `n`. -/
def shift (n : Nat) (e : Int) : Nat := n * Nat.pow 2 e.toNat

/-- The number nearest to `n / d`, the one with the even mantissa of two; none if the quotient is
beyond the greatest number. -/
def nearest? (n d : Nat) : Option Binary64 :=
  if n = 0 then some zero
  else
    -- the quotient is more than `2 ^ (top + 51)` and less than `2 ^ (top + 53)`
    let top : Int := n.log2 - d.log2 - 52
    let top := if shift n (-top) < shift (d * unit) top then top - 1 else top
    let e := max leastExponent top
    let m := roundHalfEven (shift n (-e)) (shift d e)
    let (m, e) := if m = 2 * unit then (unit, e + 1) else (m, e)
    if e ≤ greatestExponent then some ⟨false, m, e⟩ else none

def ofNat? (n : Nat) : Option Binary64 := nearest? n 1

/-- The product of two numbers without their signs. -/
def mul? (x y : Binary64) : Option Binary64 :=
  let e := x.exponent + y.exponent
  nearest? (shift (x.mantissa * y.mantissa) e) (shift 1 (-e))

/-- The quotient of two numbers without their signs. -/
def div? (x y : Binary64) : Option Binary64 :=
  let e := x.exponent - y.exponent
  nearest? (shift x.mantissa e) (shift y.mantissa (-e))

def tenTo? (k : Nat) : Option Binary64 := ofNat? (Nat.pow 10 k)

/-- The greatest power of ten that is a number has this exponent. -/
def greatestTen : Nat := 308

/-- Divides by a power of ten, one that is a number at a time. -/
def overTenTo? (x : Binary64) (k : Nat) : Option Binary64 :=
  if greatestTen < k then
    if x.isZero then some x
    else do overTenTo? (← x.div? (← tenTo? greatestTen)) (k - greatestTen)
  else do x.div? (← tenTo? k)
termination_by k
decreasing_by simp only [greatestTen] at *; omega

/-- Multiplies by a power of ten with an exponent of either sign. -/
def timesTenTo? (x : Binary64) (e : Int) : Option Binary64 :=
  if e < 0 then x.overTenTo? (-e).toNat
  else if x.isZero then some x
  else if greatestTen < e.toNat then none
  else do x.mul? (← tenTo? e.toNat)

end Binary64

end GridOperator
