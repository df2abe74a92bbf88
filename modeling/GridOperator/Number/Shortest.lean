import GridOperator.Number.Binary64

/-!
# The shortest decimal that reads back

Several decimals are nearer to a number of double precision than to any other
one. `Binary64.shortest?` is the one of these with the fewest digits, and of
several such the nearest.
-/

namespace GridOperator

/-- `0.d₁d₂… * 10 ^ point`, where the `d`s are the digits. -/
structure Decimal where
  digits : List Char
  point : Int
  deriving DecidableEq, Repr

namespace Binary64

/-- `n * 10 ^ k` in units in which `b * 2 ^ e` is `inUnits b k e`. -/
def tensInUnits (n : Nat) (k e : Int) : Nat := shift n (-e) * Nat.pow 10 k.toNat

def inUnits (b : Nat) (k e : Int) : Nat := shift b e * Nat.pow 10 (-k).toNat

/-- Whether `n * 10 ^ k` is nearer to the number than to any other; the midpoint between two numbers
counts as nearer to the one with the even mantissa. -/
def readsBack (x : Binary64) (n : Nat) (k : Int) : Bool :=
  -- in quarters of a unit of the mantissa; below a power of two numbers lie twice as dense
  let below := if x.mantissa = unit ∧ leastExponent < x.exponent then 1 else 2
  let e := x.exponent - 2
  let least := inUnits (4 * x.mantissa - below) k e
  let greatest := inUnits (4 * x.mantissa + 2) k e
  let value := tensInUnits n k e
  if x.mantissa % 2 = 0 then least ≤ value && value ≤ greatest
  else least < value && value < greatest

/-- The nearest multiple of `10 ^ k` that reads back, divided by `10 ^ k`. -/
def onGrid? (x : Binary64) (k : Int) : Option Nat :=
  let value := inUnits x.mantissa k x.exponent
  let step := tensInUnits 1 k x.exponent
  let n := value / step
  match x.readsBack n k, x.readsBack (n + 1) k with
  | true, true => some (roundHalfEven value step)
  | true, false => some n
  | false, true => some (n + 1)
  | false, false => none

/-- The exponent of the first digit of a positive number. -/
def leadingExponent (x : Binary64) : Int :=
  let n := shift x.mantissa x.exponent
  let d := shift 1 (-x.exponent)
  if d ≤ n then (toString (n / d)).length - 1
  else
    let k := (toString (d / n)).length - 1
    if d ≤ n * Nat.pow 10 k then -(k : Int) else -(k : Int) - 1

/-- The digits of a positive number; none for zero. Seventeen digits are always enough. -/
def shortest? (x : Binary64) : Option Decimal :=
  if x.isZero then none
  else (List.range 17).findSome? fun (count : Nat) =>
    let k := x.leadingExponent - count
    (x.onGrid? k).map fun n =>
      let ds := (toString n).toList
      ⟨(ds.reverse.dropWhile (· == '0')).reverse, ds.length + k⟩

end Binary64

end GridOperator
