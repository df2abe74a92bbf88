/-!
# Digits

Values of digits in bases up to 16, of runs of them, and the way back.
-/

namespace GridOperator.Text

/-- The value of a digit of a base up to 16, whose letters may be large or small. -/
def digit? (base : Nat) (c : Char) : Option Nat :=
  let d :=
    if c.isDigit then c.toNat - 48
    else if 'a' ≤ c ∧ c ≤ 'f' then c.toNat - 87
    else if 'A' ≤ c ∧ c ≤ 'F' then c.toNat - 55
    else base
  if d < base then some d else none

/-- The value of a run of digits of a base up to 16; that of no digits is zero. -/
def inBase? (base : Nat) (ds : List Char) : Option Nat :=
  ds.foldlM (fun n c => (digit? base c).map (n * base + ·)) 0

/-- The value of a run of decimal digits. -/
def decimal (ds : List Char) : Nat :=
  ds.foldl (fun n d => n * 10 + (d.toNat - 48)) 0

/-- A number of at least one decimal digit and nothing else, a plus sign in front allowed. -/
def natural? (cs : List Char) : Option Nat :=
  let ds := match cs with
    | '+' :: ds => ds
    | ds => ds
  if ds.isEmpty || !ds.all Char.isDigit then none else some (decimal ds)

/-- The digit of a value below sixteen, in lower case. -/
def hexDigit (n : Nat) : Char :=
  if n < 10 then Char.ofNat (n + 48) else Char.ofNat (n + 87)

/-- Hexadecimal digits without leading zeros. -/
def hex (n : Nat) : List Char :=
  if n < 16 then [hexDigit n] else hex (n / 16) ++ [hexDigit (n % 16)]
termination_by n

/-- At least `width` hexadecimal digits. -/
def hexPadded (width n : Nat) : List Char :=
  let ds := hex n
  List.replicate (width - ds.length) '0' ++ ds

end GridOperator.Text
