/-!
# Ranges of characters

Sets of characters are kept as closed ranges of code points.
-/

namespace GridOperator.Text

/-- Closed ranges of code points in increasing order. -/
abbrev Ranges := List (Nat × Nat)

def Ranges.contains (ranges : Ranges) (c : Char) : Bool :=
  ranges.any fun r => r.1 ≤ c.toNat && c.toNat ≤ r.2

end GridOperator.Text
