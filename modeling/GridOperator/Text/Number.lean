/-!
# Bounded numbers in text
-/

namespace GridOperator.Text

/-- Why a text is not a number of the wanted range. -/
inductive NumberFault where
  | empty
  | notDigit
  | tooLarge
  deriving DecidableEq

namespace NumberFault

def text : NumberFault → String
  | empty => "cannot parse integer from empty string"
  | notDigit => "invalid digit found in string"
  | tooLarge => "number too large to fit in target type"

end NumberFault

/-- Reads digits on from the value `n` of those before; the first fault counts. -/
def readDigits (limit n : Nat) : List Char → Except NumberFault Nat
  | [] => .ok n
  | c :: cs =>
    if !c.isDigit then .error .notDigit
    else
      let m := n * 10 + (c.toNat - 48)
      if limit < m then .error .tooLarge else readDigits limit m cs

/-- A number of decimal digits up to `limit`; a plus sign may stand in front. -/
def readNatural (limit : Nat) : List Char → Except NumberFault Nat
  | [] => .error .empty
  | ['+'] => .error .notDigit
  | '+' :: cs => readDigits limit 0 cs
  | cs => readDigits limit 0 cs

end GridOperator.Text
