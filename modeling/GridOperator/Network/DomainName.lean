import GridOperator.Network.Punycode
import GridOperator.Text.Direction
import GridOperator.Text.Folding
import GridOperator.Text.Joining
import GridOperator.Text.Split
import GridOperator.Text.Unprintable

/-!
# Names of hosts in any script

A name consists of labels with points between them. Its characters are brought to
their plain form first, and those that are invisible are left out (`prepare?`). A
label that starts with `xn--` stands for the characters that it encodes. Then each
label has to begin with a character of its own and have its joiners in place, and
if any label runs from right to left, each one has to run in one direction.
-/

namespace GridOperator.DomainName

open Text

/-! ## Characters -/

/-- Characters that leave no trace in a name. -/
def ignored : Ranges :=
  [(0xad, 0xad), (0x34f, 0x34f), (0x115f, 0x1160), (0x17b4, 0x17b5), (0x180b, 0x180f),
   (0x200b, 0x200b), (0x2060, 0x2064), (0x206a, 0x206f), (0x3164, 0x3164), (0xfe00, 0xfe0f),
   (0xfeff, 0xfeff), (0xffa0, 0xffa0), (0x1bca0, 0x1bca3), (0x1d173, 0x1d17a), (0xe0100, 0xe01ef)]

/-- Characters that no name can have because of what they stand for: blanks, points inside other
signs, or signs that no name can have. -/
def refused : Ranges :=
  [(0xa8, 0xa8), (0xaf, 0xaf), (0xb4, 0xb4), (0xb8, 0xb8), (0x2d8, 0x2dd), (0x37a, 0x37a),
   (0x384, 0x385), (0x1fbd, 0x1fbd), (0x1fbf, 0x1fc1), (0x1fcd, 0x1fcf), (0x1fdd, 0x1fdf),
   (0x1fed, 0x1fef), (0x1ffd, 0x1ffe), (0x2017, 0x2017), (0x2024, 0x2026), (0x203e, 0x203e),
   (0x2047, 0x2049), (0x2100, 0x2101), (0x2105, 0x2106), (0x2488, 0x249b), (0x2a74, 0x2a74),
   (0x2ff0, 0x2fff), (0x309b, 0x309c), (0x33c2, 0x33c2), (0x33c7, 0x33c7), (0x33d8, 0x33d8),
   (0xfc5e, 0xfc63), (0xfdfa, 0xfdfb), (0xfe12, 0xfe13), (0xfe16, 0xfe16), (0xfe19, 0xfe19),
   (0xfe30, 0xfe30), (0xfe37, 0xfe38), (0xfe47, 0xfe4c), (0xfe52, 0xfe52), (0xfe55, 0xfe56),
   (0xfe5b, 0xfe5c), (0xfe5f, 0xfe5f), (0xfe64, 0xfe65), (0xfe68, 0xfe68), (0xfe6a, 0xfe70),
   (0xfe72, 0xfe72), (0xfe74, 0xfe76), (0xfe78, 0xfe78), (0xfe7a, 0xfe7a), (0xfe7c, 0xfe7c),
   (0xfe7e, 0xfe7e), (0xffe3, 0xffe3), (0xfffc, 0xfffd), (0x1f100, 0x1f100)]

/-- The full stops of other scripts. -/
def isFullStop (c : Char) : Bool := c.toNat == 0x3002 || c.toNat == 0xff61

/-- The two marks of sound of half width stand for the marks of the full width. -/
def soundMark? (c : Char) : Option Char :=
  if c.toNat = 0xff9e then some '\u3099' else if c.toNat = 0xff9f then some '\u309a' else none

/-- The plain form of a character as far as the rules for names depend on it, if a name can have
it. -/
def prepare? (c : Char) : Option (List Char) :=
  if c.toNat < 0x80 then some [c.toLower]
  else if isFullStop c then some ['.']
  else if ignored.contains c then some []
  else if refused.contains c then none
  else if isUnprintable c && !isMark c && c != joiner && c != nonJoiner then none
  else some ((asciiForm? c).getD [(soundMark? c).getD c])

/-- Whether a character is its own plain form. -/
def isSettled (c : Char) : Bool := prepare? c == some [c] && !isFolded c

/-- The ASCII characters that cannot be part of a name. -/
def isForbidden (c : Char) : Bool :=
  c.toNat ≤ 0x20 || c.toNat == 0x7f || "\"#%/:<>?@[\\]^\x60\x7b|\x7d".toList.contains c

/-! ## Labels -/

/-- The characters that a label stands for. -/
def decode? : List Char → Option (List Char)
  | 'x' :: 'n' :: '-' :: '-' :: code => do
    let cs ← Punycode.decode? code
    if cs.any (0x80 ≤ ·.toNat) && cs.all isSettled then some cs else none
  | label => some label

def isLabel (cs : List Char) : Bool :=
  !cs.head?.any isMark && !cs.any isForbidden && areJoinersPlaced [] cs

/-- Whether a character makes a name one that may run from right to left. -/
def isAgainst (c : Char) : Bool :=
  direction c == .rightToLeft || direction c == .arabicNumber

/-- Whether the label of a name that may run from right to left runs in one direction: it starts
with a letter, and but for marks it ends in a letter of that direction or in a number; one that runs
from right to left does not have both sorts of numbers. -/
def runsOneWay (cs : List Char) : Bool :=
  let ds := cs.map direction
  let last := (ds.reverse.dropWhile (· == .mark)).head?
  match ds.head? with
  | none => true
  | some .leftToRight =>
    (last == some .leftToRight || last == some .europeanNumber)
      && ds.all fun d => d != .rightToLeft && d != .arabicNumber
  | some .rightToLeft =>
    (last == some .rightToLeft || last == some .europeanNumber || last == some .arabicNumber)
      && ds.all (· != .leftToRight) && !(ds.contains .europeanNumber && ds.contains .arabicNumber)
  | some _ => false

/-- The prepared form of a name, if it is one; encoded labels stay encoded. -/
def plain? (cs : List Char) : Option (List Char) := do
  let name := (← cs.mapM prepare?).flatten
  let labels ← (splitAll '.' name).mapM decode?
  if labels.all isLabel && (!labels.any (·.any isAgainst) || labels.all runsOneWay) then some name
  else none

end GridOperator.DomainName
