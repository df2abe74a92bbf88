/-!
# Cutting text at a character
-/

namespace GridOperator.Text

/-- The parts before and after the first `sep`. -/
def splitOnce (sep : Char) : List Char → Option (List Char × List Char)
  | [] => none
  | c :: cs => if c = sep then some ([], cs) else (splitOnce sep cs).map fun p => (c :: p.1, p.2)

/-- The parts before and after the last `sep`. -/
def splitOnceLast (sep : Char) (cs : List Char) : Option (List Char × List Char) :=
  (splitOnce sep cs.reverse).map fun p => (p.2.reverse, p.1.reverse)

/-- The parts between the occurrences of `sep`, one more than there are of them. -/
def splitAll (sep : Char) : List Char → List (List Char)
  | [] => [[]]
  | c :: cs =>
    if c = sep then [] :: splitAll sep cs
    else match splitAll sep cs with
      | p :: ps => (c :: p) :: ps
      | [] => [[c]]

/-- Whether `part` occurs in a text. -/
def contains (part : List Char) : List Char → Bool
  | [] => part.isEmpty
  | c :: cs => part.isPrefixOf (c :: cs) || contains part cs

/-- Upper-case ASCII letters in lower case, all else as it is. -/
def asciiLower (s : String) : String := s.map Char.toLower

end GridOperator.Text
