import GridOperator.Yaml.Basic
import GridOperator.Yaml.Scalar

/-!
# Writing documents

The block form: entries one below the other, two blanks further in at each level,
items of a list below their key and not further in, lines as long as need be.
-/

namespace GridOperator.Yaml

/-- A place in a text that is being written. -/
structure Pen where
  /-- What is written, the last character first. -/
  written : List Char := []
  column : Nat := 0
  /-- A blank or the start of a line stands before the place. -/
  spaced : Bool := true
  /-- Only blanks and marks of entries stand before the place on its line. -/
  fresh : Bool := true

namespace Pen

def put (c : Char) (p : Pen) : Pen := { p with written := c :: p.written, column := p.column + 1 }

def puts (cs : List Char) (p : Pen) : Pen := cs.foldl (fun p c => p.put c) p

def lineBreak (c : Char) (p : Pen) : Pen := { p with written := c :: p.written, column := 0 }

/-- Goes to a column, on a new line unless this one is still free up to there. -/
def indent (column : Nat) (p : Pen) : Pen :=
  let p := if !p.fresh || column < p.column || (p.column == column && !p.spaced) then
    p.lineBreak '\n' else p
  { p.puts (List.replicate (column - p.column) ' ') with spaced := true, fresh := true }

/-- Writes a mark, after a blank if it needs one; `opens` tells that an entry may follow it on the
same line. -/
def mark (cs : List Char) (needsSpace leavesSpace opens : Bool) (p : Pen) : Pen :=
  let p := if needsSpace && !p.spaced then p.put ' ' else p
  { p.puts cs with spaced := leavesSpace, fresh := p.fresh && opens }

def plain (cs : List Char) (p : Pen) : Pen :=
  let p := if !p.spaced && !cs.isEmpty then p.put ' ' else p
  { p.puts cs with spaced := false, fresh := false }

/-! ## Quoted texts -/

/-- Characters of a text in single quotes; `broken` tells that a break stands before them. -/
def singleQuotedChars (column : Nat) (broken : Bool) : List Char → Pen → Pen
  | [], p => if broken then p.indent column else p
  | c :: cs, p =>
    if c == ' ' then singleQuotedChars column broken cs (p.put c)
    else if isBreak c then
      singleQuotedChars column true cs { p.lineBreak c with fresh := true }
    else
      let p := if broken then p.indent column else p
      let p := if c == '\'' then (p.put c).put c else p.put c
      singleQuotedChars column false cs { p with fresh := false }

def singleQuoted (column : Nat) (cs : List Char) (p : Pen) : Pen :=
  (singleQuotedChars column false cs (p.mark ['\''] true false false)).mark ['\''] false false false

/-- The letters of escapes that have one. -/
def escapeLetter? (c : Char) : Option Char :=
  [(0x00, '0'), (0x07, 'a'), (0x08, 'b'), (0x09, 't'), (0x0a, 'n'), (0x0b, 'v'), (0x0c, 'f'),
    (0x0d, 'r'), (0x1b, 'e'), (0x22, '"'), (0x5c, '\\'), (0x85, 'N'), (0xa0, '_'), (0x2028, 'L'),
    (0x2029, 'P')].lookup c.toNat

def upperHex (width n : Nat) : List Char := (Text.hexPadded width n).map Char.toUpper

def escaped (c : Char) : List Char :=
  match escapeLetter? c with
  | some l => ['\\', l]
  | none =>
    if c.toNat ≤ 0xff then '\\' :: 'x' :: upperHex 2 c.toNat
    else if c.toNat ≤ 0xffff then '\\' :: 'u' :: upperHex 4 c.toNat
    else '\\' :: 'U' :: upperHex 8 c.toNat

def doubleQuotedChar (c : Char) : List Char :=
  if !isPrintable c || isBreak c || c == '"' || c == '\\' then escaped c else [c]

def doubleQuoted (cs : List Char) (p : Pen) : Pen :=
  ((p.mark ['"'] true false false).puts (cs.flatMap doubleQuotedChar)).mark ['"'] false false false

/-! ## Texts of several lines -/

/-- What a reader has to know: how far the lines are indented if the first one begins with blanks,
and which breaks at the end belong to the text. -/
def literalHints (cs : List Char) : List Char :=
  (if cs.head?.any fun c => c == ' ' || isBreak c then ['2'] else [])
    ++ match cs.reverse with
      | [] => ['-']
      | c :: rest =>
        if !isBreak c then ['-']
        else match rest with
          | [] => ['+']
          | d :: _ => if isBreak d then ['+'] else []

/-- Characters of lines; `broken` tells that a line begins before them. -/
def literalChars (column : Nat) (broken : Bool) : List Char → Pen → Pen
  | [], p => p
  | c :: cs, p =>
    if isBreak c then literalChars column true cs { p.lineBreak c with fresh := true }
    else
      let p := if broken then p.indent column else p
      literalChars column false cs { p.put c with fresh := false }

def literal (column : Nat) (cs : List Char) (p : Pen) : Pen :=
  let p := (p.mark ['|'] true false false).mark (literalHints cs) false false false
  literalChars column true cs { p.lineBreak '\n' with fresh := true, spaced := true }

/-! ## Entries -/

/-- Writes a text whose further lines begin at `column`. -/
def text (column : Nat) (s : String) (isKey : Bool) (p : Pen) : Pen :=
  match style s isKey with
  | .plain => p.plain s.toList
  | .singleQuoted => p.singleQuoted column s.toList
  | .doubleQuoted => p.doubleQuoted s.toList
  | .literal => p.literal column s.toList

/-- Writes a key and its colon. A key that is long or of several lines has marks of its own. -/
def key (column : Nat) (s : String) (p : Pen) : Pen :=
  let p := p.indent column
  if 128 < s.utf8ByteSize || s.toList.any isBreak then
    let p := (p.mark ['?'] true false true).text (column + 2) s false
    (p.indent column).mark [':'] true false true
  else (p.text (column + 2) s true).mark [':'] false false false

mutual

/-- Writes a value inside a collection whose entries begin at `column`. -/
def value (column : Nat) (underKey : Bool) : Yaml → Pen → Pen
  | .str s, p => p.text (column + 2) s false
  | .int n, p => p.plain (toString n).toList
  | .bool b, p => p.plain (toString b).toList
  | .seq [], p => (p.mark ['['] true true false).mark [']'] false false false
  | .seq xs, p => items (if underKey && !p.fresh then column else column + 2) xs p
  | .map [], p => (p.mark ['{'] true true false).mark ['}'] false false false
  | .map es, p => entries (column + 2) es p

def items (column : Nat) : List Yaml → Pen → Pen
  | [], p => p
  | x :: xs, p =>
    items column xs (value column false x ((p.indent column).mark ['-'] true false true))

def entries (column : Nat) : List (String × Yaml) → Pen → Pen
  | [], p => p
  | (k, v) :: es, p => entries column es (value column true v (p.key column k))

end

end Pen

/-- The text of a document that consists of entries. -/
def render (document : List (String × Yaml)) : String :=
  String.ofList ((Pen.entries 0 document {}).indent 0).written.reverse

end GridOperator.Yaml
