import GridOperator.Network.DomainName
import GridOperator.Text.Digits
import GridOperator.Text.Split

/-!
# Hosts

The forms of a host in an address: a number of the fourth or sixth version of
the protocol, or a name.
-/

namespace GridOperator.Host

open Text

/-! ## Version four -/

/-- Four numbers below 256 without leading zeros, with points between them. -/
def isDotted (cs : List Char) : Bool :=
  let parts := splitAll '.' cs
  parts.length == 4 && parts.all fun p =>
    !p.isEmpty && p.all Char.isDigit && (p.length == 1 || p.head? != some '0') && p.length ≤ 3
      && decimal p < 256

/-- A part of a lenient number, in base 16 after `0x` and in base 8 after another zero. -/
def part? : List Char → Option Nat
  | [] => none
  | '0' :: 'x' :: ds | '0' :: 'X' :: ds => inBase? 16 ds
  | '0' :: d :: ds => inBase? 8 (d :: ds)
  | ds => inBase? 10 ds

/-- The parts between points, less an empty one at the end. -/
def dottedParts (cs : List Char) : List (List Char) :=
  let parts := splitAll '.' cs
  if parts.length > 1 ∧ parts.getLast? = some [] then parts.dropLast else parts

/-- Whether a name has to be read as a lenient number because its last part is a number. -/
def endsInNumber (cs : List Char) : Bool :=
  match (dottedParts cs).getLast? with
  | some p => !p.isEmpty && (p.all Char.isDigit || (part? p).isSome)
  | none => false

/-- At most four numbers with points between them, the last of which fills what the others leave. -/
def isLenient (cs : List Char) : Bool :=
  let parts := dottedParts cs
  parts.length ≤ 4 && match parts.mapM part? with
    | some ns =>
      ns.dropLast.all (· < 256) && (ns.getLast?.any (· < Nat.pow 256 (5 - ns.length)))
    | none => false

/-! ## Version six -/

/-- The places that groups between colons take; the last one may be a number of version four. -/
def groups? (cs : List Char) : Option Nat :=
  if cs.isEmpty then some 0
  else
    let parts := splitAll ':' cs
    let isGroup (p : List Char) := !p.isEmpty && p.length ≤ 4 && p.all fun c => (digit? 16 c).isSome
    if parts.all isGroup then some parts.length
    else if parts.dropLast.all isGroup && parts.getLast?.any isDotted then some (parts.length + 1)
    else none

/-- What stands before and after the first two colons in a row. -/
def splitGap : List Char → Option (List Char × List Char)
  | [] => none
  | ':' :: ':' :: cs => some ([], cs)
  | c :: cs => (splitGap cs).map fun p => (c :: p.1, p.2)

/-- Eight groups with colons between them, or fewer with a gap. -/
def isVersion6 (cs : List Char) : Bool :=
  match splitGap cs with
  | some (before, after) =>
    let isPlain := fun part : List Char => !part.contains '.'
    match groups? before, groups? after with
    | some m, some n => isPlain before && m + n ≤ 7
    | _, _ => false
  | none => groups? cs == some 8

/-- Whether a text is a number of either version. -/
def isNumber (host : String) : Bool := isDotted host.toList || isVersion6 host.toList

/-! ## Names -/

/-- Undoes escapes with a percent sign. -/
def unescape : List UInt8 → List UInt8
  | [] => []
  | 0x25 :: a :: b :: rest =>
    match digit? 16 (Char.ofUInt8 a), digit? 16 (Char.ofUInt8 b) with
    | some x, some y => UInt8.ofNat (x * 16 + y) :: unescape rest
    | _, _ => 0x25 :: unescape (a :: b :: rest)
  | o :: os => o :: unescape os

/-- The name that a text with escapes stands for, whose octets have to spell characters. -/
def unescaped? (cs : List Char) : Option (List Char) :=
  let octets := unescape (String.ofList cs).toUTF8.toList
  (String.fromUTF8? (ByteArray.mk octets.toArray)).map String.toList

/-- Whether the host of an address can be one. -/
def isValid : List Char → Bool
  | '[' :: cs => cs.getLast? == some ']' && isVersion6 cs.dropLast
  | cs =>
    match (unescaped? cs).bind DomainName.plain? with
    | some name => !name.isEmpty && (!endsInNumber name || isLenient name)
    | none => false

end GridOperator.Host
