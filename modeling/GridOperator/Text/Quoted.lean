import GridOperator.Text.Digits
import GridOperator.Text.Unprintable

/-!
# Quoted text

The form in which messages show a text that someone else wrote: between double
quotes, on one line, with an escape for everything that cannot be seen.
-/

namespace GridOperator.Text

def escape (c : Char) : List Char :=
  match c with
  | '\x00' => ['\\', '0']
  | '\t' => ['\\', 't']
  | '\n' => ['\\', 'n']
  | '\r' => ['\\', 'r']
  | '"' => ['\\', '"']
  | '\\' => ['\\', '\\']
  | c => if isUnprintable c then ['\\', 'u', '{'] ++ hex c.toNat ++ ['}'] else [c]

/-- `s` between double quotes, each of its characters escaped where it needs to be. -/
def quoted (s : String) : String :=
  String.ofList ('"' :: s.toList.flatMap escape ++ ['"'])

end GridOperator.Text
