import GridOperator.Cron.Expression
import GridOperator.Text.Blank

/-!
# Crontab lines

An expression of five fields follows crontab: no seconds, and days of the week
from 0 to 7, where both ends are Sunday. `Crontab.expand` turns it into an
expression with seconds and days from 1 (Sunday) to 7; every other text is left
as it is, but for the blanks around it.
-/

namespace GridOperator.Cron.Crontab

open Text

/-- A day number below 256. -/
def day? (cs : List Char) : Option Nat := (natural? cs).filter (· < 256)

def number (n : Nat) : List Char := (toString n).toList

/-- The days of an item without its step, each shifted by one. A range up to 7 that has no step
is split, since it ends on the Sunday that begins the shifted week. What is no day number of the
crontab is left for the expression's own rules. -/
def shiftRange (range : List Char) (stepped : Bool) : List Char :=
  match splitOnce '-' range with
  | some (a, b) =>
    match day? a, day? b with
    | some a, some b =>
      if b = 7 ∧ 0 < a ∧ a ≤ 6 ∧ !stepped then number (a + 1) ++ ['-', '7', ',', '1']
      else if a ≤ 6 ∧ b ≤ 7 then number (a + 1) ++ '-' :: number (min b 6 + 1)
      else range
    | _, _ => range
  | none =>
    match day? range with
    | some d => if d ≤ 7 then number (d % 7 + 1) else range
    | none => range

def shiftItem (item : List Char) : List Char :=
  match splitOnce '/' item with
  | some (range, step) => shiftRange range true ++ '/' :: step
  | none => shiftRange item false

/-- The day-of-week field with its numbers shifted by one. -/
def shiftDays (field : List Char) : List Char :=
  [','].intercalate ((splitAll ',' field).map shiftItem)

/-- The expression that a text stands for. -/
def expand (text : String) : String :=
  let trimmed := trim text.toList
  match words trimmed with
  | [minute, hour, day, month, weekday] =>
    if trimmed.head? = some '@' then String.ofList trimmed
    else String.ofList <|
      [' '].intercalate [['0'], minute, hour, day, month, shiftDays weekday]
  | _ => String.ofList trimmed

/-- The schedule of an expression or crontab line. -/
def parse? (text : String) : Option Schedule := Schedule.parse? (expand text)

end GridOperator.Cron.Crontab
