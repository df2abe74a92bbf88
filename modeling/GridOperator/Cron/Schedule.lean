import GridOperator.Time.Civil

/-!
# Recurring schedules

A `Schedule` holds, for each part of a date and a time, the values it fires at,
in increasing order. It fires at the instants whose parts are all among them
(`Fires`); `next?` is the first of these after a given one.
-/

namespace GridOperator.Cron

/-- The values a schedule fires at. Days of the week count from Sunday, which is 1. -/
structure Schedule where
  seconds : List Nat
  minutes : List Nat
  hours : List Nat
  daysOfMonth : List Nat
  months : List Nat
  daysOfWeek : List Nat
  years : List Nat
  deriving DecidableEq, Repr

namespace Schedule

/-- Whether the schedule fires at `t`. -/
def Fires (s : Schedule) (t : Instant) : Prop :=
  let c := Civil.ofInstant t
  (∃ y ∈ s.years, c.year = y) ∧ c.month ∈ s.months ∧ c.day ∈ s.daysOfMonth
    ∧ Civil.weekday (t / 86400) ∈ s.daysOfWeek ∧ c.hour ∈ s.hours ∧ c.minute ∈ s.minutes
    ∧ c.second ∈ s.seconds

/-- The first time of a day later than `after`, both in seconds from the start of that day. -/
def timeAfter? (s : Schedule) (after : Int) : Option Int :=
  s.hours.findSome? fun (h : Nat) =>
    if ((h : Int) + 1) * 3600 ≤ after + 1 then none
    else s.minutes.findSome? fun (m : Nat) =>
      if (h : Int) * 3600 + (m + 1) * 60 ≤ after + 1 then none
      else s.seconds.findSome? fun (sec : Nat) =>
        let t := (h : Int) * 3600 + m * 60 + sec
        if after < t then some t else none

/-- The first instant after `after` at which the schedule fires; none before the year 0, from where
no years are counted. Years, months and days that are over by then are passed over as a whole. -/
def next? (s : Schedule) (after : Instant) : Option Instant :=
  if (Civil.ofInstant (after + 1)).year < 0 then none
  else s.years.findSome? fun (y : Nat) =>
    if Civil.dayNumber (y + 1) 1 1 * 86400 ≤ after + 1 then none
    else s.months.findSome? fun m =>
      if (Civil.dayNumber y m 1 + Civil.daysInMonth y m) * 86400 ≤ after + 1 then none
      else s.daysOfMonth.findSome? fun d =>
        let n := Civil.dayNumber y m d
        if Civil.daysInMonth y m < d ∨ Civil.weekday n ∉ s.daysOfWeek then none
        else (s.timeAfter? (after - n * 86400)).map (n * 86400 + ·)

/-- The first `count` instants after `after`, fewer when the years run out. -/
def upcoming (s : Schedule) : Nat → Instant → List Instant
  | 0, _ => []
  | count + 1, after =>
    match s.next? after with
    | some t => t :: upcoming s count t
    | none => []

end Schedule

end GridOperator.Cron
