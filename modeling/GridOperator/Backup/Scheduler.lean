import GridOperator.Cron.Crontab
import GridOperator.Error
import GridOperator.Kubernetes.Meta

/-!
# Recurring backups

A `Scheduler` holds at most one job per backup resource. A tick fires the jobs
whose time has come and moves each of them on to its next time.
-/

namespace GridOperator

open Kubernetes

structure Scheduled (Job : Type) where
  expression : String
  schedule : Cron.Schedule
  /-- The next time to fire; none when the years have run out. -/
  next : Option Instant
  job : Job

/-- The jobs by the backups that asked for them. -/
abbrev Scheduler (Job : Type) := Table ObjectKey (Scheduled Job)

namespace Scheduler

/-- The schedule of an expression. -/
def read (expression : String) : Except Error Cron.Schedule :=
  match Cron.Crontab.parse? expression with
  | some schedule => .ok schedule
  | none => .error (.schedule expression)

/-- Registers a job for its times after `now`, in place of the one under the same key. -/
def register (now : Instant) (key : ObjectKey) (expression : String) (job : Job)
    (s : Scheduler Job) : Except Error (Scheduler Job) := do
  let schedule ← read expression
  return s.set key { expression, schedule, next := schedule.next? now, job }

/-- Removes a job. Tells whether there was one. -/
def unregister (key : ObjectKey) (s : Scheduler Job) : Bool × Scheduler Job :=
  (s.contains key, s.erase key)

def isDue (now : Instant) (e : Scheduled Job) : Bool := e.next.any (· ≤ now)

/-- The jobs to fire, and the scheduler after they have been fired. -/
def tick (now : Instant) (s : Scheduler Job) : List Job × Scheduler Job :=
  ((s.filter fun e => isDue now e.2).map (·.2.job),
    s.map fun e => if isDue now e.2 then (e.1, { e.2 with next := e.2.schedule.next? now }) else e)

end Scheduler

end GridOperator
