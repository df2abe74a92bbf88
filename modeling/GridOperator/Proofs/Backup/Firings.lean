import GridOperator.Backup.Scheduler
import GridOperator.Proofs.Cron.Expression
import GridOperator.Proofs.Table
import Mathlib.Data.Set.Card

/-!
# When recurring backups fire

An entry of a scheduler holds no more than the time to fire next. What a job is
owed is told by its registration, which is read off what has been done to the
scheduler: when it was made, and the tick at which it fired last. The two agree
at every tick, however late or early ticks come.
-/

namespace GridOperator.Scheduler

open Kubernetes Cron

/-! ## Registrations -/

/-- What is done to a scheduler, at times that come in no particular order. -/
inductive Operation (Job : Type) where
  | schedule (now : Instant) (key : ObjectKey) (expression : String) (job : Job)
  | unschedule (key : ObjectKey)
  | tick (now : Instant)

/-- A job that is to recur. -/
structure Registration (Job : Type) where
  schedule : Schedule
  job : Job
  since : Instant
  /-- The tick at which it fired last. -/
  fired : Option Instant := none

variable {Job : Type}

namespace Registration

/-- Whether a time has come by `t` that is later than the registration and than its last firing. -/
def Due (r : Registration Job) (t : Instant) : Prop :=
  ∃ o, r.schedule.Fires o ∧ r.since < o ∧ (∀ last ∈ r.fired, last < o) ∧ o ≤ t

theorem due_iff_exists_lt (r : Registration Job) (t : Instant) : r.Due t ↔
    ∃ n < (t - r.since).toNat, r.schedule.Fires (r.since + n + 1) ∧
      ∀ last ∈ r.fired, last < r.since + n + 1 := by
  constructor
  · rintro ⟨o, hfires, hsince, hlast, hle⟩
    have ho : r.since + (o - r.since - 1).toNat + 1 = o := by
      unfold Instant at *
      omega
    refine ⟨(o - r.since - 1).toNat, ?_, ho.symm ▸ hfires, fun last h => ho.symm ▸ hlast last h⟩
    unfold Instant at *
    omega
  · rintro ⟨n, hn, hfires, hlast⟩
    refine ⟨_, hfires, ?_, hlast, ?_⟩
    all_goals
      unfold Instant at *
      omega

instance (r : Registration Job) (t : Instant) : Decidable (r.Due t) :=
  decidable_of_iff' _ (r.due_iff_exists_lt t)

/-- The registration after a tick. -/
def ticked (t : Instant) (r : Registration Job) : Registration Job :=
  if r.Due t then { r with fired := some t } else r

end Registration

namespace Operation

/-- Whether an operation replaces or removes the registration of a key. -/
def Ends (key : ObjectKey) : Operation Job → Prop
  | schedule _ k expression _ => k = key ∧ (Crontab.parse? expression).isSome
  | unschedule k => k = key
  | tick _ => False

/-- Whether a registration is made from the year 0 on, from where schedules count years. A clock
that begins in 1970 gives no earlier time. -/
def Counted : Operation Job → Prop
  | schedule now _ _ _ => 0 ≤ (Civil.ofInstant now).year
  | unschedule _ | tick _ => True

instance : (op : Operation Job) → Decidable op.Counted
  | schedule now _ _ _ => inferInstanceAs (Decidable (0 ≤ (Civil.ofInstant now).year))
  | unschedule _ | tick _ => inferInstanceAs (Decidable True)

end Operation

/-- The registration of a key after some operations, the latest one first. -/
def live? (key : ObjectKey) : List (Operation Job) → Option (Registration Job)
  | [] => none
  | .schedule now k expression job :: earlier =>
    match Crontab.parse? expression with
    | some schedule =>
      if k = key then some { schedule, job, since := now } else live? key earlier
    | none => live? key earlier
  | .unschedule k :: earlier => if k = key then none else live? key earlier
  | .tick now :: earlier => (live? key earlier).map (·.ticked now)

variable {s : Scheduler Job} {key : ObjectKey} {now t : Instant} {expression : String} {job : Job}
  {schedule : Schedule} {history later : List (Operation Job)} {op : Operation Job}

/-! ## What the operations do -/

/-- The scheduler after an operation. -/
def apply (s : Scheduler Job) : Operation Job → Scheduler Job
  | .schedule now key expression job =>
    match s.register now key expression job with
    | .ok s' => s'
    | .error _ => s
  | .unschedule key => (s.unregister key).2
  | .tick now => (s.tick now).2

/-- The scheduler after some operations, the latest one first. -/
def after : List (Operation Job) → Scheduler Job
  | [] => []
  | op :: earlier => (after earlier).apply op

/-- An entry after a tick. -/
def moveOn (t : Instant) (e : Scheduled Job) : Scheduled Job :=
  if isDue t e then { e with next := e.schedule.next? t } else e

theorem apply_tick (s : Scheduler Job) (t : Instant) :
    s.apply (.tick t) = s.map fun e => (e.1, moveOn t e.2) := by
  refine List.map_congr_left fun e _ => ?_
  rw [moveOn]
  split <;> rfl

theorem apply_unschedule (s : Scheduler Job) (key : ObjectKey) :
    s.apply (.unschedule key) = s.erase key := rfl

theorem apply_schedule (h : Crontab.parse? expression = some schedule) :
    s.apply (.schedule now key expression job) =
      s.set key { expression, schedule, next := schedule.next? now, job } := by
  simp only [apply, register, read, h]
  rfl

theorem register_of_rejected (h : Crontab.parse? expression = none) :
    s.register now key expression job = .error (.schedule expression) := by
  simp only [register, read, h]
  rfl

theorem apply_of_rejected (h : Crontab.parse? expression = none) :
    s.apply (.schedule now key expression job) = s := by
  simp only [apply, register_of_rejected h]

/-- After an operation that ends what a key had, its entry does not depend on that. -/
theorem get?_apply_of_ends {s' : Scheduler Job} (h : op.Ends key) :
    (s.apply op).get? key = (s'.apply op).get? key := by
  cases op with
  | schedule now k expression job =>
    obtain ⟨rfl, hread⟩ := h
    obtain ⟨schedule, hschedule⟩ := Option.isSome_iff_exists.1 hread
    rw [apply_schedule hschedule, apply_schedule hschedule, Table.get?_set_self,
      Table.get?_set_self]
  | unschedule k =>
    obtain rfl : k = key := h
    rw [apply_unschedule, apply_unschedule, Table.get?_erase_self, Table.get?_erase_self]
  | tick => exact h.elim

/-- The entry of a key depends on no other entry. -/
theorem get?_apply_congr {s' : Scheduler Job} (h : s.get? key = s'.get? key) :
    (s.apply op).get? key = (s'.apply op).get? key := by
  cases op with
  | schedule now k expression job =>
    cases hread : Crontab.parse? expression with
    | none => rw [apply_of_rejected hread, apply_of_rejected hread, h]
    | some schedule =>
      rw [apply_schedule hread, apply_schedule hread]
      by_cases hkey : key = k
      · rw [hkey, Table.get?_set_self, Table.get?_set_self]
      · rw [Table.get?_set_of_ne hkey, Table.get?_set_of_ne hkey, h]
  | unschedule k =>
    rw [apply_unschedule, apply_unschedule]
    by_cases hkey : key = k
    · rw [hkey, Table.get?_erase_self, Table.get?_erase_self]
    · rw [Table.get?_erase_of_ne hkey, Table.get?_erase_of_ne hkey, h]
  | tick t => rw [apply_tick, apply_tick, Table.get?_map, Table.get?_map, h]

/-- Nothing is left of a registration that was replaced or removed. -/
theorem get?_after_of_ends (h : op.Ends key) (later earlier : List (Operation Job)) :
    (after (later ++ op :: earlier)).get? key = (after (later ++ [op])).get? key := by
  induction later with
  | nil => exact get?_apply_of_ends h
  | cons op' later ih => exact get?_apply_congr ih

/-! ## Entries and their registrations -/

/-- What an entry says of the registration that it is for. -/
structure Follows (e : Scheduled Job) (r : Registration Job) : Prop where
  schedule : e.schedule = r.schedule
  job : e.job = r.job
  proper : r.schedule.Proper
  next : e.next = r.schedule.next? (r.fired.getD r.since)
  year : 0 ≤ (Civil.ofInstant (r.fired.getD r.since)).year
  since : ∀ last ∈ r.fired, r.since < last

theorem year_nonneg_of_fires (h : schedule.Fires t) : 0 ≤ (Civil.ofInstant t).year := by
  obtain ⟨⟨year, -, hyear⟩, -⟩ := h
  exact hyear ▸ Int.natCast_nonneg year

namespace Follows

variable {e : Scheduled Job} {r : Registration Job}

theorem due_iff (h : Follows e r) (t : Instant) :
    r.Due t ↔ ∃ o, (r.schedule.Fires o ∧ r.fired.getD r.since < o) ∧ o ≤ t := by
  have hsince := h.since
  cases hfired : r.fired with
  | none => simp [Registration.Due, hfired, and_assoc]
  | some last =>
    have hlt : r.since < last := hsince last hfired
    simp only [Registration.Due, hfired, Option.mem_some_iff, forall_eq', Option.getD_some]
    exact exists_congr fun o => ⟨fun ⟨hfires, _, hlast, hle⟩ => ⟨⟨hfires, hlast⟩, hle⟩,
      fun ⟨⟨hfires, hlast⟩, hle⟩ => ⟨hfires, hlt.trans hlast, hlast, hle⟩⟩

/-- An entry is due exactly when its registration is. -/
theorem isDue_iff (h : Follows e r) (t : Instant) : isDue t e ↔ r.Due t := by
  have hyear := h.year.trans (Civil.year_ofInstant_mono (Int.le_add_one (Int.le_refl _)))
  rw [isDue, h.next, (Schedule.least_next? h.proper hyear).any_le_iff t, h.due_iff]

theorem ticked (h : Follows e r) (t : Instant) : Follows (moveOn t e) (r.ticked t) := by
  unfold moveOn Registration.ticked
  by_cases hdue : r.Due t
  · rw [if_pos ((h.isDue_iff t).2 hdue), if_pos hdue]
    obtain ⟨o, hfires, hsince, -, hle⟩ := hdue
    exact {
      schedule := h.schedule
      job := h.job
      proper := h.proper
      next := congrArg (·.next? t) h.schedule
      year := (year_nonneg_of_fires hfires).trans (Civil.year_ofInstant_mono hle)
      since := fun last hlast => Option.some.inj hlast ▸ hsince.trans_le hle }
  · rw [if_neg fun h' => hdue ((h.isDue_iff t).1 h'), if_neg hdue]
    exact h

theorem registered (hread : Crontab.parse? expression = some schedule)
    (hyear : 0 ≤ (Civil.ofInstant now).year) (job : Job) :
    Follows ⟨expression, schedule, schedule.next? now, job⟩ ⟨schedule, job, now, none⟩ where
  schedule := rfl
  job := rfl
  proper := proper_of_parse? hread
  next := rfl
  year := hyear
  since := nofun

end Follows

/-- A scheduler that holds, in the order of the keys, what follows their registrations. -/
structure Tracks (s : Scheduler Job) (live : ObjectKey → Option (Registration Job)) : Prop where
  ordered : Table.Ordered s
  entries : ∀ key, Option.Rel Follows (s.get? key) (live key)

namespace Tracks

variable {live : ObjectKey → Option (Registration Job)}

theorem apply_schedule (h : Tracks s fun key => live? key history)
    (hyear : 0 ≤ (Civil.ofInstant now).year) :
    Tracks (s.apply (.schedule now key expression job))
      fun k => live? k (.schedule now key expression job :: history) := by
  cases hread : Crontab.parse? expression with
  | none =>
    rw [apply_of_rejected hread]
    exact ⟨h.ordered, fun k => by simpa only [live?, hread] using h.entries k⟩
  | some schedule =>
    rw [Scheduler.apply_schedule hread]
    refine ⟨h.ordered.set key _, fun k => ?_⟩
    simp only [live?, hread]
    by_cases hkey : key = k
    · rw [if_pos hkey, ← hkey, Table.get?_set_self]
      exact .some (.registered hread hyear job)
    · rw [if_neg hkey, Table.get?_set_of_ne (Ne.symm hkey)]
      exact h.entries k

theorem apply_unschedule (h : Tracks s fun key => live? key history) (key : ObjectKey) :
    Tracks (s.apply (.unschedule key)) fun k => live? k (.unschedule key :: history) := by
  rw [Scheduler.apply_unschedule]
  refine ⟨h.ordered.erase key, fun k => ?_⟩
  rw [live?]
  by_cases hkey : key = k
  · rw [if_pos hkey, hkey, Table.get?_erase_self]
    exact .none
  · rw [if_neg hkey, Table.get?_erase_of_ne (Ne.symm hkey)]
    exact h.entries k

theorem apply_tick (h : Tracks s fun key => live? key history) (t : Instant) :
    Tracks (s.apply (.tick t)) fun k => live? k (.tick t :: history) := by
  rw [Scheduler.apply_tick]
  refine ⟨h.ordered.map fun _ => rfl, fun k => ?_⟩
  rw [Table.get?_map, live?]
  have hentry := h.entries k
  generalize s.get? k = e?, live? k history = r? at hentry
  cases hentry with
  | none => exact .none
  | some hfollows => exact .some (hfollows.ticked t)

theorem apply (h : Tracks s fun key => live? key history) (hop : op.Counted) :
    Tracks (s.apply op) fun key => live? key (op :: history) := by
  cases op with
  | schedule => exact h.apply_schedule hop
  | unschedule key => exact h.apply_unschedule key
  | tick t => exact h.apply_tick t

theorem exists_live (h : Tracks s live) {x : ObjectKey × Scheduled Job} (hx : x ∈ s) :
    ∃ r, live x.1 = some r ∧ Follows x.2 r := by
  have hentry := h.entries x.1
  rw [h.ordered.get?_eq_some_iff.2 hx] at hentry
  generalize live x.1 = r? at hentry
  cases hentry with
  | some hfollows => exact ⟨_, rfl, hfollows⟩

theorem exists_entry (h : Tracks s live) {r : Registration Job} (hr : live key = some r) :
    ∃ e, (key, e) ∈ s ∧ Follows e r := by
  have hentry := h.entries key
  rw [hr] at hentry
  cases he : s.get? key with
  | none =>
    rw [he] at hentry
    cases hentry
  | some e =>
    rw [he] at hentry
    cases hentry with
    | some hfollows => exact ⟨e, h.ordered.get?_eq_some_iff.1 he, hfollows⟩

theorem mem_keys_iff (h : Tracks s live) (key : ObjectKey) :
    key ∈ s.map (·.1) ↔ (live key).isSome := by
  rw [List.mem_map, Option.isSome_iff_exists]
  constructor
  · rintro ⟨x, hx, rfl⟩
    obtain ⟨r, hr, -⟩ := h.exists_live hx
    exact ⟨r, hr⟩
  · rintro ⟨r, hr⟩
    obtain ⟨e, he, -⟩ := h.exists_entry hr
    exact ⟨(key, e), he, rfl⟩

/-- There are as many entries as registrations. -/
theorem encard_live (h : Tracks s live) : {key | (live key).isSome}.encard = s.length := by
  have hset : {key | (live key).isSome} = ((s.map (·.1)).toFinset : Set ObjectKey) :=
    Set.ext fun key => by simp [h.mem_keys_iff]
  rw [hset, Set.encard_coe_eq_coe_finsetCard, List.toFinset_card_of_nodup h.ordered.nodup,
    List.length_map]

/-- The keys whose jobs a tick fires, one after the other. -/
theorem exists_keys (h : Tracks s live) (t : Instant) : ∃ keys : List ObjectKey, keys.Nodup ∧
    (∀ key, key ∈ keys ↔ ∃ r, live key = some r ∧ r.Due t) ∧
      List.Forall₂ (fun key job => ∃ r, live key = some r ∧ r.job = job) keys (s.tick t).1 := by
  refine ⟨(s.filter fun x => isDue t x.2).map (·.1), (h.ordered.filter _).nodup, fun key => ?_, ?_⟩
  · simp only [List.mem_map, List.mem_filter]
    constructor
    · rintro ⟨x, ⟨hx, hdue⟩, rfl⟩
      obtain ⟨r, hr, hfollows⟩ := h.exists_live hx
      exact ⟨r, hr, (hfollows.isDue_iff t).1 hdue⟩
    · rintro ⟨r, hr, hdue⟩
      obtain ⟨e, he, hfollows⟩ := h.exists_entry hr
      exact ⟨(key, e), ⟨he, (hfollows.isDue_iff t).2 hdue⟩, rfl⟩
  · rw [tick, List.forall₂_map_left_iff, List.forall₂_map_right_iff, List.forall₂_same]
    intro x hx
    obtain ⟨r, hr, hfollows⟩ := h.exists_live (List.mem_of_mem_filter hx)
    exact ⟨r, hr, hfollows.job.symm⟩

end Tracks

theorem tracks_after (h : ∀ op ∈ history, op.Counted) :
    Tracks (after history) fun key => live? key history := by
  induction history with
  | nil => exact ⟨Table.ordered_nil, fun _ => .none⟩
  | cons op earlier ih =>
    obtain ⟨hop, hearlier⟩ := List.forall_mem_cons.1 h
    exact (ih hearlier).apply hop

/-- A tick fires the jobs of the keys whose registrations are due, each of them once. There are as
many entries as keys that are registered, nothing is left of a registration that was replaced or
removed, and an expression that is rejected changes nothing. -/
theorem tick_after (h : ∀ op ∈ history, op.Counted) (t : Instant) :
    (∃ keys : List ObjectKey, keys.Nodup ∧
      (∀ key, key ∈ keys ↔ ∃ r, live? key history = some r ∧ r.Due t) ∧
        List.Forall₂ (fun key job => ∃ r, live? key history = some r ∧ r.job = job) keys
          ((after history).tick t).1) ∧
    {key | (live? key history).isSome}.encard = (after history).length ∧
    (∀ later op earlier key, history = later ++ op :: earlier → op.Ends key →
      (after history).get? key = (after (later ++ [op])).get? key) ∧
    ∀ now key expression job, Crontab.parse? expression = none →
      (after history).register now key expression job = .error (.schedule expression) ∧
        after (.schedule now key expression job :: history) = after history := by
  have htracks := tracks_after h
  refine ⟨htracks.exists_keys t, htracks.encard_live, ?_, ?_⟩
  · rintro later op earlier key rfl hends
    exact get?_after_of_ends hends later earlier
  · exact fun now key expression job hread =>
      ⟨register_of_rejected hread, apply_of_rejected hread⟩

/-- An hourly backup that fired late, was replaced, and outlived an expression that is none; another
one that was removed; and a tick from before all of them. -/
def replaced : List (Operation String) :=
  [.tick 0, .schedule 9200 ⟨"default", "hourly"⟩ "never" "third", .unschedule ⟨"default", "other"⟩,
    .schedule 9100 ⟨"default", "hourly"⟩ "0 * * * *" "second", .tick 9000,
    .schedule 20 ⟨"default", "other"⟩ "@hourly" "other",
    .schedule 10 ⟨"default", "hourly"⟩ "@hourly" "first"]

theorem tick_after_replaced : ((after replaced).tick 10800).1 = ["second"] ∧
    ∃ keys : List ObjectKey, keys.Nodup ∧
      (∀ key, key ∈ keys ↔ ∃ r, live? key replaced = some r ∧ r.Due 10800) ∧
        List.Forall₂ (fun key job => ∃ r, live? key replaced = some r ∧ r.job = job) keys
          ["second"] := by
  have hcounted : ∀ op ∈ replaced, op.Counted := by decide +kernel
  have hfired : ((after replaced).tick 10800).1 = ["second"] := by decide +kernel
  exact ⟨hfired, hfired ▸ (tick_after hcounted 10800).1⟩

end GridOperator.Scheduler
