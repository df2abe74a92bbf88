import GridOperator.Cron.Expression
import GridOperator.Proofs.Time.Civil
import Mathlib.Order.Bounds.Basic

/-!
# The next time of a schedule

`next?` goes through the years, the months and the days of a schedule, and through
the hours, minutes and seconds of a day. Whatever it passes over as a whole is
either over or comes later than what it has found, so that it finds the first of
all instants at which the schedule fires.
-/

namespace GridOperator.Cron

open Civil

/-! ## The least of some numbers -/

/-- The least number with a property, none when no number has it. -/
def Least (P : Int → Prop) : Option Int → Prop
  | some t => IsLeast {t | P t} t
  | none => ∀ t, ¬ P t

namespace Least

variable {P Q : Int → Prop} {r : Option Int} {t : Int}

theorem congr (h : Least P r) (hiff : ∀ t, P t ↔ Q t) : Least Q r :=
  funext (fun t => propext (hiff t)) ▸ h

theorem ite_none {c : Prop} [Decidable c] (hnone : c → ∀ t, ¬ P t) (h : ¬ c → Least P r) :
    Least P (if c then none else r) := by
  split <;> rename_i hc
  · exact hnone hc
  · exact h hc

theorem ite_some (after t : Int) :
    Least (fun u => u = t ∧ after < u) (if after < t then some t else none) := by
  split <;> rename_i hlt
  · exact ⟨⟨rfl, hlt⟩, fun u hu => hu.1.ge⟩
  · exact fun u hu => hlt (hu.1 ▸ hu.2)

theorem map_add (h : Least P r) (n : Int) : Least (fun t => P (t - n)) (r.map (n + ·)) := by
  cases r with
  | none => exact fun t => h (t - n)
  | some t =>
    have hmem : P (n + t - n) := (add_sub_cancel_left n t).symm ▸ h.1
    exact ⟨hmem, fun u hu => Int.add_le_of_le_sub_left (h.2 hu)⟩

/-- What is found first in a list is the least of all if each number of an element comes before
those of the elements after it. -/
theorem findSome? {P : Nat → Int → Prop} {f : Nat → Option Int} {xs : List Nat}
    (hsorted : xs.Pairwise (· < ·)) (hleast : ∀ x ∈ xs, Least (P x) (f x))
    (horder : ∀ x ∈ xs, ∀ y ∈ xs, x < y → ∀ t u, P x t → P y u → t < u) :
    Least (fun t => ∃ x ∈ xs, P x t) (xs.findSome? f) := by
  induction xs with
  | nil => exact fun t ⟨x, hx, _⟩ => List.not_mem_nil hx
  | cons x xs ih =>
    obtain ⟨hfirst, hsorted⟩ := List.pairwise_cons.1 hsorted
    obtain ⟨hx, hleast⟩ := List.forall_mem_cons.1 hleast
    rw [List.findSome?_cons]
    cases hf : f x with
    | some t =>
      rw [hf] at hx
      refine ⟨⟨x, List.mem_cons_self, hx.1⟩, ?_⟩
      rintro u ⟨y, hy, hu⟩
      rcases List.mem_cons.1 hy with rfl | hmem
      · exact hx.2 hu
      · exact (horder x List.mem_cons_self y hy (hfirst y hmem) t u hx.1 hu).le
    | none =>
      rw [hf] at hx
      have hrest := ih hsorted hleast fun y hy z hz =>
        horder y (List.mem_cons_of_mem _ hy) z (List.mem_cons_of_mem _ hz)
      exact hrest.congr fun t => by simp [hx t]

/-- The least number is there by `t` exactly if some number is. -/
theorem any_le_iff (h : Least P r) (t : Int) : r.any (· ≤ t) ↔ ∃ u, P u ∧ u ≤ t := by
  cases r with
  | none => exact iff_of_false Bool.false_ne_true fun ⟨u, hu, _⟩ => h u hu
  | some v =>
    rw [Option.any_some, decide_eq_true_iff]
    exact ⟨fun hle => ⟨v, h.1, hle⟩, fun ⟨u, hu, hle⟩ => (h.2 hu).trans hle⟩

end Least

/-! ## Schedules whose values are in order -/

/-- Values of a part of a date or a time, in increasing order. -/
structure Part.Values (p : Part) (xs : List Nat) : Prop where
  sorted : xs.Pairwise (· < ·)
  bounds : ∀ x ∈ xs, p.lo ≤ x ∧ x ≤ p.hi

namespace Schedule

instance (s : Schedule) (t : Instant) : Decidable (s.Fires t) :=
  inferInstanceAs (Decidable (_ ∧ _))

/-- What the text of every schedule gives. The days of the week may be any. -/
structure Proper (s : Schedule) : Prop where
  seconds : Part.second.Values s.seconds
  minutes : Part.minute.Values s.minutes
  hours : Part.hour.Values s.hours
  daysOfMonth : Part.dayOfMonth.Values s.daysOfMonth
  months : Part.month.Values s.months
  years : Part.year.Values s.years

variable {s : Schedule} {after n t : Int} {year month day : Nat}

/-- A time of the day `n` that the schedule asks for. -/
def TimeOf (s : Schedule) (n t : Int) : Prop :=
  ∃ h ∈ s.hours, ∃ m ∈ s.minutes, ∃ sec ∈ s.seconds, t = n * 86400 + (h * 3600 + m * 60 + sec)

theorem Proper.second_lt (hs : s.Proper) {sec : Nat} (h : sec ∈ s.seconds) : sec < 60 :=
  Nat.lt_succ_of_le (hs.seconds.bounds sec h).2

theorem Proper.minute_lt (hs : s.Proper) {m : Nat} (h : m ∈ s.minutes) : m < 60 :=
  Nat.lt_succ_of_le (hs.minutes.bounds m h).2

theorem Proper.hour_lt (hs : s.Proper) {hour : Nat} (h : hour ∈ s.hours) : hour < 24 :=
  Nat.lt_succ_of_le (hs.hours.bounds hour h).2

theorem TimeOf.bounds (h : s.TimeOf n t) (hs : s.Proper) : n * 86400 ≤ t ∧ t < (n + 1) * 86400 := by
  obtain ⟨hour, hhour, m, hm, sec, hsec, rfl⟩ := h
  have := hs.hour_lt hhour
  have := hs.minute_lt hm
  have := hs.second_lt hsec
  omega

theorem least_timeAfter? (hs : s.Proper) (after : Int) :
    Least (fun t => ∃ h ∈ s.hours, ∃ m ∈ s.minutes, ∃ sec ∈ s.seconds,
      t = (h : Int) * 3600 + m * 60 + sec ∧ after < t) (s.timeAfter? after) := by
  have hsecond : ∀ sec ∈ s.seconds, sec < 60 := fun _ => hs.second_lt
  have hminute : ∀ m ∈ s.minutes, m < 60 := fun _ => hs.minute_lt
  refine .findSome? hs.hours.sorted (fun h _ => .ite_none ?hourOver fun _ =>
    .findSome? hs.minutes.sorted (fun m _ => .ite_none ?minuteOver fun _ =>
      .findSome? hs.seconds.sorted (fun sec _ => .ite_some after _) ?seconds) ?minutes) ?hours
  case hourOver =>
    rintro hover _ ⟨m, hm, sec, hsec, rfl, hafter⟩
    have := hminute m hm
    have := hsecond sec hsec
    omega
  case minuteOver =>
    rintro hover _ ⟨sec, hsec, rfl, hafter⟩
    have := hsecond sec hsec
    omega
  case seconds =>
    rintro sec - sec' - hlt _ _ ⟨rfl, -⟩ ⟨rfl, -⟩
    omega
  case minutes =>
    rintro m - m' - hlt _ _ ⟨sec, hsec, rfl, -⟩ ⟨sec', -, rfl, -⟩
    have := hsecond sec hsec
    omega
  case hours =>
    rintro h - h' - hlt _ _ ⟨m, hm, sec, hsec, rfl, -⟩ ⟨m', -, sec', -, rfl, -⟩
    have := hminute m hm
    have := hsecond sec hsec
    omega

/-- A time of a day, later than `after`. -/
theorem least_timeOf (hs : s.Proper) (n after : Int) :
    Least (fun t => s.TimeOf n t ∧ after < t)
      ((s.timeAfter? (after - n * 86400)).map (n * 86400 + ·)) := by
  refine ((least_timeAfter? hs _).map_add (n * 86400)).congr fun t => ?_
  constructor
  · rintro ⟨h, hh, m, hm, sec, hsec, ht, hafter⟩
    exact ⟨⟨h, hh, m, hm, sec, hsec, by omega⟩, by omega⟩
  · rintro ⟨⟨h, hh, m, hm, sec, hsec, ht⟩, hafter⟩
    exact ⟨h, hh, m, hm, sec, hsec, by omega, by omega⟩

/-- A time of a date that the schedule asks for, if the month has that day and the day of the week
is right. -/
structure DateTime (s : Schedule) (year month day : Nat) (t : Int) : Prop where
  day_le : day ≤ daysInMonth year month
  weekday : weekday (dayNumber year month day) ∈ s.daysOfWeek
  time : s.TimeOf (dayNumber year month day) t

theorem Proper.isDate (hs : s.Proper) (hmonth : month ∈ s.months) (hday : day ∈ s.daysOfMonth)
    (hle : day ≤ daysInMonth year month) : IsDate year month day :=
  ⟨(hs.months.bounds month hmonth).1, (hs.months.bounds month hmonth).2,
    (hs.daysOfMonth.bounds day hday).1, hle⟩

theorem fires_iff (hs : s.Proper) : s.Fires t ↔
    ∃ year ∈ s.years, ∃ month ∈ s.months, ∃ day ∈ s.daysOfMonth, s.DateTime year month day t := by
  constructor
  · rintro ⟨⟨year, hyear, heq⟩, hmonth, hday, hweekday, hhour, hminute, hsecond⟩
    have htime := isTime_ofInstant t
    have hnumber := dayNumber_ofInstant t
    rw [heq] at hnumber
    refine ⟨year, hyear, _, hmonth, _, hday, heq ▸ htime.date.day_le, ?_, ?_⟩
    · rw [hnumber]
      exact hweekday
    · refine ⟨_, hhour, _, hminute, _, hsecond, ?_⟩
      rw [hnumber]
      simp only [ofInstant, Instant]
      omega
  · rintro ⟨year, hyear, month, hmonth, day, hday, hle, hweekday, h, hh, m, hm, sec, hsec, ht⟩
    let c : Civil := ⟨year, month, day, h, m, sec⟩
    have htime : c.IsTime :=
      ⟨hs.isDate hmonth hday hle, hs.hour_lt hh, hs.minute_lt hm, hs.second_lt hsec⟩
    have ht : t = c.toInstant := by
      simp only [c, toInstant, Instant]
      omega
    have hc := ht ▸ htime.ofInstant_toInstant
    have hdiv := ht ▸ htime.toInstant_div
    rw [Fires, hc]
    exact ⟨⟨year, hyear, rfl⟩, hmonth, hday, hdiv ▸ hweekday, hh, hm, hsec⟩

theorem DateTime.bounds (h : s.DateTime year month day t) (hs : s.Proper) :
    dayNumber year month day * 86400 ≤ t ∧ t < (dayNumber year month day + 1) * 86400 :=
  h.time.bounds hs

theorem least_next?_of_year (hs : s.Proper) (hyear : 0 ≤ (ofInstant (after + 1)).year) :
    Least (fun t => ∃ year ∈ s.years, ∃ month ∈ s.months, ∃ day ∈ s.daysOfMonth,
      s.DateTime year month day t ∧ after < t) (s.next? after) := by
  rw [next?, if_neg (Int.not_lt.2 hyear)]
  refine .findSome? hs.years.sorted (fun year _ => .ite_none ?yearOver fun _ =>
    .findSome? hs.months.sorted (fun month hmonth => .ite_none ?monthOver fun _ =>
      .findSome? hs.daysOfMonth.sorted (fun day hday => .ite_none ?noDay fun hsome => ?day)
        ?days) ?months) ?years
  case yearOver =>
    rintro hover t ⟨month, hmonth, day, hday, h, hafter⟩
    have hlt := (hs.isDate hmonth hday h.day_le).dayNumber_lt_next_year
    have hbounds := h.bounds hs
    omega
  case monthOver =>
    rintro hover t ⟨day, hday, h, hafter⟩
    have hle := h.day_le
    have hbounds := h.bounds hs
    rw [dayNumber_eq_add] at hbounds
    omega
  case noDay =>
    rintro (hlt | hnot) t ⟨h, -⟩
    · exact Nat.not_lt.2 h.day_le hlt
    · exact hnot h.weekday
  case day =>
    rw [not_or, Nat.not_lt, not_not] at hsome
    exact (least_timeOf hs _ after).congr fun t =>
      and_congr_left' ⟨fun h => ⟨hsome.1, hsome.2, h⟩, DateTime.time⟩
  case days =>
    rintro day - day' - hlt t u ⟨h, -⟩ ⟨h', -⟩
    have hbounds := h.bounds hs
    have hbounds' := h'.bounds hs
    rw [dayNumber_eq_add] at hbounds hbounds'
    omega
  case months =>
    rintro month hmonth month' hmonth' hlt t u ⟨day, hday, h, -⟩ ⟨day', hday', h', -⟩
    have hdate' := hs.isDate hmonth' hday' h'.day_le
    have hless := (hs.isDate hmonth hday h.day_le).dayNumber_lt_of_month_lt hlt hdate'.month_le
    have hfirst := hdate'.first_le
    have hbounds := h.bounds hs
    have hbounds' := h'.bounds hs
    omega
  case years =>
    rintro year - year' - hlt t u ⟨month, hmonth, day, hday, h, -⟩
      ⟨month', hmonth', day', hday', h', -⟩
    have hdate' := hs.isDate hmonth' hday' h'.day_le
    have hless := (hs.isDate hmonth hday h.day_le).dayNumber_lt_of_year_lt
      (Int.ofNat_lt.2 hlt) hdate'.month_pos hdate'.month_le
    have hfirst := hdate'.first_le
    have hbounds := h.bounds hs
    have hbounds' := h'.bounds hs
    omega

/-- The next time is the first instant later than the given one at which the schedule fires. -/
theorem least_next? (hs : s.Proper) (hyear : 0 ≤ (ofInstant (after + 1)).year) :
    Least (fun t => s.Fires t ∧ after < t) (s.next? after) :=
  (least_next?_of_year hs hyear).congr fun t => by
    simp only [fires_iff hs, ← exists_and_right, and_assoc]

end Schedule

end GridOperator.Cron
