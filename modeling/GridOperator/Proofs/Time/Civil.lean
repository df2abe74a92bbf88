import GridOperator.Time.Civil
import Mathlib.Order.Interval.Finset.Nat
import Mathlib.Tactic.IntervalCases

/-!
# Days and their dates

Day numbers and dates stand for each other, and later dates have larger numbers.
Both functions count years from March: such a year begins on the day
`daysBeforeMarch`, and its months have 153 days in every five.
-/

namespace GridOperator.Civil

variable {year year' : Int} {month month' day day' : Nat}

/-- A month of a year and a day of it. -/
structure IsDate (year : Int) (month day : Nat) : Prop where
  month_pos : 1 ≤ month
  month_le : month ≤ 12
  day_pos : 1 ≤ day
  day_le : day ≤ daysInMonth year month

/-- The days before the first of March of a year, counted from that of the year 0. -/
def daysBeforeMarch (year : Int) : Int := 365 * year + year / 4 - year / 100 + year / 400

theorem isLeap_iff (year : Int) :
    isLeap year ↔ year % 4 = 0 ∧ (year % 100 ≠ 0 ∨ year % 400 = 0) := by
  simp [isLeap]

/-- The leap day is the last one of a year that begins with March. -/
theorem daysBeforeMarch_succ (year : Int) :
    daysBeforeMarch (year + 1) =
      daysBeforeMarch year + if isLeap (year + 1) then 366 else 365 := by
  simp only [daysBeforeMarch, isLeap_iff]
  omega

theorem daysBeforeMarch_era (year era : Int) :
    daysBeforeMarch (year + era * 400) = daysBeforeMarch year + 146097 * era := by
  simp only [daysBeforeMarch]
  omega

theorem dayNumber_of_le (h : month ≤ 2) (year : Int) (day : Nat) : dayNumber year month day =
    daysBeforeMarch (year - 1) + (153 * ((month + 9 : Int) % 12) + 2) / 5 + day - 719469 := by
  simp only [dayNumber, if_pos h, daysBeforeMarch]
  omega

theorem dayNumber_of_lt (h : 2 < month) (year : Int) (day : Nat) : dayNumber year month day =
    daysBeforeMarch year + (153 * ((month + 9 : Int) % 12) + 2) / 5 + day - 719469 := by
  simp only [dayNumber, if_neg (Nat.not_le.2 h), daysBeforeMarch]
  omega

theorem dayNumber_eq_add (year : Int) (month day : Nat) :
    dayNumber year month day = dayNumber year month 1 + day - 1 := by
  simp only [dayNumber]
  omega

theorem dayNumber_succ_month (year : Int) (hpos : 1 ≤ month) (hlt : month < 12) :
    dayNumber year (month + 1) 1 = dayNumber year month 1 + daysInMonth year month := by
  -- Only between February and March does the year counted from March change.
  by_cases hfebruary : month = 2
  · subst hfebruary
    have hyear := daysBeforeMarch_succ (year - 1)
    rw [Int.sub_add_cancel] at hyear
    rw [dayNumber_of_lt (by omega), dayNumber_of_le (by omega), hyear, daysInMonth]
    split <;> omega
  · interval_cases month
    case «2» => exact absurd rfl hfebruary
    all_goals
      simp [dayNumber, daysInMonth]
      omega

theorem dayNumber_succ_year (year : Int) :
    dayNumber (year + 1) 1 1 = dayNumber year 12 1 + daysInMonth year 12 := by
  have hdays : daysInMonth year 12 = 31 := rfl
  rw [dayNumber_of_le (by omega), dayNumber_of_lt (by omega), Int.add_sub_cancel, hdays]
  omega

/-! ## The order of dates -/

theorem dayNumber_mono_month (year : Int) (hpos : 1 ≤ month) (hle : month ≤ month')
    (hle' : month' ≤ 12) : dayNumber year month 1 ≤ dayNumber year month' 1 := by
  induction month', hle using Nat.le_induction with
  | base => exact Int.le_refl _
  | succ m hm ih =>
    have hbefore := ih (by omega)
    have hnext := dayNumber_succ_month year (show 1 ≤ m by omega) (by omega)
    omega

theorem dayNumber_mono_year (h : year ≤ year') : dayNumber year 1 1 ≤ dayNumber year' 1 1 := by
  simp only [dayNumber_of_le (show 1 ≤ 2 by omega), daysBeforeMarch]
  omega

/-- A month ends before a later one of the same year begins. -/
theorem IsDate.dayNumber_lt_of_month_lt (h : IsDate year month day) (hlt : month < month')
    (hle : month' ≤ 12) : dayNumber year month day < dayNumber year month' 1 := by
  have hnext := dayNumber_succ_month year h.month_pos (by omega)
  have hlater := dayNumber_mono_month year (show 1 ≤ month + 1 by omega) hlt hle
  have hday := h.day_le
  rw [dayNumber_eq_add]
  omega

/-- A year ends before the next one begins. -/
theorem IsDate.dayNumber_lt_next_year (h : IsDate year month day) :
    dayNumber year month day < dayNumber (year + 1) 1 1 := by
  have hday := h.day_le
  have hnext := dayNumber_succ_year year
  rcases Nat.lt_or_eq_of_le h.month_le with hlt | rfl
  · have hlast := h.dayNumber_lt_of_month_lt hlt (Nat.le_refl _)
    omega
  · rw [dayNumber_eq_add]
    omega

theorem IsDate.dayNumber_lt_of_year_lt (h : IsDate year month day) (hlt : year < year')
    (hpos : 1 ≤ month') (hle : month' ≤ 12) :
    dayNumber year month day < dayNumber year' month' 1 := by
  have hend := h.dayNumber_lt_next_year
  have hlater := dayNumber_mono_year hlt
  have hmonth := dayNumber_mono_month year' (Nat.le_refl 1) hpos hle
  omega

theorem IsDate.first_le (h : IsDate year month day) :
    dayNumber year month 1 ≤ dayNumber year month day := by
  have hpos := h.day_pos
  rw [dayNumber_eq_add year month day]
  omega

theorem IsDate.year_le_of_dayNumber_le (h : IsDate year month day)
    (h' : IsDate year' month' day')
    (hle : dayNumber year month day ≤ dayNumber year' month' day') : year ≤ year' := by
  by_contra hlt
  have hlater := h'.dayNumber_lt_of_year_lt (Int.not_le.1 hlt) h.month_pos h.month_le
  have hfirst := h.first_le
  omega

/-- Different dates have different numbers. -/
theorem IsDate.eq_of_dayNumber_eq (h : IsDate year month day) (h' : IsDate year' month' day')
    (heq : dayNumber year month day = dayNumber year' month' day') :
    year = year' ∧ month = month' ∧ day = day' := by
  obtain rfl : year = year' := Int.le_antisymm (h.year_le_of_dayNumber_le h' heq.le)
    (h'.year_le_of_dayNumber_le h heq.ge)
  have hfirst := h.first_le
  have hfirst' := h'.first_le
  rcases Nat.lt_trichotomy month month' with hlt | rfl | hlt
  · have := h.dayNumber_lt_of_month_lt hlt h'.month_le
    omega
  · rw [dayNumber_eq_add, dayNumber_eq_add year month day'] at heq
    exact ⟨rfl, rfl, by omega⟩
  · have := h'.dayNumber_lt_of_month_lt hlt h.month_le
    omega

/-! ## The date of a day -/

/-- The year of an era that holds a day of its century `c`; the last day of an era is in none. -/
theorem daysBeforeMarch_bounds_of_century {c d y : Int} (hc : 0 ≤ c ∧ c < 4)
    (hd : 36524 * c ≤ d ∧ d < 36524 * (c + 1)) (hy : y = (d - d / 1460 + c) / 365) :
    100 * c ≤ y ∧ y < 100 * (c + 1) ∧ daysBeforeMarch y ≤ d ∧ d < daysBeforeMarch (y + 1) := by
  have hlo : 100 * c ≤ y := by omega
  have hhi : y < 100 * (c + 1) := by omega
  have hyear : 365 * y ≤ d - d / 1460 + c := by omega
  have hyear' : d - d / 1460 + c < 365 * (y + 1) := by omega
  have hleaps : y / 4 ≤ d / 1460 := by omega
  have hcentury : y / 100 = c := by omega
  have hera : y / 400 = 0 := by omega
  refine ⟨hlo, hhi, ?_, ?_⟩
  · simp only [daysBeforeMarch, hcentury, hera]
    omega
  · -- The day after the last one of a century is in the next, where other leap days are left out.
    by_cases hlast : y + 1 = 100 * (c + 1)
    · simp only [daysBeforeMarch, hlast]
      omega
    · have hleaps' : d / 1460 ≤ (y + 1) / 4 := by omega
      have hcentury' : (y + 1) / 100 = c := by omega
      have hera' : (y + 1) / 400 = 0 := by omega
      simp only [daysBeforeMarch, hcentury', hera']
      omega

/-- The year of an era that holds a day. -/
theorem daysBeforeMarch_bounds {d y : Int} (hd : 0 ≤ d ∧ d < 146097)
    (hy : y = (d - d / 1460 + d / 36524 - d / 146096) / 365) :
    0 ≤ y ∧ y < 400 ∧ daysBeforeMarch y ≤ d ∧ d < daysBeforeMarch (y + 1) := by
  by_cases hlast : d = 146096
  · subst hlast hy
    decide
  · have hy' : y = (d - d / 1460 + d / 36524) / 365 := by omega
    have hcentury := daysBeforeMarch_bounds_of_century (c := d / 36524) (by omega) (by omega) hy'
    omega

/-- The lengths of the months up to January, the first of them being March. -/
theorem daysInMonth_ofMarch (year : Int) {m : Nat} (h : m < 11) :
    (daysInMonth year ((m + 2) % 12 + 1) : Int) = (153 * (m + 1) + 2) / 5 - (153 * m + 2) / 5 := by
  interval_cases m <;> rfl

/-- The date of a day of the year that begins with the first of March of `y`. -/
theorem isDate_ofMarch {y dayOfYear m month : Int} (hday : 0 ≤ dayOfYear)
    (hday' : daysBeforeMarch y + dayOfYear < daysBeforeMarch (y + 1))
    (hm : m = (5 * dayOfYear + 2) / 153) (hmonth : month = if m < 10 then m + 3 else m - 9) :
    let year := y + if month ≤ 2 then 1 else 0
    let day := dayOfYear - (153 * m + 2) / 5 + 1
    IsDate year month.toNat day.toNat ∧
      dayNumber year month.toNat day.toNat = daysBeforeMarch y + dayOfYear - 719468 := by
  have hyear := daysBeforeMarch_succ y
  have hlast : dayOfYear ≤ 365 := by
    split at hyear <;> omega
  obtain ⟨k, rfl⟩ := Int.eq_ofNat_of_zero_le (show 0 ≤ m by omega)
  have hk : k ≤ 11 := by omega
  have hshift : ((month.toNat : Int) + 9) % 12 = k := by
    split at hmonth <;> omega
  have hmonth' : month.toNat = (k + 2) % 12 + 1 := by omega
  intro year day
  have hle : day.toNat ≤ daysInMonth year month.toNat := by
    rcases Nat.lt_or_eq_of_le hk with hlt | rfl
    · have hlength := daysInMonth_ofMarch year hlt
      rw [hmonth']
      omega
    · have hnext : year = y + 1 := by
        simp only [year]
        omega
      rw [hmonth', hnext, daysInMonth]
      split at hyear <;> rename_i hleap
      · rw [if_pos hleap]
        omega
      · rw [if_neg hleap]
        omega
  refine ⟨⟨by omega, by omega, by omega, hle⟩, ?_⟩
  by_cases hfirst : month ≤ 2
  · have hnext : year = y + 1 := by simp only [year, if_pos hfirst]
    rw [dayNumber_of_le (by omega), hnext, Int.add_sub_cancel, hshift]
    omega
  · have hsame : year = y := by simp only [year, if_neg hfirst, Int.add_zero]
    rw [dayNumber_of_lt (by omega), hsame, hshift]
    omega

/-- Every day has a date, and the number of that is the one of the day. -/
theorem isDate_ofDayNumber (n : Int) :
    let date := ofDayNumber n
    IsDate date.1 date.2.1 date.2.2 ∧ dayNumber date.1 date.2.1 date.2.2 = n := by
  intro date
  let era := (n + 719468) / 146097
  let d := (n + 719468) % 146097
  let y := (d - d / 1460 + d / 36524 - d / 146096) / 365
  let dayOfYear := d - (365 * y + y / 4 - y / 100)
  obtain ⟨hy, hy', hle, hlt⟩ := daysBeforeMarch_bounds (d := d) (y := y) (by omega) rfl
  have hmarch : daysBeforeMarch y = 365 * y + y / 4 - y / 100 := by
    simp only [daysBeforeMarch]
    omega
  have hera := daysBeforeMarch_era y era
  have hera' := daysBeforeMarch_era (y + 1) era
  rw [Int.add_right_comm] at hera'
  obtain ⟨hdate, hnumber⟩ := isDate_ofMarch (y := y + era * 400)
    (show 0 ≤ dayOfYear by omega) (by omega) rfl rfl
  refine ⟨hdate, hnumber.trans ?_⟩
  omega

theorem IsDate.ofDayNumber_dayNumber (h : IsDate year month day) :
    ofDayNumber (dayNumber year month day) = (year, month, day) := by
  obtain ⟨hdate, hnumber⟩ := isDate_ofDayNumber (dayNumber year month day)
  obtain ⟨hyear, hmonth, hday⟩ := hdate.eq_of_dayNumber_eq h hnumber
  exact Prod.ext hyear (Prod.ext hmonth hday)

/-! ## Instants -/

variable {c : Civil} {t u : Instant}

/-- A date and a time of that day. -/
structure IsTime (c : Civil) : Prop where
  date : IsDate c.year c.month c.day
  hour_lt : c.hour < 24
  minute_lt : c.minute < 60
  second_lt : c.second < 60

theorem isTime_ofInstant (t : Instant) : (ofInstant t).IsTime := by
  refine ⟨(isDate_ofDayNumber (t / 86400)).1, ?_, ?_, ?_⟩
  all_goals
    simp only [ofInstant]
    omega

theorem dayNumber_ofInstant (t : Instant) :
    dayNumber (ofInstant t).year (ofInstant t).month (ofInstant t).day = t / 86400 :=
  (isDate_ofDayNumber (t / 86400)).2

@[simp] theorem toInstant_ofInstant (t : Instant) : (ofInstant t).toInstant = t := by
  simp only [toInstant, dayNumber_ofInstant, Instant]
  simp only [ofInstant, Instant]
  omega

/-- The day of a time. -/
theorem IsTime.toInstant_div (h : c.IsTime) :
    c.toInstant / 86400 = dayNumber c.year c.month c.day := by
  have hhour := h.hour_lt
  have hminute := h.minute_lt
  have hsecond := h.second_lt
  simp only [toInstant, Instant]
  omega

/-- The seconds of a time since its day began. -/
theorem IsTime.toInstant_mod (h : c.IsTime) :
    c.toInstant % 86400 = (c.hour * 60 + c.minute) * 60 + c.second := by
  have hhour := h.hour_lt
  have hminute := h.minute_lt
  have hsecond := h.second_lt
  simp only [toInstant, Instant]
  omega

theorem IsTime.ofInstant_toInstant (h : c.IsTime) : ofInstant c.toInstant = c := by
  obtain ⟨year, month, day, hour, minute, second⟩ := c
  have hhour : hour < 24 := h.hour_lt
  have hminute : minute < 60 := h.minute_lt
  have hsecond : second < 60 := h.second_lt
  simp only [ofInstant, h.toInstant_div, h.date.ofDayNumber_dayNumber, h.toInstant_mod, mk.injEq,
    true_and]
  omega

theorem year_ofInstant_mono (h : t ≤ u) : (ofInstant t).year ≤ (ofInstant u).year := by
  refine (isTime_ofInstant t).date.year_le_of_dayNumber_le (isTime_ofInstant u).date ?_
  rw [dayNumber_ofInstant, dayNumber_ofInstant]
  exact Int.ediv_le_ediv (by decide) h

end GridOperator.Civil
