import GridOperator.Cron.Crontab
import GridOperator.Proofs.Cron.Reading
import Mathlib.Data.Option.Basic

/-!
# The days of the week of a crontab line

Crontab counts the days of the week from 0 to 7, both ends being Sunday, and an
expression from 1 (Sunday) to 7. The shift by one takes the days up to Saturday
to the same days (`DayItem.gives_shifted`). What it makes of the Sunday that
ends a week depends on how that day was written: a range up to 7 loses it if it
has a step, and the range from 7 to 7 is left in the old numbering, where it is
a Saturday.
-/

namespace GridOperator.Cron

open Text Expression

/-! ## Values of the day-of-week field -/

theorem everyUpTo_one (a b : Nat) : everyUpTo a b 1 = upTo a b :=
  List.filter_eq_self.2 fun n _ => by rw [Nat.mod_one]; rfl

namespace Crontab

/-- The steps that a week has room for. -/
def IsStep (step : Option Nat) : Prop := ∀ s ∈ step, 1 ≤ s ∧ s ≤ 7

variable {step : Option Nat} {a b w : Nat}

theorem values?_withStep {base : Base} (hbase : ∀ n, base ≠ .point n)
    (hbounds : base.bounds? .dayOfWeek = some (a, b)) (hstep : IsStep step) :
    (base.withStep step).values? .dayOfWeek = some (everyUpTo a b (step.getD 1)) := by
  cases step with
  | none =>
    rw [Option.getD_none, everyUpTo_one]
    simp only [Base.withStep, Item.values?, hbounds, Option.map_some]
  | some s =>
    have hs : ¬ (s = 0 ∨ Part.dayOfWeek.hi < s) := by
      have := hstep s rfl
      simp only [Part.dayOfWeek]
      omega
    cases base with
    | point n => exact absurd rfl (hbase n)
    | _ =>
      simp only [Base.withStep, Item.values?, if_neg hs, hbounds, Option.map_some,
        Option.getD_some]

theorem values?_all (hstep : IsStep step) :
    (Base.all.withStep step).values? .dayOfWeek = some (everyUpTo 1 7 (step.getD 1)) :=
  values?_withStep nofun rfl hstep

theorem values?_range (hab : 1 ≤ a ∧ a ≤ b ∧ b ≤ 7) (hstep : IsStep step) :
    ((Base.range a b).withStep step).values? .dayOfWeek =
      some (everyUpTo a b (step.getD 1)) :=
  values?_withStep nofun (if_pos hab) hstep

theorem values?_point (hw : 1 ≤ w ∧ w ≤ 7) :
    (Item.plain (.point w)).values? .dayOfWeek = some [w] := by
  have hbounds : (Base.point w).bounds? .dayOfWeek = some (w, w) := if_pos hw
  have hone : w + 1 - w = 1 := by omega
  simp only [Item.values?, hbounds, Option.map_some, upTo, hone]
  rfl

/-! ## Items in the numbering of crontab -/

/-- An item of the day-of-week field: every day, one day or a range, all but the one day perhaps
with a step. -/
inductive DayItem where
  | all (step : Option Nat)
  | day (d : Nat)
  | range (a b : Nat) (step : Option Nat)

namespace DayItem

def InWeek : DayItem → Prop
  | all step => IsStep step
  | day d => d ≤ 7
  | range a b step => (a ≤ b ∧ b ≤ 7) ∧ IsStep step

/-- The days of an item: from the first one to the last one, by the step. -/
def Has : DayItem → Nat → Prop
  | all step, d => d ≤ 7 ∧ step.getD 1 ∣ d
  | day e, d => d = e
  | range a b step, d => (a ≤ d ∧ d ≤ b) ∧ step.getD 1 ∣ d - a

/-- What crontab assigns to an item. The days of the week `w` count from Sunday, which is 1, and
both 0 and 7 stand for it. -/
def Assigns (i : DayItem) (w : Nat) : Prop := ∃ d, i.Has d ∧ d % 7 + 1 = w

/-- The item ends on a Sunday that the shift does not keep. -/
def LosesSunday : DayItem → Prop
  | range a b step => (range a b step).Has 7 ∧ 0 < a ∧ (a = 7 ∨ step ≠ none)
  | _ => False

/-- The item is the range from 7 to 7, which the shift leaves as it is. -/
def TakesSaturday : DayItem → Prop
  | range a _ _ => a = 7
  | _ => False

/-- The items that the shift makes. -/
def shifted : DayItem → List Item
  | all step => [Base.all.withStep step]
  | day d => [.plain (.point (d % 7 + 1))]
  | range a b step =>
    if b = 7 ∧ 0 < a ∧ a ≤ 6 ∧ step = none then [.plain (.range (a + 1) 7), .plain (.point 1)]
    else if a ≤ 6 then [(Base.range (a + 1) (min b 6 + 1)).withStep step]
    else [(Base.range a b).withStep step]

variable {i : DayItem}

theorem Has.le_seven (hi : i.InWeek) {d : Nat} (h : i.Has d) : d ≤ 7 := by
  cases i with
  | all => exact h.1
  | day => exact h.trans_le hi
  | range => exact h.1.2.trans hi.1.2

theorem Assigns.bounds {w : Nat} (h : i.Assigns w) : 1 ≤ w ∧ w ≤ 7 := by
  obtain ⟨d, -, rfl⟩ := h
  omega

/-- The day 7 apart, a day of the week is assigned under the number before its own. -/
theorem assigns_iff (hi : i.InWeek) (hw : 1 ≤ w ∧ w ≤ 7) :
    i.Assigns w ↔ i.Has (w - 1) ∨ w = 1 ∧ i.Has 7 := by
  constructor
  · rintro ⟨d, hd, rfl⟩
    rcases Nat.lt_or_eq_of_le (hd.le_seven hi) with hlt | rfl
    · rw [Nat.mod_eq_of_lt hlt]
      exact .inl hd
    · exact .inr ⟨rfl, hd⟩
  · rintro (h | ⟨rfl, h⟩)
    · exact ⟨w - 1, h, by omega⟩
    · exact ⟨7, h, rfl⟩

/-- What the shift leaves of an item. -/
def Left (i : DayItem) (w : Nat) : Prop :=
  (i.Assigns w ∧ ¬ (w = 1 ∧ i.LosesSunday)) ∨ (w = 7 ∧ i.TakesSaturday)

theorem Left.bounds (h : i.Left w) : 1 ≤ w ∧ w ≤ 7 := by
  rcases h with ⟨h, -⟩ | ⟨rfl, -⟩
  · exact h.bounds
  · decide

theorem LosesSunday.assigns (h : i.LosesSunday) : i.Assigns 1 := by
  cases i with
  | range => exact ⟨7, h.1, rfl⟩
  | all => exact h.elim
  | day => exact h.elim

theorem Left.one (h : i.Left 1) : i.Assigns 1 ∧ ¬ i.LosesSunday := by
  rcases h with ⟨h, hkept⟩ | ⟨h, -⟩
  · exact ⟨h, fun hlost => hkept ⟨rfl, hlost⟩⟩
  · exact absurd h (by decide)

theorem left_all (hi : (all step).InWeek) :
    (all step).Left w ↔ w ∈ everyUpTo 1 7 (step.getD 1) := by
  rw [mem_everyUpTo]
  constructor
  · intro h
    have hw := h.bounds
    rcases h with ⟨h, -⟩ | ⟨-, h⟩
    · rcases (assigns_iff hi hw).1 h with h | ⟨rfl, -⟩
      · exact ⟨hw, h.2⟩
      · exact ⟨by decide, Nat.dvd_zero _⟩
    · exact h.elim
  · rintro ⟨hw, hdvd⟩
    exact .inl ⟨(assigns_iff hi hw).2 (.inl ⟨by omega, hdvd⟩), fun h => h.2⟩

theorem left_day {d : Nat} : (day d).Left w ↔ w = d % 7 + 1 := by
  constructor
  · rintro (⟨⟨_, rfl, h⟩, -⟩ | ⟨-, h⟩)
    · exact h.symm
    · exact h.elim
  · rintro rfl
    exact .inl ⟨⟨d, rfl, rfl⟩, fun h => h.2⟩

theorem not_takesSaturday (ha : a ≤ 6) : ¬ (range a b step).TakesSaturday := by
  rintro rfl
  exact absurd ha (by decide)

theorem left_split (ha : 0 < a ∧ a ≤ 6) :
    (range a 7 none).Left w ↔ (a + 1 ≤ w ∧ w ≤ 7) ∨ w = 1 := by
  have hi : (range a 7 none).InWeek := ⟨⟨by omega, le_rfl⟩, nofun⟩
  have hkept : ¬ (range a 7 none).LosesSunday := by
    rintro ⟨-, -, rfl | h⟩
    · exact absurd ha.2 (by decide)
    · exact h rfl
  simp only [Left, hkept, not_takesSaturday ha.2, and_false, not_false_eq_true, and_true, or_false]
  constructor
  · intro h
    rcases (assigns_iff hi h.bounds).1 h with h' | h'
    · have := h'.1
      have := h.bounds
      omega
    · exact .inr h'.1
  · rintro (h | rfl)
    · exact (assigns_iff hi (by omega)).2 (.inl ⟨by omega, Nat.one_dvd _⟩)
    · exact (assigns_iff hi (by decide)).2 (.inr ⟨rfl, by omega, Nat.one_dvd _⟩)

theorem left_range (hi : (range a b step).InWeek) (ha : a ≤ 6)
    (hsplit : ¬ (b = 7 ∧ 0 < a ∧ a ≤ 6 ∧ step = none)) :
    (range a b step).Left w ↔ w ∈ everyUpTo (a + 1) (min b 6 + 1) (step.getD 1) := by
  have hsub : w - (a + 1) = w - 1 - a := by omega
  simp only [Left, not_takesSaturday ha, and_false, or_false, mem_everyUpTo, hsub]
  constructor
  · rintro ⟨h, hkept⟩
    have hw := h.bounds
    rcases (assigns_iff hi hw).1 h with ⟨hbounds, hdvd⟩ | ⟨rfl, hlast⟩
    · exact ⟨by omega, hdvd⟩
    · -- A last Sunday that is not lost is also the first day.
      have hb : b = 7 := Nat.le_antisymm hi.1.2 hlast.1.2
      have hzero : ¬ 0 < a := fun hpos =>
        hkept ⟨rfl, hlast, hpos, .inr fun hstep => hsplit ⟨hb, hpos, ha, hstep⟩⟩
      exact ⟨by omega, by simp⟩
  · rintro ⟨hbounds, hdvd⟩
    have hhas : (range a b step).Has (w - 1) := ⟨by omega, hdvd⟩
    refine ⟨(assigns_iff hi (by omega)).2 (.inl hhas), ?_⟩
    rintro ⟨rfl, -, hpos, -⟩
    exact absurd hhas.1.1 (by omega)

theorem left_seven (hi : (range 7 b step).InWeek) :
    (range 7 b step).Left w ↔ w ∈ everyUpTo 7 b (step.getD 1) := by
  obtain rfl : b = 7 := Nat.le_antisymm hi.1.2 hi.1.1
  have hlost : (range 7 7 step).LosesSunday := ⟨⟨by decide, by simp⟩, by decide, .inl rfl⟩
  rw [mem_everyUpTo]
  constructor
  · rintro (⟨h, hkept⟩ | ⟨rfl, -⟩)
    · have hw := h.bounds
      rcases (assigns_iff hi hw).1 h with ⟨hbounds, -⟩ | ⟨hone, -⟩
      · omega
      · exact absurd ⟨hone, hlost⟩ hkept
    · exact ⟨by decide, by simp⟩
  · rintro ⟨hbounds, -⟩
    exact .inr ⟨by omega, rfl⟩

/-- The shifted items give what the shift leaves. -/
theorem give_shifted (hi : i.InWeek) : Give .dayOfWeek i.shifted i.Left := by
  cases i with
  | all step => exact (Give.singleton (values?_all hi)).congr fun w => (left_all hi).symm
  | day d =>
    have hpoint := values?_point (w := d % 7 + 1) (by omega)
    exact (Give.singleton hpoint).congr fun w => by rw [List.mem_singleton, left_day]
  | range a b step =>
    obtain ⟨⟨hab, hb⟩, hstep⟩ := hi
    by_cases hsplit : b = 7 ∧ 0 < a ∧ a ≤ 6 ∧ step = none
    · rw [shifted, if_pos hsplit]
      obtain ⟨rfl, hpos, ha, rfl⟩ := hsplit
      have hrange := values?_range (a := a + 1) (b := 7) (by omega) hstep
      have hsunday := values?_point (w := 1) (by decide)
      refine ((Give.singleton hrange).append (.singleton hsunday)).congr fun w => ?_
      rw [left_split ⟨hpos, ha⟩, Option.getD_none, everyUpTo_one, mem_upTo, List.mem_singleton]
    · by_cases ha : a ≤ 6
      · rw [shifted, if_neg hsplit, if_pos ha]
        exact (Give.singleton (values?_range (by omega) hstep)).congr fun w =>
          (left_range ⟨⟨hab, hb⟩, hstep⟩ ha hsplit).symm
      · rw [shifted, if_neg hsplit, if_neg ha]
        obtain rfl : a = 7 := by omega
        exact (Give.singleton (values?_range (by omega) hstep)).congr fun w =>
          (left_seven ⟨⟨hab, hb⟩, hstep⟩).symm

end DayItem

/-! ## The text of the field -/

/-- The texts of an item that stays within the week. -/
inductive WritesDays : List Char → DayItem → Prop where
  | all {st : List Char} {step : Option Nat} (hs : WritesStep st step)
      (hi : (DayItem.all step).InWeek) : WritesDays ('*' :: st) (.all step)
  | day {cs : List Char} {d : Nat} (h : Numeral cs d) (hi : (DayItem.day d).InWeek) :
      WritesDays cs (.day d)
  | range {as bs st : List Char} {a b : Nat} {step : Option Nat} (ha : Numeral as a)
      (hb : Numeral bs b) (hs : WritesStep st step) (hi : (DayItem.range a b step).InWeek) :
      WritesDays (as ++ '-' :: bs ++ st) (.range a b step)

variable {cs as bs st field : List Char} {d : Nat} {i : DayItem} {items : List DayItem}

theorem WritesDays.inWeek (h : WritesDays cs i) : i.InWeek := by
  cases h <;> assumption

theorem day?_eq (h : Numeral cs d) (hd : d ≤ 7) : day? cs = some d := by
  rw [day?, h.natural?_eq]
  exact Option.filter_some_pos (decide_eq_true (by omega))

theorem numeral_number (n : Nat) : Numeral (number n) n := Numeral.toString n

theorem lt_size {n : Nat} (h : n ≤ 8) : n < UInt32.size := h.trans_lt (by decide)

theorem shiftItem_append (hcs : '/' ∉ cs) (hs : WritesStep st step) :
    shiftItem (cs ++ st) = shiftRange cs step.isSome ++ st := by
  cases hs with
  | none => simp only [List.append_nil, shiftItem, splitOnce_of_notMem hcs, Option.isSome_none]
  | some => simp only [shiftItem, splitOnce_append hcs, Option.isSome_some]

theorem shiftRange_numeral (h : Numeral cs d) (hd : d ≤ 7) (stepped : Bool) :
    shiftRange cs stepped = number (d % 7 + 1) := by
  have hdash : '-' ∉ cs := h.notMem rfl
  simp only [shiftRange, splitOnce_of_notMem hdash, day?_eq h hd, if_pos hd]

theorem shiftRange_range (ha : Numeral as a) (hb : Numeral bs b) (hab : a ≤ b) (hle : b ≤ 7)
    (stepped : Bool) : shiftRange (as ++ '-' :: bs) stepped =
      if b = 7 ∧ 0 < a ∧ a ≤ 6 ∧ !stepped then number (a + 1) ++ ['-', '7', ',', '1']
      else if a ≤ 6 then number (a + 1) ++ '-' :: number (min b 6 + 1)
      else as ++ '-' :: bs := by
  have hdash : '-' ∉ as := ha.notMem rfl
  simp only [shiftRange, splitOnce_append hdash, day?_eq ha (hab.trans hle), day?_eq hb hle, hle,
    and_true]

theorem shiftItem_range (ha : Numeral as a) (hb : Numeral bs b) (hs : WritesStep st step)
    (hab : a ≤ b) (hle : b ≤ 7) : shiftItem (as ++ '-' :: bs ++ st) =
      (if b = 7 ∧ 0 < a ∧ a ≤ 6 ∧ step = none then number (a + 1) ++ ['-', '7', ',', '1']
      else if a ≤ 6 then number (a + 1) ++ '-' :: number (min b 6 + 1)
      else as ++ '-' :: bs) ++ st := by
  have hslash : '/' ∉ as ++ '-' :: bs := by
    have has : '/' ∉ as := ha.notMem rfl
    have hbs : '/' ∉ bs := hb.notMem rfl
    simp [has, hbs]
  have hstep : (!step.isSome) = true ↔ step = none := by simp
  rw [shiftItem_append hslash hs, shiftRange_range ha hb hab hle]
  simp only [hstep]

theorem writes_shiftItem (h : WritesDays cs i) :
    WritesList WritesItem (shiftItem cs) i.shifted := by
  cases h with
  | all hs hi =>
    rename_i st step
    have hshift : shiftItem (['*'] ++ st) = ['*'] ++ st := by
      rw [shiftItem_append (by decide) hs]
      cases step.isSome <;> rfl
    exact hshift ▸ .one (.intro .all hs)
  | day h hd =>
    rename_i d
    have hslash : '/' ∉ cs := h.notMem rfl
    have hshift : shiftItem cs = number (d % 7 + 1) := by
      rw [← shiftRange_numeral h hd false]
      simp only [shiftItem, splitOnce_of_notMem hslash]
    exact hshift ▸ .one (WritesBase.point (numeral_number _) (lt_size (by omega))).plain
  | range ha hb hs hi =>
    rename_i as bs st a b step
    obtain ⟨⟨hab, hle⟩, -⟩ := hi
    have hfirst := numeral_number (a + 1)
    rw [shiftItem_range ha hb hs hab hle, DayItem.shifted]
    by_cases hsplit : b = 7 ∧ 0 < a ∧ a ≤ 6 ∧ step = none
    · rw [if_pos hsplit, if_pos hsplit]
      obtain ⟨-, -, hsix, rfl⟩ := hsplit
      cases hs
      have hrange := WritesBase.range hfirst (lt_size (by omega)) (numeral_number 7) (by decide)
      have hsunday := WritesBase.point (numeral_number 1) (by decide)
      have htext : number (a + 1) ++ ['-', '7', ',', '1'] ++ [] =
          number (a + 1) ++ '-' :: number 7 ++ ',' :: number 1 := by
        rw [List.append_nil, List.append_assoc]
        rfl
      exact htext ▸ .more hrange.plain (.one hsunday.plain)
    · rw [if_neg hsplit, if_neg hsplit]
      split
      · exact .one (.intro (.range hfirst (lt_size (by omega)) (numeral_number _)
          (lt_size (by omega))) hs)
      · exact .one (.intro (.range ha (lt_size (by omega)) hb (lt_size (by omega))) hs)

theorem WritesStep.comma_notMem (h : WritesStep st step) : ',' ∉ st := by
  cases h with
  | none => exact List.not_mem_nil
  | some h =>
    rename_i cs n _
    have hcs : ',' ∉ cs := h.notMem rfl
    simp [hcs]

theorem WritesDays.comma_notMem (h : WritesDays cs i) : ',' ∉ cs := by
  cases h with
  | all hs =>
    have hst := WritesStep.comma_notMem hs
    simp [hst]
  | day h => exact h.notMem rfl
  | range ha hb hs =>
    rename_i as bs st a b step _
    have has : ',' ∉ as := ha.notMem rfl
    have hbs : ',' ∉ bs := hb.notMem rfl
    have hst : ',' ∉ st := WritesStep.comma_notMem hs
    simp [has, hbs, hst]

theorem shiftDays_append (hcs : ',' ∉ cs) (r : List Char) :
    shiftDays (cs ++ ',' :: r) = shiftItem cs ++ ',' :: shiftDays r := by
  rw [shiftDays, shiftDays, splitAll_append hcs, List.map_cons]
  obtain ⟨p, ps, hps⟩ := List.exists_cons_of_ne_nil (splitAll_ne_nil ',' r)
  rw [hps, List.map_cons, List.intercalate_cons_cons, List.append_assoc]
  rfl

theorem writes_shiftDays (h : WritesList WritesDays field items) :
    WritesList WritesItem (shiftDays field) (items.flatMap DayItem.shifted) := by
  induction h with
  | one hi =>
    rename_i cs i
    have hone : shiftDays cs = shiftItem cs := by
      rw [shiftDays, splitAll_of_notMem hi.comma_notMem]
      exact List.append_nil _
    rw [hone, List.flatMap_singleton]
    exact writes_shiftItem hi
  | more hi _ ih =>
    rw [shiftDays_append hi.comma_notMem, List.flatMap_cons]
    exact (writes_shiftItem hi).append ih

/-! ## The schedule -/

/-- A schedule at every minute of some days of the week. -/
def everyMinute (days : List Nat) : Schedule :=
  ⟨[0], upTo 0 59, upTo 0 23, upTo 1 31, upTo 1 12, days, everyYear⟩

theorem expand_of_words {text : String} {minute hour day month : List Char}
    (hwords : words text.toList = [minute, hour, day, month, field])
    (hmark : minute.head? ≠ some '@') : expand text = String.ofList
      ([' '].intercalate [['0'], minute, hour, day, month, shiftDays field]) := by
  have htrim := (words_trim text.toList).trans hwords
  have hhead : (trim text.toList).head? ≠ some '@' := by
    intro hat
    obtain ⟨cs, hcs⟩ := List.head?_eq_some_iff.1 hat
    obtain ⟨w, ws, hw⟩ := exists_words_cons (c := '@') (by decide) cs
    rw [hcs, hw] at htrim
    exact hmark ((List.cons.inj htrim).1 ▸ rfl)
  simp only [expand, htrim, if_neg hhead]

theorem lookup_descriptors {text : String} (h : text.toList.head? ≠ some '@') :
    descriptors.lookup text = none := by
  have hmark : ∀ e ∈ descriptors, e.1.toList.head? = some '@' := by decide
  refine List.lookup_eq_none_iff.2 fun e he => bne_iff_ne.2 ?_
  rintro rfl
  exact h (hmark e he)

theorem fields?_everyMinute {cs : List Char} {items : List Item}
    (hcs : WritesList WritesItem cs items) :
    fields? ([' '].intercalate [['0'], ['*'], ['*'], ['*'], ['*'], cs]) =
      (fieldValues? .dayOfWeek items).map everyMinute := by
  have htext : [' '].intercalate [['0'], ['*'], ['*'], ['*'], ['*'], cs] =
      '0' :: ' ' :: '*' :: ' ' :: '*' :: ' ' :: '*' :: ' ' :: '*' :: ' ' :: cs :=
    congrArg ("0 * * * * ".toList ++ ·) (List.append_nil cs)
  have hsecond : ∀ r, field? .second ('0' :: ' ' :: '*' :: r) = some ([0], '*' :: r) :=
    fun _ => rfl
  have hminute : ∀ r, field? .minute ('*' :: ' ' :: '*' :: r) = some (upTo 0 59, '*' :: r) :=
    fun _ => rfl
  have hhour : ∀ r, field? .hour ('*' :: ' ' :: '*' :: r) = some (upTo 0 23, '*' :: r) :=
    fun _ => rfl
  have hday : ∀ r, field? .dayOfMonth ('*' :: ' ' :: '*' :: r) = some (upTo 1 31, '*' :: r) :=
    fun _ => rfl
  have hmonth : field? .month ('*' :: ' ' :: cs) = some (upTo 1 12, cs) :=
    congrArg (fun r => some (upTo 1 12, r)) (skipSpace_written hcs)
  simp only [htext, fields?, hsecond, hminute, hhour, hday, hmonth, field?_written hcs,
    Option.bind_eq_bind, Option.bind_some]
  cases fieldValues? .dayOfWeek items <;> rfl

theorem parse?_of_words {text : String} {items : List Item}
    (hwords : words text.toList = [['*'], ['*'], ['*'], ['*'], field])
    (hfield : WritesList WritesItem (shiftDays field) items) :
    parse? text = (fieldValues? .dayOfWeek items).map everyMinute := by
  have hexpand := expand_of_words hwords (by decide)
  have hnone : descriptors.lookup (expand text) = none := by
    refine lookup_descriptors ?_
    rw [hexpand, String.toList_ofList]
    exact fun h => absurd (Option.some.inj h) (by decide)
  rw [parse?, Schedule.parse?, hnone, hexpand, String.toList_ofList, fields?_everyMinute hfield]
  rfl

/-- The schedule fires on that day of the week. -/
def FiresOn (s : Schedule) (w : Nat) : Prop :=
  ∃ t, s.Fires t ∧ Civil.weekday (t / 86400) = w

/-- One of the first seven days of 1970, which began with a Thursday. -/
theorem ofInstant_firstWeek : ∀ w ∈ upTo 1 7,
    Civil.ofInstant (((w + 2) % 7 : Nat) * 86400) = ⟨1970, 1, (w + 2) % 7 + 1, 0, 0, 0⟩ ∧
      Civil.weekday (((w + 2) % 7 : Nat) * 86400 / 86400) = w := by decide

theorem firesOn_everyMinute {days : List Nat} (hdays : ∀ w ∈ days, 1 ≤ w ∧ w ≤ 7) :
    FiresOn (everyMinute days) w ↔ w ∈ days := by
  constructor
  · rintro ⟨t, ht, rfl⟩
    exact ht.2.2.2.1
  · intro hw
    obtain ⟨hcivil, hweekday⟩ := ofInstant_firstWeek w (mem_upTo.2 (hdays w hw))
    refine ⟨((w + 2) % 7 : Nat) * 86400, ?_, hweekday⟩
    simp only [Schedule.Fires, hcivil, hweekday, everyMinute, mem_upTo]
    exact ⟨⟨1970, by decide, rfl⟩, by decide, by omega, hw, by decide, by decide, by decide⟩

variable {text : String}

/-- The schedule of the line fires on the days of the week that the shift leaves. -/
theorem exists_parse?_left (hwords : words text.toList = [['*'], ['*'], ['*'], ['*'], field])
    (hfield : WritesList WritesDays field items) :
    ∃ s, parse? text = some s ∧ ∀ w, FiresOn s w ↔ ∃ i ∈ items, i.Left w := by
  have hgive : Give .dayOfWeek (items.flatMap DayItem.shifted) fun w => ∃ i ∈ items, i.Left w :=
    .flatMap fun i hi =>
      have ⟨_, hwrites⟩ := hfield.forall_mem i hi
      DayItem.give_shifted hwrites.inWeek
  obtain ⟨days, hdays, hmem⟩ := hgive.exists_fieldValues?
  refine ⟨everyMinute days, ?_, fun w => ?_⟩
  · rw [parse?_of_words hwords (writes_shiftDays hfield), hdays, Option.map_some]
  · rw [firesOn_everyMinute fun w hw => ((hmem w).1 hw).1, hmem]
    exact and_iff_right_of_imp fun ⟨i, _, hi⟩ => hi.bounds

/-- The days of the week on which a crontab line with a day-of-week field fires are those that
crontab assigns to it if and only if a Sunday that an item loses is assigned to another item which
keeps it, and the Saturday that the range from 7 to 7 takes is assigned to some item. -/
theorem firesOn_iff_assigns_iff
    (hwords : words text.toList = [['*'], ['*'], ['*'], ['*'], field])
    (hfield : WritesList WritesDays field items) :
    ∃ s, parse? text = some s ∧ (∀ w, FiresOn s w ↔ ∃ i ∈ items, i.Left w) ∧
      ((∀ w, FiresOn s w ↔ ∃ i ∈ items, i.Assigns w) ↔
        ((∃ i ∈ items, i.LosesSunday) → ∃ i ∈ items, i.Assigns 1 ∧ ¬ i.LosesSunday) ∧
          ((∃ i ∈ items, i.TakesSaturday) → ∃ i ∈ items, i.Assigns 7)) := by
  obtain ⟨s, hs, hleft⟩ := exists_parse?_left hwords hfield
  refine ⟨s, hs, hleft, ?_, ?_⟩
  · intro hexact
    refine ⟨fun ⟨i, hi, hlost⟩ => ?_, fun ⟨i, hi, htaken⟩ => ?_⟩
    · obtain ⟨j, hj, hsunday⟩ := (hleft 1).1 ((hexact 1).2 ⟨i, hi, hlost.assigns⟩)
      exact ⟨j, hj, hsunday.one⟩
    · exact (hexact 7).1 ((hleft 7).2 ⟨i, hi, .inr ⟨rfl, htaken⟩⟩)
  · rintro ⟨hsunday, hsaturday⟩ w
    rw [hleft]
    constructor
    · rintro ⟨i, hi, ⟨h, -⟩ | ⟨rfl, htaken⟩⟩
      · exact ⟨i, hi, h⟩
      · exact hsaturday ⟨i, hi, htaken⟩
    · rintro ⟨i, hi, h⟩
      by_cases hlost : w = 1 ∧ i.LosesSunday
      · obtain ⟨rfl, hlost⟩ := hlost
        obtain ⟨j, hj, hassigns, hkept⟩ := hsunday ⟨i, hi, hlost⟩
        exact ⟨j, hj, .inl ⟨hassigns, fun h => hkept h.2⟩⟩
      · exact ⟨i, hi, .inl ⟨h, hlost⟩⟩

/-- The Sunday that is written as a range is missed. -/
theorem firesOn_iff_assigns_iff_seven :
    words "* * * * 7-7".toList = [['*'], ['*'], ['*'], ['*'], ['7', '-', '7']] ∧
      WritesList WritesDays ['7', '-', '7'] [.range 7 7 none] ∧
      ∃ s, parse? "* * * * 7-7" = some s ∧ FiresOn s 7 ∧
        ¬ ∀ w, FiresOn s w ↔ ∃ i ∈ [DayItem.range 7 7 none], i.Assigns w := by
  have hseven : Numeral ['7'] 7 := ⟨by decide, List.forall_mem_singleton.2 rfl, rfl⟩
  have hwords : words "* * * * 7-7".toList = [['*'], ['*'], ['*'], ['*'], ['7', '-', '7']] := by
    decide
  have hfield : WritesList WritesDays ['7', '-', '7'] [.range 7 7 none] :=
    .one (.range hseven hseven .none ⟨by decide, nofun⟩)
  refine ⟨hwords, hfield, ?_⟩
  obtain ⟨s, hs, hleft, hexact⟩ := firesOn_iff_assigns_iff hwords hfield
  refine ⟨s, hs, (hleft 7).2 ⟨_, List.mem_singleton_self _, .inr ⟨rfl, rfl⟩⟩, fun h => ?_⟩
  obtain ⟨i, hi, hassigns⟩ := (hexact.1 h).2 ⟨_, List.mem_singleton_self _, rfl⟩
  obtain rfl := List.mem_singleton.1 hi
  obtain ⟨d, ⟨hbounds, -⟩, hday⟩ := hassigns
  omega

end Crontab

end GridOperator.Cron
