import GridOperator.Cron.Crontab
import GridOperator.Proofs.Cron.Next

/-!
# What the text of a schedule gives

However a field is written, with repetitions or in any order: its values are in
increasing order and within the bounds of the part. So are those of the
descriptors.
-/

namespace GridOperator.Cron

variable {p : Part} {s : Schedule}

theorem Part.values_upTo (p : Part) : p.Values (upTo p.lo p.hi) := by
  refine ⟨List.pairwise_lt_range' 1, fun x hx => ?_⟩
  rw [upTo, List.mem_range'_1] at hx
  omega

theorem Part.Values.sublist {xs ys : List Nat} (h : p.Values xs) (hsub : ys.Sublist xs) :
    p.Values ys :=
  ⟨h.sorted.sublist hsub, fun y hy => h.bounds y (hsub.subset hy)⟩

theorem Part.values_singleton {n : Nat} (h : p.lo ≤ n ∧ n ≤ p.hi) : p.Values [n] :=
  ⟨List.pairwise_singleton _ _, List.forall_mem_singleton.2 h⟩

theorem values_of_fieldValues? {items : List Item} {xs : List Nat}
    (h : fieldValues? p items = some xs) : p.Values xs := by
  obtain ⟨vs, -, rfl⟩ := Option.map_eq_some_iff.1 h
  exact p.values_upTo.sublist List.filter_sublist

namespace Expression

theorem values_of_field? {cs rest : List Char} {xs : List Nat}
    (h : field? p cs = some (xs, rest)) : p.Values xs := by
  simp only [field?, Option.bind_eq_bind, Option.bind_eq_some_iff] at h
  obtain ⟨⟨i, r⟩, -, ys, hys, heq⟩ := h
  cases heq
  exact values_of_fieldValues? hys

theorem proper_of_fields? {cs : List Char} (h : fields? cs = some s) : s.Proper := by
  simp only [fields?, Option.bind_eq_bind, Option.bind_eq_some_iff, Prod.exists] at h
  obtain ⟨seconds, _, hseconds, minutes, _, hminutes, hours, _, hhours, daysOfMonth, _, hdays,
    months, _, hmonths, daysOfWeek, rest, -, h⟩ := h
  have hproper : ∀ years, Part.year.Values years →
      Schedule.Proper ⟨seconds, minutes, hours, daysOfMonth, months, daysOfWeek, years⟩ :=
    fun years hyears => {
      seconds := values_of_field? hseconds
      minutes := values_of_field? hminutes
      hours := values_of_field? hhours
      daysOfMonth := values_of_field? hdays
      months := values_of_field? hmonths
      years := hyears }
  split at h
  · cases h
    exact hproper _ Part.year.values_upTo
  · simp only [Option.bind_eq_some_iff, Prod.exists] at h
    obtain ⟨years, _, hyears, -, -, heq⟩ := h
    cases heq
    exact hproper _ (values_of_field? hyears)

theorem proper_atMidnight {hours daysOfMonth months daysOfWeek : List Nat}
    (hhours : Part.hour.Values hours) (hdays : Part.dayOfMonth.Values daysOfMonth)
    (hmonths : Part.month.Values months) :
    (atMidnight hours daysOfMonth months daysOfWeek).Proper where
  seconds := Part.values_singleton (by decide)
  minutes := Part.values_singleton (by decide)
  hours := hhours
  daysOfMonth := hdays
  months := hmonths
  years := Part.year.values_upTo

theorem proper_of_mem_descriptors : ∀ e ∈ descriptors, e.2.Proper := by
  have hmidnight : Part.hour.Values [0] := Part.values_singleton (by decide)
  have hfirst : Part.dayOfMonth.Values [1] := Part.values_singleton (by decide)
  have hjanuary : Part.month.Values [1] := Part.values_singleton (by decide)
  have hdays := Part.dayOfMonth.values_upTo
  have hmonths := Part.month.values_upTo
  simp only [descriptors, List.forall_mem_cons, List.not_mem_nil, false_imp_iff, implies_true,
    and_true]
  exact ⟨proper_atMidnight hmidnight hfirst hjanuary, proper_atMidnight hmidnight hfirst hmonths,
    proper_atMidnight hmidnight hdays hmonths, proper_atMidnight hmidnight hdays hmonths,
    proper_atMidnight Part.hour.values_upTo hdays hmonths⟩

end Expression

theorem proper_of_parse? {text : String} (h : Crontab.parse? text = some s) : s.Proper := by
  rw [Crontab.parse?, Schedule.parse?, Option.orElse_eq_orElse, Option.orElse_eq_or,
    Option.or_eq_some_iff] at h
  rcases h with h | ⟨-, h⟩
  · obtain ⟨before, after, hlist, -⟩ := List.lookup_eq_some_iff.1 h
    exact Expression.proper_of_mem_descriptors (Crontab.expand text, s)
      (hlist ▸ List.mem_append_right _ List.mem_cons_self)
  · exact Expression.proper_of_fields? h

end GridOperator.Cron
