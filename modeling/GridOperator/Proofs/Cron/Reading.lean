import GridOperator.Cron.Expression
import GridOperator.Proofs.Text.Cutting

/-!
# Reading a field of numbers back

A field whose items are `*`, numbers and ranges, with steps or without, is read
as just these items (`field?_written`). What may follow a thing that was read
decides which of the alternatives of the reader takes it: a dash makes a number
the start of a range, a slash gives a step to what stands before it, and a comma
ends an item.
-/

namespace GridOperator.Cron

open Text

/-! ## The grammar -/

inductive WritesBase : List Char → Base → Prop where
  | all : WritesBase ['*'] .all
  | point {cs : List Char} {n : Nat} (h : Numeral cs n) (hlt : n < UInt32.size) :
      WritesBase cs (.point n)
  | range {as bs : List Char} {a b : Nat} (ha : Numeral as a) (halt : a < UInt32.size)
      (hb : Numeral bs b) (hblt : b < UInt32.size) : WritesBase (as ++ '-' :: bs) (.range a b)

/-- A step after its slash, or nothing. -/
inductive WritesStep : List Char → Option Nat → Prop where
  | none : WritesStep [] none
  | some {cs : List Char} {n : Nat} (h : Numeral cs n) (hlt : n < UInt32.size) :
      WritesStep ('/' :: cs) (some n)

/-- A base with its step, if it has one. -/
def Base.withStep (base : Base) : Option Nat → Item
  | none => .plain base
  | some step => .stepped base step

inductive WritesItem : List Char → Item → Prop where
  | intro {cs st : List Char} {base : Base} {step : Option Nat} (h : WritesBase cs base)
      (hs : WritesStep st step) : WritesItem (cs ++ st) (base.withStep step)

/-- A list of things with commas between them, at least one. -/
inductive WritesList {α : Type} (Writes : List Char → α → Prop) : List Char → List α → Prop where
  | one {cs : List Char} {x : α} (h : Writes cs x) : WritesList Writes cs [x]
  | more {cs r : List Char} {x : α} {xs : List α} (h : Writes cs x)
      (hrest : WritesList Writes r xs) : WritesList Writes (cs ++ ',' :: r) (x :: xs)

variable {cs ds r : List Char} {n : Nat} {p : Part} {base : Base} {item : Item}
  {items : List Item} {anyMark : Bool}

theorem WritesBase.plain (h : WritesBase cs base) : WritesItem cs (.plain base) := by
  rw [← List.append_nil cs]
  exact .intro h .none

namespace WritesList

variable {α : Type} {Writes : List Char → α → Prop} {x : α} {xs ys : List α}

theorem append (h : WritesList Writes cs xs) (hr : WritesList Writes r ys) :
    WritesList Writes (cs ++ ',' :: r) (xs ++ ys) := by
  induction h with
  | one hx => exact .more hx hr
  | more hx _ ih =>
    rw [List.append_assoc]
    exact .more hx ih

theorem forall_mem (h : WritesList Writes cs xs) : ∀ x ∈ xs, ∃ cs, Writes cs x := by
  induction h with
  | one hx => exact List.forall_mem_singleton.2 ⟨_, hx⟩
  | more hx _ ih => exact List.forall_mem_cons.2 ⟨⟨_, hx⟩, ih⟩

theorem length_le (h : WritesList Writes cs xs) : xs.length ≤ cs.length + 1 := by
  induction h with
  | one => exact Nat.succ_le_succ (Nat.zero_le _)
  | more _ _ ih =>
    rw [List.length_append, List.length_cons, List.length_cons]
    omega

end WritesList

/-! ## Values -/

theorem mem_upTo {a b : Nat} : n ∈ upTo a b ↔ a ≤ n ∧ n ≤ b := by
  rw [upTo, List.mem_range'_1]
  omega

theorem mem_everyUpTo {a b step : Nat} :
    n ∈ everyUpTo a b step ↔ (a ≤ n ∧ n ≤ b) ∧ step ∣ n - a := by
  rw [everyUpTo, List.mem_filter, mem_upTo, beq_iff_eq, Nat.dvd_iff_mod_eq_zero]

/-- The values that some items have together are the numbers with a property. -/
def Give (p : Part) (items : List Item) (P : Nat → Prop) : Prop :=
  ∃ vs, items.mapM (Item.values? p) = some vs ∧ ∀ n, (∃ values ∈ vs, n ∈ values) ↔ P n

namespace Give

variable {P Q : Nat → Prop} {items' : List Item}

theorem congr (h : Give p items P) (hiff : ∀ n, P n ↔ Q n) : Give p items Q := by
  obtain ⟨vs, hvs, hgive⟩ := h
  exact ⟨vs, hvs, fun n => (hgive n).trans (hiff n)⟩

theorem nil (p : Part) : Give p [] fun _ => False := ⟨[], rfl, by simp⟩

theorem singleton {values : List Nat} (h : item.values? p = some values) :
    Give p [item] (· ∈ values) :=
  ⟨[values], by rw [List.mapM_cons, h]; rfl, by simp⟩

theorem append (h : Give p items P) (h' : Give p items' Q) :
    Give p (items ++ items') fun n => P n ∨ Q n := by
  obtain ⟨vs, hvs, hgive⟩ := h
  obtain ⟨vs', hvs', hgive'⟩ := h'
  refine ⟨vs ++ vs', by rw [List.mapM_append, hvs, hvs']; rfl, fun n => ?_⟩
  simp only [List.mem_append, or_and_right, exists_or, hgive, hgive']

theorem flatMap {α : Type} {xs : List α} {f : α → List Item} {P : α → Nat → Prop}
    (h : ∀ x ∈ xs, Give p (f x) (P x)) : Give p (xs.flatMap f) fun n => ∃ x ∈ xs, P x n := by
  induction xs with
  | nil => exact (nil p).congr (by simp)
  | cons x xs ih =>
    obtain ⟨hx, hxs⟩ := List.forall_mem_cons.1 h
    rw [List.flatMap_cons]
    exact (hx.append (ih hxs)).congr (by simp)

/-- A field has those of the values that its part has. -/
theorem exists_fieldValues? (h : Give p items P) : ∃ xs, fieldValues? p items = some xs ∧
    ∀ n, n ∈ xs ↔ (p.lo ≤ n ∧ n ≤ p.hi) ∧ P n := by
  obtain ⟨vs, hvs, hgive⟩ := h
  refine ⟨_, by rw [fieldValues?, hvs, Option.map_some], fun n => ?_⟩
  simp only [List.mem_filter, mem_upTo, List.any_eq_true, decide_eq_true_iff, hgive]

end Give

namespace Expression

/-! ## Numbers -/

/-- What may follow a number: the end, or what separates it from another one. -/
def EndsNumber (r : List Char) : Prop := ∀ c ∈ r.head?, c = '-' ∨ c = '/' ∨ c = ','

theorem EndsNumber.skipSpace_eq (h : EndsNumber r) : skipSpace r = r := by
  cases r with
  | nil => rfl
  | cons c r => rcases h c rfl with rfl | rfl | rfl <;> rfl

theorem EndsNumber.span_eq (h : EndsNumber r) :
    r.takeWhile Char.isDigit = [] ∧ r.dropWhile Char.isDigit = r := by
  cases r with
  | nil => exact ⟨rfl, rfl⟩
  | cons c r => rcases h c rfl with rfl | rfl | rfl <;> exact ⟨rfl, rfl⟩

theorem not_isSpace_of_isDigit {c : Char} (h : c.isDigit) : ¬ isSpace c := by
  intro hspace
  simp only [isSpace, Bool.or_eq_true, beq_iff_eq] at hspace
  rcases hspace with ((rfl | rfl) | rfl) | rfl <;> exact absurd h (by decide)

theorem skipSpace_numeral (h : Numeral cs n) (r : List Char) : skipSpace (cs ++ r) = cs ++ r := by
  obtain ⟨c, ds, rfl, hc⟩ := h.exists_cons
  exact List.dropWhile_cons_of_neg (not_isSpace_of_isDigit hc)

theorem ordinal?_append (h : Numeral cs n) (hlt : n < UInt32.size) (hr : EndsNumber r) :
    ordinal? (cs ++ r) = some (n, r) := by
  have hrun : run? Char.isDigit (cs ++ r) = some (cs, r) := by
    unfold run?
    simp only [skipSpace_numeral h, List.takeWhile_append_of_pos h.digits,
      List.dropWhile_append_of_pos h.digits, hr.span_eq, List.append_nil, hr.skipSpace_eq]
    rw [if_neg (by simp [h.ne_nil])]
  simp only [ordinal?, hrun, h.value, if_pos hlt]

/-! ## Pairs -/

section Pairs

variable {α β : Type} {first : Reader α} {second : Reader β} {sep : Char} {x : α} {y : β}

theorem pair?_of_some (hfirst : first cs = some (x, sep :: ds))
    (hsecond : second ds = some (y, r)) : pair? first sep second cs = some ((x, y), r) := by
  simp only [pair?, hfirst, if_true, hsecond, Option.map_some]

theorem pair?_of_head_ne (hfirst : first cs = some (x, r)) (hr : r.head? ≠ some sep) :
    pair? first sep second cs = none := by
  unfold pair?
  split
  · rename_i c r' h
    rw [hfirst] at h
    cases h
    exact if_neg fun hc => hr (congrArg some hc)
  · rfl

end Pairs

/-! ## Items -/

theorem base?_of_isDigit (h : Numeral cs n) (r : List Char) : base? anyMark (cs ++ r) =
    (((pair? ordinal? '-' ordinal? (cs ++ r)).map fun ((a, b), r) => (Base.range a b, r))
      <|> ((ordinal? (cs ++ r)).map fun (n, r) => (Base.point n, r))
      <|> ((pair? name? '-' name? (cs ++ r)).map fun ((a, b), r) => (Base.namedRange a b, r))) := by
  obtain ⟨c, ds, rfl, hc⟩ := h.exists_cons
  rw [base?.eq_def]
  split
  · rename_i heq
    exact absurd ((List.cons.inj heq).1 ▸ hc) (by decide)
  · rename_i heq
    exact absurd ((List.cons.inj heq).1 ▸ hc) (by decide)
  · rfl

theorem base?_append (h : WritesBase cs base) (hr : ∀ c ∈ r.head?, c = '/' ∨ c = ',') :
    base? anyMark (cs ++ r) = some (base, r) := by
  have hends : EndsNumber r := fun c hc => .inr (hr c hc)
  cases h with
  | all => rfl
  | point h hlt =>
    have hdash : r.head? ≠ some '-' := fun hc => by
      rcases hr _ hc with h | h <;> cases h
    have hn := ordinal?_append h hlt hends
    rw [base?_of_isDigit h, pair?_of_head_ne hn hdash, hn]
    rfl
  | range ha halt hb hblt =>
    rename_i as bs a b
    have hfirst : ordinal? (as ++ '-' :: (bs ++ r)) = some (a, '-' :: (bs ++ r)) :=
      ordinal?_append ha halt fun c hc => .inl (Option.some.inj hc).symm
    rw [List.append_assoc, List.cons_append, base?_of_isDigit ha,
      pair?_of_some hfirst (ordinal?_append hb hblt hends)]
    rfl

theorem item?_append (h : WritesItem cs item) (hr : ∀ c ∈ r.head?, c = ',') :
    item? anyMark (cs ++ r) = some (item, r) := by
  obtain ⟨hbase, hstep⟩ := h
  cases hstep with
  | none =>
    rename_i cs base
    have hslash : r.head? ≠ some '/' := fun hc => by cases hr _ hc
    have hb : base? anyMark (cs ++ r) = some (base, r) :=
      base?_append hbase fun c hc => .inr (hr c hc)
    rw [List.append_nil, item?, pair?_of_head_ne hb hslash, hb]
    rfl
  | some hn hlt =>
    rename_i cs base ds step
    have hb : base? anyMark (cs ++ '/' :: (ds ++ r)) = some (base, '/' :: (ds ++ r)) :=
      base?_append hbase fun c hc => .inl (Option.some.inj hc).symm
    have hn := ordinal?_append hn hlt fun c hc => .inr (.inr (hr c hc))
    rw [List.append_assoc, List.cons_append, item?, pair?_of_some hb hn]
    rfl

theorem item?_of_writes (h : WritesItem cs item) : item? anyMark cs = some (item, []) := by
  have hread : item? anyMark (cs ++ []) = some (item, []) := item?_append h nofun
  rwa [List.append_nil] at hread

theorem item?_append_comma (h : WritesItem cs item) (r : List Char) :
    item? anyMark (cs ++ ',' :: r) = some (item, ',' :: r) :=
  item?_append h fun _ hc => (Option.some.inj hc).symm

theorem moreItems_written (h : WritesList WritesItem cs items) {fuel : Nat}
    (hfuel : items.length ≤ fuel) : moreItems anyMark fuel (',' :: cs) = (items, []) := by
  induction h generalizing fuel with
  | one hi =>
    obtain ⟨fuel, rfl⟩ := Nat.exists_eq_add_one.2 hfuel
    simp only [moreItems, item?_of_writes hi]
    cases fuel <;> rfl
  | more hi _ ih =>
    obtain ⟨fuel, rfl⟩ := Nat.exists_eq_add_one.2 (Nat.zero_lt_of_lt hfuel)
    simp only [moreItems, item?_append_comma hi, ih (Nat.le_of_succ_le_succ hfuel)]

theorem skipSpace_writesBase (h : WritesBase cs base) (r : List Char) :
    skipSpace (cs ++ r) = cs ++ r := by
  cases h with
  | all => rfl
  | point h => exact skipSpace_numeral h r
  | range ha =>
    rw [List.append_assoc]
    exact skipSpace_numeral ha _

theorem skipSpace_writesItem (h : WritesItem cs item) (r : List Char) :
    skipSpace (cs ++ r) = cs ++ r := by
  obtain ⟨hbase, -⟩ := h
  rw [List.append_assoc]
  exact skipSpace_writesBase hbase _

theorem skipSpace_written (h : WritesList WritesItem cs items) : skipSpace cs = cs := by
  cases h with
  | one hi => simpa using skipSpace_writesItem hi []
  | more hi => exact skipSpace_writesItem hi _

theorem field?_of_items (hitem : item? p.anyMark (skipSpace cs) = some (item, r))
    (hmore : moreItems p.anyMark r.length r = (items, [])) :
    field? p cs = (fieldValues? p (item :: items)).map (·, []) := by
  rw [Option.map_eq_bind]
  simp only [field?, hitem, Option.bind_eq_bind, Option.bind_some, hmore]
  rfl

theorem field?_written (h : WritesList WritesItem cs items) :
    field? p cs = (fieldValues? p items).map (·, []) := by
  have hspace := skipSpace_written h
  cases h with
  | one hi => exact field?_of_items ((congrArg _ hspace).trans (item?_of_writes hi)) rfl
  | more hi hrest =>
    exact field?_of_items ((congrArg _ hspace).trans (item?_append_comma hi _))
      (moreItems_written hrest hrest.length_le)

end Expression

end GridOperator.Cron
