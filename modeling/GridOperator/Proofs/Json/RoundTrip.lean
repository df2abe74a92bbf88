import GridOperator.Json.Reader
import GridOperator.Json.Writer
import GridOperator.Proofs.Text.Hexadecimal

/-!
# Reading back what was written

The text of a value without fractions reads back as that value: the reader takes
exactly the characters that the writer made, whatever follows them.
-/

namespace GridOperator

namespace Json

open Reader Text

/-! ## Strings -/

theorem stringBody_of_printable {c : Char} (hquote : c ≠ '"') (hback : c ≠ '\\')
    (hc : 0x20 ≤ c.toNat) (r : List Char) : stringBody (c :: r) = (stringBody r).map (put c) := by
  rw [stringBody]
  · exact if_neg (Nat.not_lt.2 hc)
  · exact hquote
  · exact fun _ _ _ _ _ h => absurd h hback
  · exact fun _ _ h => absurd h hback

theorem stringBody_escapeChar (c : Char) (r : List Char) :
    stringBody (escapeChar c ++ r) = (stringBody r).map (put c) := by
  unfold escapeChar
  split
  · rfl
  · rfl
  · rfl
  · rfl
  · rfl
  · rfl
  · rfl
  · split
    · rename_i hc
      have hu := inBase?_hexPadded (f := id) digit?_hexDigit 4 c.toNat
      rw [List.map_id] at hu
      rw [hexPadded_four (by omega)] at hu ⊢
      simp only [List.cons_append, List.nil_append]
      rw [stringBody]
      have hlow : isLowSurrogate c.toNat = false := by simp [isLowSurrogate]; omega
      have hhigh : isHighSurrogate c.toNat = false := by simp [isHighSurrogate]; omega
      simp only [hu, hlow, hhigh, Bool.false_eq_true, if_false, Char.ofNat_toNat]
    · rename_i hquote hback _ _ _ _ _ hc
      exact stringBody_of_printable hquote hback (Nat.not_lt.1 hc) r

theorem stringBody_escaped (cs r : List Char) :
    stringBody (cs.flatMap escapeChar ++ '"' :: r) = some (some cs, r) := by
  induction cs with
  | nil => rfl
  | cons c cs ih =>
    rw [List.flatMap_cons, List.append_assoc, stringBody_escapeChar, ih]
    rfl

theorem stringBody_stringChars (s : String) (r : List Char) : ∃ cs,
    stringChars s ++ r = '"' :: cs ∧ stringBody cs = some (some s.toList, r) := by
  refine ⟨s.toList.flatMap escapeChar ++ '"' :: r, ?_, stringBody_escaped _ _⟩
  simp [stringChars]

/-! ## Integers -/

/-- What may follow a value inside a text, if anything does. -/
def Ends (r : List Char) : Prop := ∀ c ∈ r.head?, c = ',' ∨ c = ']' ∨ c = '}'

theorem digitChar_ne_zero : ∀ n < 10, 0 < n → n.digitChar ≠ '0' := by decide

theorem head_toDigits {n : Nat} (h : 0 < n) : ∃ d ds, Nat.toDigits 10 n = d :: ds ∧ d ≠ '0' := by
  induction n using Nat.strongRecOn with
  | ind n ih =>
    by_cases hn : n < 10
    · exact ⟨n.digitChar, [], Nat.toDigits_of_lt_base hn, digitChar_ne_zero n hn h⟩
    · obtain ⟨d, ds, hd, hz⟩ := ih (n / 10) (by omega) (by omega)
      rw [Nat.toDigits_of_base_le (by omega) (by omega), hd]
      exact ⟨d, ds ++ [(n % 10).digitChar], rfl, hz⟩

theorem decimal_toDigits (n : Nat) : decimal (Nat.toDigits 10 n) = n := by
  have h := Nat.ofDigitChars_ten_toDigits (n := n)
  rw [Nat.ofDigitChars_eq_foldl] at h
  unfold decimal
  simpa [Nat.mul_comm] using h

theorem digits?_append {ds r : List Char} (hne : ds ≠ []) (hds : ∀ c ∈ ds, c.isDigit)
    (hr : Ends r) : digits? (ds ++ r) = some (ds, r) := by
  have hstop : r.takeWhile Char.isDigit = [] ∧ r.dropWhile Char.isDigit = r := by
    cases r with
    | nil => exact ⟨rfl, rfl⟩
    | cons c r =>
      have hc : c.isDigit = false := by
        rcases hr c rfl with rfl | rfl | rfl <;> rfl
      simp [hc]
  unfold digits?
  rw [List.takeWhile_append_of_pos hds, List.dropWhile_append_of_pos hds, hstop.1, hstop.2,
    List.append_nil]
  simp [hne]

theorem whole?_toDigits (n : Nat) {r : List Char} (hr : Ends r) :
    whole? (Nat.toDigits 10 n ++ r) = some (Nat.toDigits 10 n, r) := by
  have hdigits : digits? (Nat.toDigits 10 n ++ r) = some (Nat.toDigits 10 n, r) :=
    digits?_append Nat.toDigits_ne_nil
      (fun _ hc => Nat.isDigit_of_mem_toDigits (by omega) (by omega) hc) hr
  rcases Nat.eq_zero_or_pos n with rfl | hn
  · rfl
  · obtain ⟨d, ds, hd, hz⟩ := head_toDigits hn
    rw [hd] at hdigits ⊢
    unfold whole?
    split
    · simp_all
    · exact hdigits

theorem fraction?_of_ends {r : List Char} (hr : Ends r) : fraction? r = some ([], r) := by
  unfold fraction?
  split
  · rcases hr _ rfl with h | h | h <;> cases h
  · rfl

theorem exponent?_of_ends {r : List Char} (hr : Ends r) : exponent? r = some (none, r) := by
  cases r with
  | nil => rfl
  | cons c r => rcases hr c rfl with rfl | rfl | rfl <;> rfl

theorem number?_positive {w r : List Char} (hw : whole? (w ++ r) = some (w, r)) (hr : Ends r)
    (hsign : ∀ cs, w ++ r ≠ '-' :: cs) :
    number? (w ++ r) = some (numberOf false w [] none, r) := by
  unfold number?
  generalize hcs : w ++ r = cs at *
  split
  rename_i negative cs' hmatch
  split at hmatch
  · exact absurd rfl (hsign _)
  · cases hmatch
    simp [hw, fraction?_of_ends hr, exponent?_of_ends hr]

theorem number?_negative {w r : List Char} (hw : whole? (w ++ r) = some (w, r)) (hr : Ends r) :
    number? ('-' :: (w ++ r)) = some (numberOf true w [] none, r) := by
  simp [number?, hw, fraction?_of_ends hr, exponent?_of_ends hr]

/-- The integers that are read as such. -/
def InRange (n : Int) : Prop := -0x8000000000000000 ≤ n ∧ n < 0x10000000000000000

theorem number?_toString {n : Int} (hn : InRange n) {r : List Char} (hr : Ends r) :
    number? ((toString n).toList ++ r) = some (.int n, r) := by
  obtain ⟨hlo, hhi⟩ := hn
  rw [Int.toString_eq_repr, Int.repr_eq_if]
  split
  · rename_i hpos
    rw [Nat.toList_repr, number?_positive (whole?_toDigits _ hr) hr]
    · unfold numberOf
      rw [decimal_toDigits, if_pos (by simp; omega), Int.toNat_of_nonneg hpos]
    · intro cs hcs
      obtain ⟨d, ds, hd⟩ :=
        List.exists_cons_of_ne_nil (Nat.toDigits_ne_nil (n := n.toNat) (b := 10))
      have hdigit := Nat.isDigit_of_mem_toDigits (b := 10) (n := n.toNat) (c := d) (by omega)
        (by omega) (by simp [hd])
      rw [hd] at hcs
      cases hcs
      cases hdigit
  · rename_i hneg
    rw [String.toList_append, Nat.toList_repr]
    show number? ('-' :: (Nat.toDigits 10 (-n).toNat ++ r)) = _
    rw [number?_negative (whole?_toDigits _ hr) hr]
    unfold numberOf
    rw [decimal_toDigits, if_neg (by simp), if_pos (by simp; omega), Int.toNat_of_nonneg (by omega),
      Int.neg_neg]

/-! ## Values -/

/-- A value that is written so that it reads back, inside `level` lists and objects. -/
inductive Plain : Nat → Json → Prop where
  | null {level : Nat} : Plain level .null
  | bool {level : Nat} (b : Bool) : Plain level (.bool b)
  | int {level : Nat} {n : Int} : InRange n → Plain level (.int n)
  | str {level : Nat} (s : String) : Plain level (.str s)
  | arr {level : Nat} {xs : List Json} : level < deepest → (∀ x ∈ xs, Plain (level + 1) x) →
      Plain level (.arr xs)
  | obj {level : Nat} {ms : Members} : level < deepest → (∀ m ∈ ms, Plain (level + 1) m.2) →
      Plain level (.obj ms)

/-- How a number begins. -/
theorem head_toString (n : Int) : ∃ c cs, (toString n).toList = c :: cs ∧
    (c = '-' ∨ c.isDigit) := by
  rw [Int.toString_eq_repr, Int.repr_eq_if]
  split
  · rw [Nat.toList_repr]
    obtain ⟨d, ds, hd⟩ := List.exists_cons_of_ne_nil (Nat.toDigits_ne_nil (n := n.toNat) (b := 10))
    exact ⟨d, ds, hd, .inr (Nat.isDigit_of_mem_toDigits (b := 10) (n := n.toNat) (by omega)
      (by omega) (by simp [hd]))⟩
  · rw [String.toList_append]
    exact ⟨'-', _, rfl, .inl rfl⟩

theorem isSpace_of_number {c : Char} (h : c = '-' ∨ c.isDigit) : isSpace c = false ∧ c ≠ ']' := by
  have hne : ∀ d : Char, d ≠ '-' → d.isDigit = false → c ≠ d := by
    rintro d hd hdigit rfl
    simp [hd, hdigit] at h
  refine ⟨?_, hne _ (by decide) (by decide)⟩
  simp [isSpace, hne ' ' (by decide) (by decide), hne '\n' (by decide) (by decide),
    hne '\t' (by decide) (by decide), hne '\r' (by decide) (by decide)]

/-- How the text of a plain value begins. -/
theorem head_chars {level : Nat} {j : Json} (h : Plain level j) :
    ∃ c cs, j.chars = c :: cs ∧ isSpace c = false ∧ c ≠ ']' := by
  cases h with
  | null => exact ⟨_, _, rfl, rfl, by decide⟩
  | bool b => cases b <;> exact ⟨_, _, rfl, rfl, by decide⟩
  | @int _ n _ =>
    obtain ⟨c, cs, hcs, hc⟩ := head_toString n
    exact ⟨c, cs, hcs, isSpace_of_number hc⟩
  | str s => exact ⟨_, _, rfl, rfl, by decide⟩
  | @arr _ xs => cases xs <;> exact ⟨_, _, rfl, rfl, by decide⟩
  | @obj _ ms => cases ms <;> exact ⟨_, _, rfl, rfl, by decide⟩

theorem skipSpace_cons {c : Char} (h : isSpace c = false) (cs : List Char) :
    skipSpace (c :: cs) = c :: cs := by
  simp [skipSpace, h]

theorem value_number (fuel level : Nat) {c : Char} (hc : c = '-' ∨ c.isDigit) (cs : List Char) :
    value (fuel + 1) level (c :: cs) = number? (c :: cs) := by
  rw [value, skipSpace_cons (isSpace_of_number hc).1]
  split <;> simp_all

theorem ends_itemsChars (xs : List Json) (r : List Char) : Ends (itemsChars xs ++ r) := by
  cases xs <;> simp [itemsChars, Ends]

theorem ends_membersChars (ms : Members) (r : List Char) : Ends (membersChars ms ++ r) := by
  cases ms <;> simp [membersChars, Ends]

theorem objectOf_texts (ms : Members) :
    objectOf (ms.map fun m => (some m.1.toList, m.2)) = .obj ms := by
  have h : (ms.map fun m => (some m.1.toList, m.2)).mapM
      (fun m => m.1.map fun k => (String.ofList k, m.2)) = some ms := by
    induction ms with
    | nil => rfl
    | cons m ms ih => simp [ih]
  unfold objectOf
  rw [h]

/-! ## Values, items and members

With fuel for two steps per character the reader takes what the writer has written. -/

def ReadsValues (fuel : Nat) : Prop :=
  ∀ ⦃j : Json⦄ ⦃level : Nat⦄ ⦃r : List Char⦄, Plain level j → 2 * j.chars.length ≤ fuel → Ends r →
    value fuel level (j.chars ++ r) = some (j, r)

/-- The items of a list from one of them on. -/
def ReadsItems (fuel : Nat) : Prop :=
  ∀ ⦃x : Json⦄ ⦃xs : List Json⦄ ⦃level : Nat⦄ ⦃r : List Char⦄, (∀ y ∈ x :: xs, Plain level y) →
    2 * (x.chars ++ itemsChars xs).length + 1 ≤ fuel →
    Reader.items fuel level (x.chars ++ (itemsChars xs ++ r)) = some (x :: xs, r)

/-- The members of an object from one of them on. -/
def ReadsMembers (fuel : Nat) : Prop :=
  ∀ ⦃k : String⦄ ⦃x : Json⦄ ⦃ms : Members⦄ ⦃level : Nat⦄ ⦃r : List Char⦄,
    (∀ m ∈ (k, x) :: ms, Plain level m.2) →
    2 * (stringChars k ++ ':' :: (x.chars ++ membersChars ms)).length + 1 ≤ fuel →
    membersFrom fuel level (stringChars k ++ ':' :: (x.chars ++ (membersChars ms ++ r))) =
      some (((k, x) :: ms).map fun m => (some m.1.toList, m.2), r)

variable {fuel level : Nat} {r : List Char}

theorem value_arr (hitems : ReadsItems fuel) {xs : List Json} (hlevel : level < deepest)
    (hxs : ∀ x ∈ xs, Plain (level + 1) x) (hfuel : 2 * (chars (.arr xs)).length ≤ fuel + 1) :
    value (fuel + 1) level (chars (.arr xs) ++ r) = some (.arr xs, r) := by
  cases xs with
  | nil => simp [chars, value, skipSpace_cons, isSpace, atLevel, hlevel]
  | cons x xs =>
    have hlen : (chars (.arr (x :: xs))).length = (x.chars ++ itemsChars xs).length + 1 := rfl
    have hread := hitems (r := r) hxs (by omega)
    -- the first item tells the list from an empty one
    obtain ⟨c, cs, hcs, hspace, hclose⟩ := head_chars (hxs x (by simp))
    show Reader.value _ _ ('[' :: (x.chars ++ itemsChars xs) ++ r) = _
    rw [List.cons_append, List.append_assoc]
    rw [hcs, List.cons_append] at hread ⊢
    rw [value, skipSpace_cons rfl]
    simp [skipSpace_cons hspace, hclose, hread, atLevel, hlevel]

theorem value_obj (hmembers : ReadsMembers fuel) {ms : Members} (hlevel : level < deepest)
    (hms : ∀ m ∈ ms, Plain (level + 1) m.2) (hfuel : 2 * (chars (.obj ms)).length ≤ fuel + 1) :
    value (fuel + 1) level (chars (.obj ms) ++ r) = some (.obj ms, r) := by
  cases ms with
  | nil => simp [chars, value, skipSpace_cons, isSpace, atLevel, hlevel]
  | cons m ms =>
    obtain ⟨k, x⟩ := m
    have hlen : (chars (.obj ((k, x) :: ms))).length =
      (stringChars k ++ ':' :: (x.chars ++ membersChars ms)).length + 1 := rfl
    have hread := hmembers (r := r) hms (by omega)
    obtain ⟨cs, hcs, -⟩ := stringBody_stringChars k (':' :: (x.chars ++ (membersChars ms ++ r)))
    show Reader.value _ _ ('{' :: (stringChars k ++ ':' :: (x.chars ++ membersChars ms)) ++ r) = _
    rw [List.cons_append, List.append_assoc, List.cons_append, List.append_assoc]
    rw [hcs] at hread ⊢
    rw [value, skipSpace_cons rfl]
    simp only [skipSpace_cons (c := '"') rfl, atLevel, if_pos hlevel]
    show (membersFrom fuel (level + 1) ('"' :: cs)).map _ = _
    rw [hread, Option.map_some, objectOf_texts]

theorem readsValues_succ (hitems : ReadsItems fuel) (hmembers : ReadsMembers fuel) :
    ReadsValues (fuel + 1) := by
  intro j level r hj hfuel hr
  cases hj with
  | null => rfl
  | bool b => cases b <;> rfl
  | @int _ n hn =>
    obtain ⟨c, cs, hcs, hc⟩ := head_toString n
    have hnumber := number?_toString hn hr
    rw [hcs] at hnumber
    show Reader.value _ _ ((toString n).toList ++ r) = _
    rw [hcs, List.cons_append, value_number fuel level hc]
    exact hnumber
  | str s =>
    obtain ⟨cs, hcs, hbody⟩ := stringBody_stringChars s r
    show Reader.value _ _ (stringChars s ++ r) = _
    rw [hcs, value, skipSpace_cons rfl]
    simp [hbody, textOf]
  | arr hlevel hxs => exact value_arr hitems hlevel hxs hfuel
  | obj hlevel hms => exact value_obj hmembers hlevel hms hfuel

theorem readsItems_succ (hvalues : ReadsValues fuel) (hitems : ReadsItems fuel) :
    ReadsItems (fuel + 1) := by
  intro x xs level r hx hfuel
  have hvalue := hvalues (r := itemsChars xs ++ r) (hx x (by simp)) (by simp at hfuel; omega)
    (ends_itemsChars xs r)
  rw [Reader.items, hvalue]
  cases xs with
  | nil => simp [itemsChars, skipSpace_cons, isSpace]
  | cons y ys =>
    have hlen : (x.chars ++ itemsChars (y :: ys)).length =
        x.chars.length + ((y.chars ++ itemsChars ys).length + 1) := by simp [itemsChars]
    have hread := hitems (r := r) (fun z hz => hx z (.tail _ hz)) (by rw [hlen] at hfuel; omega)
    simp [itemsChars, skipSpace_cons, isSpace, hread]

theorem readsMembers_succ (hvalues : ReadsValues fuel) (hmembers : ReadsMembers fuel) :
    ReadsMembers (fuel + 1) := by
  intro k x ms level r hm hfuel
  obtain ⟨cs, hcs, hbody⟩ := stringBody_stringChars k (':' :: (x.chars ++ (membersChars ms ++ r)))
  have hlen : (stringChars k ++ ':' :: (x.chars ++ membersChars ms)).length =
      (stringChars k).length + (x.chars.length + (membersChars ms).length + 1) := by simp
  have hx : Plain level x := hm (k, x) (.head _)
  have hvalue := hvalues (r := membersChars ms ++ r) hx (by rw [hlen] at hfuel; omega)
    (ends_membersChars ms r)
  rw [hcs, membersFrom, skipSpace_cons rfl]
  simp only [hbody, skipSpace_cons (c := ':') rfl, hvalue]
  cases ms with
  | nil => simp [membersChars, skipSpace_cons, isSpace]
  | cons m ms =>
    obtain ⟨l, y⟩ := m
    have hlen' : (membersChars ((l, y) :: ms)).length =
        (stringChars l ++ ':' :: (y.chars ++ membersChars ms)).length + 1 := rfl
    have hread := hmembers (r := r) (fun z hz => hm z (.tail _ hz)) (by rw [hlen] at hfuel; omega)
    simp [membersChars, skipSpace_cons, isSpace, hread]

theorem reads (fuel : Nat) : ReadsValues fuel ∧ ReadsItems fuel ∧ ReadsMembers fuel := by
  induction fuel with
  | zero =>
    refine ⟨fun j level r hj hfuel => ?_, fun _ _ _ _ _ hfuel => ?_, fun _ _ _ _ _ _ hfuel => ?_⟩
    · obtain ⟨c, cs, hcs, -⟩ := head_chars hj
      rw [hcs, List.length_cons] at hfuel
      omega
    · omega
    · omega
  | succ fuel ih =>
    obtain ⟨hvalues, hitems, hmembers⟩ := ih
    exact ⟨readsValues_succ hitems hmembers, readsItems_succ hvalues hitems,
      readsMembers_succ hvalues hmembers⟩

/-- A plain value reads back from its text. -/
theorem parse?_render {j : Json} (h : Plain 0 j) : parse? j.render = some j := by
  have hread := (reads (2 * j.chars.length + 2)).1 (r := []) h (by omega) (by simp [Ends])
  rw [List.append_nil] at hread
  unfold parse? render
  rw [String.toList_ofList]
  simp [hread, skipSpace]

end Json

end GridOperator
