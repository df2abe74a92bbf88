import GridOperator.Proofs.Json.RoundTrip
import GridOperator.Text.Blank
import GridOperator.Text.Number
import GridOperator.Text.Split
import Mathlib.Data.List.TakeWhile

/-!
# Cutting what was put together

A text is cut where its parts were joined, as long as no part has the separator
itself. A number is written in digits, which none of the separators is, and the
words of a text do not depend on the blanks around it.
-/

namespace GridOperator.Text

variable {cs r : List Char} {c sep : Char} {n : Nat}

/-! ## Digits -/

theorem toNat_of_isDigit (h : c.isDigit) : 48 ≤ c.toNat ∧ c.toNat ≤ 57 := by
  simpa [Char.isDigit, UInt32.le_iff_toNat_le] using h

/-- Digits are read in base ten. -/
theorem inBase?_ten (h : ∀ c ∈ cs, c.isDigit) : inBase? 10 cs = some (decimal cs) := by
  have hfold : ∀ m, cs.foldlM (fun n c => (digit? 10 c).map (n * 10 + ·)) m =
      some (cs.foldl (fun n d => n * 10 + (d.toNat - 48)) m) := by
    induction cs with
    | nil => exact fun _ => rfl
    | cons c cs ih =>
      intro m
      obtain ⟨hc, hcs⟩ := List.forall_mem_cons.1 h
      have hdigit : digit? 10 c = some (c.toNat - 48) := by
        obtain ⟨hlow, hhigh⟩ := toNat_of_isDigit hc
        unfold digit?
        rw [if_pos hc]
        exact if_pos (by omega)
      rw [List.foldlM_cons, hdigit]
      exact ih hcs _
  exact hfold 0

/-- More digits only make a number larger. -/
theorem le_foldl_digits (cs : List Char) (m : Nat) :
    m ≤ cs.foldl (fun n d => n * 10 + (d.toNat - 48)) m := by
  induction cs generalizing m with
  | nil => exact le_rfl
  | cons c cs ih => exact le_trans (by omega) (ih (m * 10 + (c.toNat - 48)))

/-- Digits are read on to the end where the number that they make is within the limit. -/
theorem readDigits_eq {limit m : Nat} (hdigits : ∀ c ∈ cs, c.isDigit)
    (hle : cs.foldl (fun n d => n * 10 + (d.toNat - 48)) m ≤ limit) :
    readDigits limit m cs = .ok (cs.foldl (fun n d => n * 10 + (d.toNat - 48)) m) := by
  induction cs generalizing m with
  | nil => rfl
  | cons c cs ih =>
    obtain ⟨hc, hcs⟩ := List.forall_mem_cons.1 hdigits
    have hstep : m * 10 + (c.toNat - 48) ≤ limit := le_trans (le_foldl_digits cs _) hle
    rw [readDigits, hc, if_neg (by decide), if_neg (not_lt.2 hstep)]
    exact ih hcs hle

/-- Digits come to nothing if they are zeros and there is nothing before them. -/
theorem readDigits_eq_zero_iff {limit m : Nat} :
    readDigits limit m cs = .ok 0 ↔ m = 0 ∧ ∀ c ∈ cs, c = '0' := by
  induction cs generalizing m with
  | nil =>
    rw [readDigits]
    simp
  | cons c cs ih =>
    rw [readDigits, List.forall_mem_cons]
    by_cases hdigit : c.isDigit
    · have hzero : c = '0' ↔ c.toNat - 48 = 0 := by
        have hcode : 48 ≤ c.toNat := (show 48 ≤ c.toNat ∧ c.toNat ≤ 57 by
          simpa [Char.isDigit, UInt32.le_iff_toNat_le] using hdigit).1
        rw [← Char.toNat_inj, show '0'.toNat = 48 from rfl]
        omega
      have hstep : m * 10 + (c.toNat - 48) = 0 ↔ m = 0 ∧ c.toNat - 48 = 0 := by omega
      rw [if_neg (by rw [hdigit]; decide), hzero, ← and_assoc, ← hstep]
      dsimp only
      split
      · rename_i hlimit
        exact iff_of_false nofun fun h => absurd (h.1 ▸ hlimit) (Nat.not_lt_zero _)
      · exact ih
    · rw [if_pos (by simpa using hdigit)]
      refine iff_of_false nofun ?_
      rintro ⟨-, rfl, -⟩
      exact hdigit rfl

/-- One or more zeros, maybe after a plus sign. -/
def IsZero (cs : List Char) : Prop :=
  ∃ zeros, zeros ≠ [] ∧ (∀ c ∈ zeros, c = '0') ∧ (cs = zeros ∨ cs = '+' :: zeros)

theorem readNatural_eq_zero_iff {limit : Nat} : readNatural limit cs = .ok 0 ↔ IsZero cs := by
  have hread (zeros : List Char) : readDigits limit 0 zeros = .ok 0 ↔ ∀ c ∈ zeros, c = '0' :=
    readDigits_eq_zero_iff.trans (and_iff_right rfl)
  unfold readNatural
  split
  · refine iff_of_false nofun ?_
    rintro ⟨zeros, hne, -, h | h⟩
    · exact hne h.symm
    · cases h
  · refine iff_of_false nofun ?_
    rintro ⟨zeros, hne, hzeros, rfl | h⟩
    · exact absurd (hzeros _ List.mem_cons_self) (by decide)
    · exact hne (List.cons.inj h).2.symm
  · rename_i zeros hne
    rw [hread]
    constructor
    · intro h
      exact ⟨zeros, hne, h, .inr rfl⟩
    · rintro ⟨_, -, hzeros, rfl | h⟩
      · exact absurd (hzeros _ List.mem_cons_self) (by decide)
      · exact (List.cons.inj h).2 ▸ hzeros
  · rename_i hne _ hplus
    rw [hread]
    constructor
    · intro h
      exact ⟨cs, hne, h, .inl rfl⟩
    · rintro ⟨_, -, hzeros, rfl | h⟩
      · exact hzeros
      · exact absurd h (hplus _)

/-- The decimal digits of a number. There may be zeros in front. -/
structure Numeral (cs : List Char) (n : Nat) : Prop where
  ne_nil : cs ≠ []
  digits : ∀ c ∈ cs, c.isDigit
  value : decimal cs = n

namespace Numeral

theorem toString (n : Nat) : Numeral (toString n).toList n := by
  have hdigits : (ToString.toString n).toList = Nat.toDigits 10 n := Nat.toList_repr
  rw [hdigits]
  exact ⟨Nat.toDigits_ne_nil, fun _ => Nat.isDigit_of_mem_toDigits (by omega) (by omega),
    Json.decimal_toDigits n⟩

theorem notMem (h : Numeral cs n) (hsep : sep.isDigit = false) : sep ∉ cs :=
  fun hmem => Bool.false_ne_true (hsep.symm.trans (h.digits sep hmem))

theorem exists_cons (h : Numeral cs n) : ∃ c ds, cs = c :: ds ∧ c.isDigit := by
  obtain ⟨c, ds, rfl⟩ := List.exists_cons_of_ne_nil h.ne_nil
  exact ⟨c, ds, rfl, h.digits c List.mem_cons_self⟩

theorem natural?_eq (h : Numeral cs n) : natural? cs = some n := by
  have hplus : '+' ∉ cs := h.notMem rfl
  have hall : cs.all Char.isDigit = true := List.all_eq_true.2 h.digits
  unfold natural?
  split
  · exact absurd List.mem_cons_self hplus
  · rw [if_neg (by simp [hall, h.ne_nil]), h.value]

theorem readNatural_eq {limit : Nat} (h : Numeral cs n) (hle : n ≤ limit) :
    readNatural limit cs = .ok n := by
  have hplus : '+' ∉ cs := h.notMem rfl
  have hread : readDigits limit 0 cs = .ok n :=
    (readDigits_eq h.digits (h.value.trans_le hle)).trans (congrArg _ h.value)
  unfold readNatural
  split
  · exact absurd rfl h.ne_nil
  · exact absurd List.mem_cons_self hplus
  · exact absurd List.mem_cons_self hplus
  · exact hread

end Numeral

/-! ## Separators -/

theorem splitOnce_of_notMem (h : sep ∉ cs) : splitOnce sep cs = none := by
  induction cs with
  | nil => rfl
  | cons c cs ih =>
    obtain ⟨hne, hnot⟩ := List.ne_and_not_mem_of_not_mem_cons h
    rw [splitOnce, if_neg (Ne.symm hne), ih hnot, Option.map_none]

theorem splitOnce_append (h : sep ∉ cs) (r : List Char) :
    splitOnce sep (cs ++ sep :: r) = some (cs, r) := by
  induction cs with
  | nil => exact if_pos rfl
  | cons c cs ih =>
    obtain ⟨hne, hnot⟩ := List.ne_and_not_mem_of_not_mem_cons h
    rw [List.cons_append, splitOnce, if_neg (Ne.symm hne), ih hnot, Option.map_some]

theorem splitOnceLast_append (h : sep ∉ cs) (r : List Char) :
    splitOnceLast sep (r ++ sep :: cs) = some (r, cs) := by
  have hreverse : (r ++ sep :: cs).reverse = cs.reverse ++ sep :: r.reverse := by
    rw [List.reverse_append, List.reverse_cons, List.append_assoc, List.singleton_append]
  rw [splitOnceLast, hreverse, splitOnce_append (mt List.mem_reverse.1 h), Option.map_some,
    List.reverse_reverse, List.reverse_reverse]

theorem splitAll_ne_nil (sep : Char) : ∀ cs, splitAll sep cs ≠ []
  | [] => List.cons_ne_nil _ _
  | c :: cs => by
    unfold splitAll
    split
    · exact List.cons_ne_nil _ _
    · split <;> exact List.cons_ne_nil _ _

theorem splitAll_of_notMem (h : sep ∉ cs) : splitAll sep cs = [cs] := by
  induction cs with
  | nil => rfl
  | cons c cs ih =>
    obtain ⟨hne, hnot⟩ := List.ne_and_not_mem_of_not_mem_cons h
    rw [splitAll, if_neg (Ne.symm hne), ih hnot]

/-- What stands before and after a separator is cut on its own. -/
theorem splitAll_append_cons (sep : Char) (cs r : List Char) :
    splitAll sep (cs ++ sep :: r) = splitAll sep cs ++ splitAll sep r := by
  induction cs with
  | nil => exact if_pos rfl
  | cons c cs ih =>
    rw [List.cons_append, splitAll, splitAll, ih]
    split
    · rfl
    · cases hparts : splitAll sep cs with
      | nil => exact absurd hparts (splitAll_ne_nil sep cs)
      | cons p ps => rfl

theorem splitAll_append (h : sep ∉ cs) (r : List Char) :
    splitAll sep (cs ++ sep :: r) = cs :: splitAll sep r := by
  rw [splitAll_append_cons, splitAll_of_notMem h]
  rfl

theorem notMem_of_length_splitAll (h : (splitAll sep cs).length = 1) : sep ∉ cs := by
  intro hmem
  obtain ⟨before, after, rfl⟩ := List.append_of_mem hmem
  have hbefore := List.length_pos_iff.2 (splitAll_ne_nil sep before)
  have hafter := List.length_pos_iff.2 (splitAll_ne_nil sep after)
  rw [splitAll_append_cons, List.length_append] at h
  omega

theorem mem_of_mem_splitAll {p : List Char} (hp : p ∈ splitAll sep cs) (hc : c ∈ p) : c ∈ cs := by
  induction cs generalizing p with
  | nil =>
    rw [splitAll, List.mem_singleton] at hp
    exact hp ▸ hc
  | cons d cs ih =>
    rw [splitAll] at hp
    split at hp
    · rcases List.mem_cons.1 hp with rfl | hp
      · cases hc
      · exact List.mem_cons_of_mem _ (ih hp hc)
    · split at hp
      · rename_i q ps hparts
        rw [hparts] at ih
        rcases List.mem_cons.1 hp with rfl | hp
        · rcases List.mem_cons.1 hc with rfl | hc
          · exact List.mem_cons_self
          · exact List.mem_cons_of_mem _ (ih List.mem_cons_self hc)
        · exact List.mem_cons_of_mem _ (ih (List.mem_cons_of_mem _ hp) hc)
      · rename_i hparts
        exact absurd hparts (splitAll_ne_nil sep cs)

/-- A character is a separator or in one of the parts. -/
theorem exists_mem_splitAll (h : c ∈ cs) (hne : c ≠ sep) : ∃ p ∈ splitAll sep cs, c ∈ p := by
  induction cs with
  | nil => cases h
  | cons d cs ih =>
    rw [splitAll]
    split
    · rename_i hd
      obtain ⟨p, hp, hc⟩ := ih ((List.mem_cons.1 h).resolve_left fun heq => hne (heq.trans hd))
      exact ⟨p, List.mem_cons_of_mem _ hp, hc⟩
    · split
      · rename_i q ps hparts
        rw [hparts] at ih
        rcases List.mem_cons.1 h with rfl | h
        · exact ⟨_, List.mem_cons_self, List.mem_cons_self⟩
        · obtain ⟨p, hp, hc⟩ := ih h
          rcases List.mem_cons.1 hp with rfl | hp
          · exact ⟨_, List.mem_cons_self, List.mem_cons_of_mem _ hc⟩
          · exact ⟨p, List.mem_cons_of_mem _ hp, hc⟩
      · rename_i hparts
        exact absurd hparts (splitAll_ne_nil sep cs)

/-! ## Words -/

theorem words_cons_cons (c d : Char) (cs : List Char) : words (c :: d :: cs) =
    if isBlank c then words (d :: cs)
    else if isBlank d then [c] :: words (d :: cs)
    else match words (d :: cs) with
      | w :: ws => (c :: w) :: ws
      | [] => [[c]] := words.eq_def _

theorem words_cons_of_blank (hc : isBlank c) (cs : List Char) : words (c :: cs) = words cs := by
  cases cs <;> rw [words.eq_def] <;> exact if_pos hc

theorem words_skipBlanks (cs : List Char) : words (skipBlanks cs) = words cs := by
  induction cs with
  | nil => rfl
  | cons c cs ih =>
    by_cases hc : isBlank c
    · rw [skipBlanks, List.dropWhile_cons_of_pos hc, words_cons_of_blank hc]
      exact ih
    · rw [skipBlanks, List.dropWhile_cons_of_neg hc]

theorem words_of_blank (h : ∀ c ∈ cs, isBlank c) : words cs = [] := by
  induction cs with
  | nil => rfl
  | cons c cs ih =>
    obtain ⟨hc, hcs⟩ := List.forall_mem_cons.1 h
    rw [words_cons_of_blank hc, ih hcs]

theorem words_append_blank (cs : List Char) (h : ∀ c ∈ r, isBlank c) :
    words (cs ++ r) = words cs := by
  induction cs with
  | nil => exact words_of_blank h
  | cons c cs ih =>
    cases cs with
    | nil =>
      cases r with
      | nil => rfl
      | cons d r =>
        have hd : isBlank d := h d List.mem_cons_self
        rw [List.singleton_append, words_cons_cons, if_pos hd, words_of_blank h]
        rfl
    | cons d cs =>
      rw [List.cons_append, List.cons_append, words_cons_cons, words_cons_cons,
        ← List.cons_append, ih]

theorem words_trim (cs : List Char) : words (trim cs) = words cs := by
  have hsplit : skipBlanks cs =
      trim cs ++ ((skipBlanks cs).reverse.takeWhile isBlank).reverse := by
    rw [trim, ← List.reverse_append]
    exact (List.reverse_eq_iff.2 List.takeWhile_append_dropWhile).symm
  rw [← words_skipBlanks cs, hsplit, words_append_blank]
  intro c hc
  exact List.mem_takeWhile_imp (List.mem_reverse.1 hc)

/-- The first word of a text that begins with no blank begins as the text does. -/
theorem exists_words_cons (hc : ¬ isBlank c) (cs : List Char) :
    ∃ w ws, words (c :: cs) = (c :: w) :: ws := by
  unfold words
  rw [if_neg hc]
  split
  · exact ⟨[], [], rfl⟩
  · split
    · exact ⟨[], _, rfl⟩
    · split <;> exact ⟨_, _, rfl⟩

end GridOperator.Text
