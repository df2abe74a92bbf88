import GridOperator.Text.Digits
import Mathlib.Algebra.Group.Nat.Defs
import Mathlib.Data.List.Basic

/-!
# Hexadecimal digits

Padded digits read back as the number, in lower case and in upper case, and their width
is fixed: so they end where they end, whatever follows them.
-/

namespace GridOperator.Text

variable {width n m : Nat} {f : Char → Char}

theorem digit?_hexDigit : ∀ d < 16, digit? 16 (hexDigit d) = some d := by decide

theorem digit?_toUpper : ∀ d < 16, digit? 16 (hexDigit d).toUpper = some d := by decide

theorem hex_of_lt (h : n < 16) : hex n = [hexDigit n] := by
  rw [hex, if_pos h]

theorem hex_of_le (h : 16 ≤ n) : hex n = hex (n / 16) ++ [hexDigit (n % 16)] := by
  rw [hex, if_neg (Nat.not_lt.2 h)]

/-- The value of digits in some case `f`. -/
theorem inBase?_hex (hf : ∀ d < 16, digit? 16 (f (hexDigit d)) = some d) (n : Nat) :
    inBase? 16 ((hex n).map f) = some n := by
  induction n using Nat.strongRecOn with
  | ind n ih =>
    rcases Nat.lt_or_ge n 16 with hn | hn
    · rw [hex_of_lt hn]
      simp [inBase?, hf n hn]
    · have hhigh := ih (n / 16) (by omega)
      unfold inBase? at hhigh ⊢
      rw [hex_of_le hn, List.map_append, List.foldlM_append, hhigh]
      simp [hf (n % 16) (Nat.mod_lt n (by decide)), Nat.div_add_mod']

theorem inBase?_hexPadded (hf : ∀ d < 16, digit? 16 (f (hexDigit d)) = some d) (width n : Nat) :
    inBase? 16 ((hexPadded width n).map f) = some n := by
  have hzero : digit? 16 (f '0') = some 0 := hf 0 (by decide)
  have hzeros (k : Nat) : inBase? 16 ((List.replicate k '0').map f) = some 0 := by
    induction k with
    | zero => rfl
    | succ k ih =>
      unfold inBase? at ih ⊢
      rw [List.replicate_succ, List.map_cons, List.foldlM_cons, hzero]
      exact ih
  unfold hexPadded
  rw [List.map_append]
  have hread := inBase?_hex hf n
  unfold inBase? at hzeros hread ⊢
  rw [List.foldlM_append, hzeros]
  exact hread

theorem length_hex (h : n < 16 ^ (width + 1)) : (hex n).length ≤ width + 1 := by
  induction width generalizing n with
  | zero => simp [hex_of_lt (show n < 16 by simpa using h)]
  | succ width ih =>
    rcases Nat.lt_or_ge n 16 with hn | hn
    · simp [hex_of_lt hn]
    · have hhigh : n / 16 < 16 ^ (width + 1) := by
        rw [Nat.div_lt_iff_lt_mul (by decide)]
        exact h
      rw [hex_of_le hn, List.length_append]
      exact Nat.add_le_add_right (ih hhigh) 1

theorem length_hexPadded (h : n < 16 ^ (width + 1)) :
    (hexPadded (width + 1) n).length = width + 1 := by
  have hle := length_hex h
  simp only [hexPadded, List.length_append, List.length_replicate]
  omega

/-- Digits of a fixed width can be taken off the front of what follows them. -/
theorem hexPadded_cancel (hf : ∀ d < 16, digit? 16 (f (hexDigit d)) = some d)
    (hn : n < 16 ^ (width + 1)) (hm : m < 16 ^ (width + 1)) {r r' : List Char}
    (h : (hexPadded (width + 1) n).map f ++ r = (hexPadded (width + 1) m).map f ++ r') :
    n = m ∧ r = r' := by
  obtain ⟨hdigits, hr⟩ := List.append_inj h (by simp [length_hexPadded hn, length_hexPadded hm])
  have hread := congrArg (inBase? 16) hdigits
  rw [inBase?_hexPadded hf, inBase?_hexPadded hf] at hread
  exact ⟨Option.some.inj hread, hr⟩

/-- The four digits of a control character. -/
theorem hexPadded_four (h : n < 256) :
    hexPadded 4 n = ['0', '0', hexDigit (n / 16), hexDigit (n % 16)] := by
  unfold hexPadded
  by_cases hn : n < 16
  · rw [hex_of_lt hn, Nat.div_eq_of_lt hn, Nat.mod_eq_of_lt hn]
    rfl
  · rw [hex, if_neg hn, hex_of_lt (by omega)]
    rfl

end GridOperator.Text
