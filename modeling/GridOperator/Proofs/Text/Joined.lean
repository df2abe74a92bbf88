import Mathlib.Data.List.Basic

/-!
# Texts joined by a dash, and numbers

A text may be joined in several ways if its parts have dashes themselves:
`append_dash_eq_iff` says in which. The digits of a number have none and tell
which number it is.
-/

namespace GridOperator.Text

/-! ## Around a dash -/

theorem append_cons_eq_iff {α : Type} {x : α} {a b c d : List α} :
    a ++ x :: b = c ++ x :: d ↔
      (a = c ∧ b = d) ∨ (∃ m, a = c ++ x :: m ∧ d = m ++ x :: b) ∨
        ∃ m, c = a ++ x :: m ∧ b = m ++ x :: d := by
  rw [List.append_eq_append_iff]
  constructor
  · rintro (⟨m, rfl, h⟩ | ⟨m, rfl, h⟩)
    · rcases List.cons_eq_append_iff.1 h with ⟨rfl, h⟩ | ⟨m, rfl, h⟩
      · exact .inl ⟨(List.append_nil a).symm, (List.cons.inj h).2⟩
      · exact .inr (.inr ⟨m, rfl, (List.cons.inj h).2⟩)
    · rcases List.cons_eq_append_iff.1 h with ⟨rfl, h⟩ | ⟨m, rfl, h⟩
      · exact .inl ⟨List.append_nil c, (List.cons.inj h).2.symm⟩
      · exact .inr (.inl ⟨m, rfl, (List.cons.inj h).2⟩)
  · rintro (⟨rfl, rfl⟩ | ⟨m, rfl, rfl⟩ | ⟨m, rfl, rfl⟩)
    · exact .inl ⟨[], (List.append_nil a).symm, rfl⟩
    · exact .inr ⟨x :: m, rfl, rfl⟩
    · exact .inl ⟨x :: m, rfl, rfl⟩

theorem exists_toList {p : List Char → Prop} : (∃ cs, p cs) ↔ ∃ s : String, p s.toList :=
  ⟨fun ⟨cs, h⟩ => ⟨String.ofList cs, by rwa [String.toList_ofList]⟩, fun ⟨s, h⟩ => ⟨s.toList, h⟩⟩

/-- Two pairs that are joined to the same text are the same, or one part of the text stands at the
end of the one pair's beginning and at the beginning of the other one's end. -/
theorem append_dash_eq_iff {a b c d : String} : a ++ "-" ++ b = c ++ "-" ++ d ↔
    (a = c ∧ b = d) ∨ (∃ m, a = c ++ "-" ++ m ∧ d = m ++ "-" ++ b) ∨
      ∃ m, c = a ++ "-" ++ m ∧ b = m ++ "-" ++ d := by
  have hdash : ("-" : String).toList = ['-'] := rfl
  simp only [← String.toList_inj, String.toList_append, hdash, List.append_assoc,
    List.cons_append, List.nil_append, append_cons_eq_iff]
  rw [exists_toList, exists_toList]

/-! ## Numbers -/

theorem toString_injective : Function.Injective (toString : Nat → String) := by
  intro i j h
  have ht : i.repr.toList = j.repr.toList := congrArg String.toList h
  rw [Nat.toList_repr, Nat.toList_repr] at ht
  rw [← Nat.ofDigitChars_ten_toDigits (n := i), ht, Nat.ofDigitChars_ten_toDigits]

theorem dash_notMem_toString (n : Nat) : '-' ∉ (toString n).toList := by
  intro h
  rw [show toString n = n.repr from rfl, Nat.toList_repr] at h
  exact absurd (Nat.isDigit_of_mem_toDigits (by omega) (by omega) h) (by decide)

/-- A text with a number after its last dash tells what stands before the dash. -/
theorem append_dash_toString_eq_iff {a c : String} {i j : Nat} :
    a ++ "-" ++ toString i = c ++ "-" ++ toString j ↔ a = c ∧ i = j := by
  rw [append_dash_eq_iff, toString_injective.eq_iff]
  refine or_iff_left ?_
  rintro (⟨m, -, h⟩ | ⟨m, -, h⟩)
  · exact dash_notMem_toString j (by simp [h])
  · exact dash_notMem_toString i (by simp [h])

end GridOperator.Text
