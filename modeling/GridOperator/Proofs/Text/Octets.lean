import Mathlib.Data.List.Basic

/-!
# Octets of texts

What is sent and what is escaped are the octets of a text. They tell which text it is.
-/

namespace GridOperator.Text

/-- The octets that stand for a text. -/
def octets (cs : List Char) : List UInt8 := cs.flatMap String.utf8EncodeChar

/-- The text that octets stand for, if they stand for one. -/
def ofOctets? (os : List UInt8) : Option (List Char) :=
  (String.fromUTF8? (ByteArray.mk os.toArray)).map String.toList

variable {cs : List Char} {c : Char} {os : List UInt8}

theorem octets_cons (c : Char) (cs : List Char) :
    octets (c :: cs) = String.utf8EncodeChar c ++ octets cs := rfl

/-- The list of an array of octets is read from its front. -/
theorem toList_loop (a : ByteArray) (i : Nat) (read : List UInt8) :
    ByteArray.toList.loop a i read = read.reverse ++ a.data.toList.drop i := by
  induction i, read using ByteArray.toList.loop.induct a with
  | case1 i read hi ih =>
    have hlength : i < a.data.toList.length := hi
    have hget : a.get! i = a.data.toList[i] := by
      rw [ByteArray.get!, Array.getElem_toList]
      exact getElem!_pos a.data i hi
    rw [ByteArray.toList.loop, if_pos hi, ih, List.drop_eq_getElem_cons hlength, hget,
      List.reverse_cons, List.append_assoc, List.singleton_append]
  | case2 i read hi =>
    have hlength : a.data.toList.length ≤ i := Nat.le_of_not_lt hi
    rw [ByteArray.toList.loop, if_neg hi, List.drop_eq_nil_of_le hlength, List.append_nil]

theorem toByteArray_eq (s : String) : s.toByteArray = ByteArray.mk (octets s.toList).toArray := by
  rw [← String.ofList_toList (s := s), String.toByteArray_ofList, String.toList_ofList]
  exact ByteArray.ext List.data_toByteArray

theorem toList_toUTF8 (s : String) : s.toUTF8.toList = octets s.toList := by
  rw [String.toUTF8_eq_toByteArray, toByteArray_eq, ByteArray.toList, toList_loop]
  rfl

theorem ofOctets?_eq_some_iff : ofOctets? os = some cs ↔ os = octets cs := by
  rw [ofOctets?, String.fromUTF8?, Option.map_eq_some_iff]
  constructor
  · rintro ⟨s, hs, rfl⟩
    split at hs
    · have hbytes : s.toByteArray = ByteArray.mk os.toArray :=
        congrArg String.toByteArray (Option.some.inj hs).symm
      rw [toByteArray_eq] at hbytes
      simpa using hbytes.symm
    · cases hs
  · rintro rfl
    have hbytes : (String.ofList cs).toByteArray = ByteArray.mk (octets cs).toArray := by
      rw [toByteArray_eq, String.toList_ofList]
    refine ⟨String.ofList cs, ?_, String.toList_ofList⟩
    rw [dif_pos (hbytes ▸ (String.ofList cs).isValidUTF8)]
    exact congrArg some (String.toByteArray_inj.1 hbytes.symm)

end GridOperator.Text
