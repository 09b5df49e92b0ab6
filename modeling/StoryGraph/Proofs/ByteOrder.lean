import Mathlib.Data.List.Lex

namespace StoryGraph.Text

def bytes (text : String) : List UInt8 := text.toUTF8.data.toList

/-- A text comes before another in the order of their bytes. -/
def Precedes (text other : String) : Prop :=
  List.Lex (fun byte byte' ↦ byte.toNat < byte'.toNat) (bytes text) (bytes other)

theorem bytes_eq_flatMap (text : String) :
    bytes text = text.toList.flatMap String.utf8EncodeChar := by
  have hdata : (String.ofList text.toList).toUTF8.data.toList =
      text.toList.flatMap String.utf8EncodeChar := by
    rw [String.toUTF8_eq_toByteArray, String.toByteArray_ofList, List.utf8Encode,
      List.data_toByteArray]
  rwa [String.ofList_toList] at hdata

theorem toNat_ofNat_of_lt {n : Nat} (h : n < 256) : (UInt8.ofNat n).toNat = n := by
  rw [UInt8.toNat_ofNat', Nat.mod_eq_of_lt h]

/-- Characters with more bytes begin with a greater byte, and among those with equally many the
digits in base 64 decide. What follows does not matter. -/
theorem lex_encode_append {c d : Char} (h : c < d) (cs ds : List UInt8) :
    List.Lex (fun byte byte' ↦ byte.toNat < byte'.toNat) (String.utf8EncodeChar c ++ cs)
      (String.utf8EncodeChar d ++ ds) := by
  have hlt : c.val.toNat < d.val.toNat := h
  have hd : d.val.toNat < 0x110000 := by
    rcases d.valid with hvalid | hvalid <;> omega
  unfold String.utf8EncodeChar
  dsimp only
  split_ifs <;> simp (disch := omega) only [List.cons_append, List.nil_append,
    List.cons_lex_cons_iff, ← UInt8.toNat_inj, toNat_ofNat_of_lt, Nat.mod_eq_of_lt] <;> omega

theorem precedes_of_lt {text other : String} (h : text < other) : Precedes text other := by
  rw [Precedes, bytes_eq_flatMap, bytes_eq_flatMap]
  have hchars : text.toList < other.toList := String.lt_iff.mp h
  generalize text.toList = cs, other.toList = ds at hchars
  induction hchars with
  | @nil d ds =>
    obtain ⟨byte, rest, hbytes⟩ := List.exists_cons_of_ne_nil (@String.utf8EncodeChar_ne_nil d)
    rw [List.flatMap_cons, hbytes]
    exact .nil
  | rel hlt => exact lex_encode_append hlt _ _
  | cons _ ih => exact List.Lex.append_left _ ih _

end StoryGraph.Text
