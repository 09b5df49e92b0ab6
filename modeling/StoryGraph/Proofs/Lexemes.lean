import Mathlib.Data.List.TakeDrop
import StoryGraph.Json.Printer
import StoryGraph.Json.Reader

namespace StoryGraph

namespace Numeric

variable {n : Nat} {rest : List Char}

theorem isDigit_eq (c : Char) : isDigit c = c.isDigit := rfl

def EndsDigits (rest : List Char) : Prop := ∀ c, rest.head? = some c → isDigit c = false

theorem spanDigits_append {digits : List Char} (hdigits : ∀ c ∈ digits, isDigit c = true)
    (h : EndsDigits rest) : spanDigits (digits ++ rest) = (digits, rest) := by
  have hrest : rest.takeWhile isDigit = [] ∧ rest.dropWhile isDigit = rest := by
    cases rest with
    | nil => exact ⟨rfl, rfl⟩
    | cons c rest => simp [h c rfl]
  rw [spanDigits, List.span_eq_takeWhile_dropWhile, List.takeWhile_append_of_pos hdigits,
    List.dropWhile_append_of_pos hdigits, hrest.1, hrest.2, List.append_nil]

theorem isDigit_of_mem_toDigits {c : Char} (h : c ∈ Nat.toDigits 10 n) : isDigit c = true := by
  rw [isDigit_eq]
  exact Nat.isDigit_of_mem_toDigits (by decide) (by decide) h

theorem exists_toDigits_eq_cons (n : Nat) :
    ∃ c digits, Nat.toDigits 10 n = c :: digits ∧ isDigit c = true := by
  cases hdigits : Nat.toDigits 10 n with
  | nil => exact absurd hdigits Nat.toDigits_ne_nil
  | cons c digits =>
    exact ⟨c, digits, rfl, isDigit_of_mem_toDigits (hdigits ▸ List.mem_cons_self)⟩

theorem value_toDigits (n : Nat) : value (Nat.toDigits 10 n) = n := by
  change Nat.ofDigitChars 10 (Nat.toDigits 10 n) 0 = n
  exact Nat.ofDigitChars_ten_toDigits

theorem head?_toDigits_ne_zero (h : 0 < n) : (Nat.toDigits 10 n).head? ≠ some '0' := by
  induction n using Nat.strongRecOn with
  | ind n ih =>
    by_cases hlt : n < 10
    · rw [Nat.toDigits_of_lt_base hlt]
      simp only [List.head?_cons, ne_eq, Option.some.injEq, Nat.digitChar_eq_zero]
      omega
    · have hfront := ih (n / 10) (by omega) (by omega)
      obtain ⟨c, digits, hdigits, _⟩ := exists_toDigits_eq_cons (n / 10)
      rw [Nat.toDigits_of_base_le (by decide) (by omega), List.head?_append]
      rw [hdigits] at hfront ⊢
      exact hfront

theorem hexValue?_hexDigit (h : n < 16) : hexValue? (hexDigit n) = some n := by
  have hall : ∀ n < 16, hexValue? (hexDigit n) = some n := by decide
  exact hall n h

end Numeric

namespace Json

open Numeric

variable {rest : List Char} {n : Nat}

theorem readHex_hexPadded (h : n < 0x10000) (rest : List Char) :
    readHex (hexPadded 4 n ++ rest) = .ok (n, rest) := by
  have hdigit : ∀ m, hexValue? (hexDigit (m % 16)) = some (m % 16) :=
    fun m ↦ hexValue?_hexDigit (Nat.mod_lt m (by decide))
  have hvalue : ((n / 16 / 16 / 16 % 16 * 16 + n / 16 / 16 % 16) * 16 + n / 16 % 16) * 16 + n % 16 =
      n := by omega
  simp [readHex, hexPadded, hdigit, hvalue]

theorem readUnicode_hexPadded (h : n < 0x20) (rest : List Char) :
    readUnicode (hexPadded 4 n ++ rest) = .ok (Char.ofNat n, rest) := by
  have hlow : ¬ (0xDC00 ≤ n ∧ n ≤ 0xDFFF) := by omega
  have hhigh : n < 0xD800 ∨ 0xDBFF < n := by omega
  simp only [readUnicode, readHex_hexPadded (show n < 0x10000 by omega), Step.andThen, if_neg hlow,
    if_pos hhigh]

theorem readChar?_escapeChar (c : Char) (rest : List Char) :
    readChar? (escapeChar c ++ rest) = .ok (some c, rest) := by
  unfold escapeChar
  split
  case h_8 hquote hbackslash _ _ _ _ _ =>
    split_ifs with hcontrol
    · change (readUnicode (hexPadded 4 c.toNat ++ rest)).andThen _ = _
      rw [readUnicode_hexPadded hcontrol, Char.ofNat_toNat]
      rfl
    · rw [List.singleton_append, readChar?, if_neg hcontrol]
      · exact hquote
      · exact hbackslash
  all_goals rfl

theorem escapeChar_ne_nil (c : Char) : escapeChar c ≠ [] := by
  intro h
  have hread := readChar?_escapeChar c []
  rw [h] at hread
  cases hread

theorem length_le_length_escaped (cs : List Char) : cs.length ≤ (cs.flatMap escapeChar).length := by
  induction cs with
  | nil => exact Nat.zero_le _
  | cons c cs ih =>
    have hpos := List.length_pos_iff.mpr (escapeChar_ne_nil c)
    rw [List.flatMap_cons, List.length_append, List.length_cons]
    omega

theorem readChars_escaped {bound done cs : List Char} (h : cs.length < bound.length) :
    readChars bound done (cs.flatMap escapeChar ++ '"' :: rest) =
      .ok (String.ofList (done.reverse ++ cs), rest) := by
  induction cs generalizing bound done with
  | nil =>
    cases bound with
    | nil => cases h
    | cons b bound => simp [readChars, readChar?]
  | cons c cs ih =>
    cases bound with
    | nil => cases h
    | cons b bound =>
      rw [List.flatMap_cons, List.append_assoc, readChars]
      simp only [readChar?_escapeChar]
      rw [ih (Nat.lt_of_succ_lt_succ h), List.reverse_cons, List.append_assoc,
        List.singleton_append]

theorem readString_escaped (s : String) (rest : List Char) :
    readString (s.toList.flatMap escapeChar ++ '"' :: rest) = .ok (s, rest) := by
  have hlength := length_le_length_escaped s.toList
  have hbound : s.toList.length < (s.toList.flatMap escapeChar ++ '"' :: rest).length := by
    rw [List.length_append, List.length_cons]
    omega
  rw [readString, readChars_escaped hbound, List.reverse_nil, List.nil_append, String.ofList_toList]

/-- What may stand behind a number: nothing that would belong to it. -/
def EndsNumber (rest : List Char) : Prop :=
  ∀ c, rest.head? = some c → isDigit c = false ∧ c ≠ '.' ∧ c ≠ 'e' ∧ c ≠ 'E'

theorem endsNumber_nil : EndsNumber [] := nofun

theorem EndsNumber.endsDigits (h : EndsNumber rest) : EndsDigits rest := fun c hc ↦ (h c hc).1

theorem readWhole_toDigits (n : Nat) (h : EndsNumber rest) :
    readWhole (Nat.toDigits 10 n ++ rest) = .ok (Nat.toDigits 10 n, rest) := by
  have hspan : spanDigits (Nat.toDigits 10 n ++ rest) = (Nat.toDigits 10 n, rest) :=
    spanDigits_append (fun _ ↦ isDigit_of_mem_toDigits) h.endsDigits
  by_cases hn : n = 0
  · have hrest : (rest.head?.map isDigit).getD false = false := by
      cases rest with
      | nil => rfl
      | cons c rest => exact (h c rfl).1
    simp [hn, readWhole, hrest]
  · have hhead := head?_toDigits_ne_zero (Nat.pos_of_ne_zero hn)
    obtain ⟨c, digits, hdigits, hdigit⟩ := exists_toDigits_eq_cons n
    have hzero : c ≠ '0' := by simpa [hdigits] using hhead
    rw [hdigits, List.cons_append] at hspan ⊢
    rw [readWhole, if_pos hdigit, hspan]
    exact hzero

theorem readFraction_of_endsNumber (h : EndsNumber rest) :
    readFraction rest = .ok (none, rest) := by
  cases rest with
  | nil => rfl
  | cons c rest =>
    have hpoint : c ≠ '.' := (h c rfl).2.1
    rw [readFraction]
    intro _ hc
    exact hpoint (List.cons.inj hc).1

theorem readPower_of_endsNumber (isZero : Bool) (h : EndsNumber rest) :
    readPower isZero rest = .ok (none, rest) := by
  cases rest with
  | nil => rfl
  | cons c rest =>
    have hmark : ¬ (c = 'e' ∨ c = 'E') := not_or.mpr (h c rfl).2.2
    exact if_neg hmark

theorem readNumber_toDigits {negative : Bool} {number : Number} (h : EndsNumber rest)
    (hnumber : ofWhole negative n = some number) :
    readNumber negative (Nat.toDigits 10 n ++ rest) = .ok (number, rest) := by
  simp only [readNumber, readWhole_toDigits n h, readFraction_of_endsNumber h,
    readPower_of_endsNumber _ h, Step.andThen, Option.getD_none, List.append_nil, value_toDigits,
    Option.map_none, ofParts, hnumber]

end Json

end StoryGraph
