import Mathlib.Data.List.Infix
import StoryGraph.Proofs.Lexemes
import StoryGraph.Yaml.Printer

namespace StoryGraph.Numeric.Binary64

variable {n num den : Nat}

theorem log2_lt_of_le (h : n ≤ greatestWord) : Nat.log2 n < 64 := by
  by_cases hn : n = 0
  · simp [hn]
  · exact (Nat.log2_lt hn).mpr (Nat.lt_succ_of_le h)

theorem exponentFor_lt (h : num ≤ greatestWord) : exponentFor num den < 12 := by
  have hlog := log2_lt_of_le h
  have hleast : minExponent = -1074 := rfl
  unfold exponentFor
  dsimp only
  split_ifs <;> omega

theorem isSome_bounded? (negative : Bool) (mantissa : Nat) {exponent : Int} (h : exponent < 13) :
    (bounded? negative mantissa exponent).isSome = true := by
  have hgreatest : maxExponent = 971 := rfl
  rw [bounded?, if_neg (by omega)]
  rfl

theorem isSome_ofRatio? (negative : Bool) (h : num ≤ greatestWord) :
    (ofRatio? negative num den).isSome = true := by
  have hexponent : exponentFor num den < 12 := exponentFor_lt h
  unfold ofRatio?
  dsimp only
  split_ifs
  · exact isSome_bounded? _ _ (by omega)
  · exact isSome_bounded? _ _ (by omega)

theorem isSome_ofDecimal? (negative : Bool) (h : n ≤ greatestWord) :
    (ofDecimal? negative n 0).isSome = true := by
  have hlog := log2_lt_of_le h
  unfold ofDecimal?
  dsimp only
  split_ifs
  · rfl
  · omega
  · rfl
  · exact isSome_ofRatio? negative ((Nat.mul_one n).le.trans h)

end StoryGraph.Numeric.Binary64

namespace StoryGraph.Yaml

open Numeric

variable {cs rest : List Char} {c : Char} {s : String} {n : Nat} {value : Json}

def isAllowed (c : Char) : Bool :=
  let n := c.toNat
  n == 0x0A || (0x20 ≤ n && n < 0x7F) || (0xA0 ≤ n && n < 0xFFFE) || 0x10000 ≤ n

def natural? (cs : List Char) : Option Nat :=
  if allOf isDigit cs = true ∧ (cs = ['0'] ∨ cs.head? ≠ some '0') ∧
      Numeric.value cs ≤ greatestWord then
    some (Numeric.value cs)
  else none

/-- What a plain text stands for. Of the numbers, only naturals of 64 bits are taken. -/
def resolve? (cs : List Char) : Option Json :=
  let s := String.ofList cs
  if s = "null" then some .null
  else if s = "true" then some (.bool true)
  else if s = "false" then some (.bool false)
  else
    match natural? cs with
    | some n => some (.nat n)
    | none => if isAmbiguous s then none else some (.string s)

def marks : List Char :=
  [' ', '#', ',', '[', ']', '\x7b', '\x7d', '&', '*', '!', '|', '>', '\x27', '"', '%', '@', '\x60']

/-- The text begins with no mark of the format, and nothing in it ends it. -/
def StandsPlain (cs : List Char) : Prop :=
  (∀ c ∈ cs, isAllowed c = true) ∧ cs ≠ [] ∧ (∀ mark ∈ marks, cs.head? ≠ some mark) ∧
  (∀ mark ∈ ['-', '?', ':'], cs ≠ [mark] ∧ ¬ [mark, ' '] <+: cs) ∧
  ¬ [':', ' '] <:+: cs ∧ ¬ [' ', '#'] <:+: cs ∧ cs.getLast? ≠ some ':' ∧ cs.getLast? ≠ some ' '

instance (cs : List Char) : Decidable (StandsPlain cs) :=
  have : Decidable (∀ c ∈ cs, isAllowed c = true) := List.decidableBAll _ cs
  have : Decidable (∀ mark ∈ marks, cs.head? ≠ some mark) := List.decidableBAll _ marks
  have : Decidable (∀ mark ∈ ['-', '?', ':'], cs ≠ [mark] ∧ ¬ [mark, ' '] <+: cs) :=
    List.decidableBAll _ _
  inferInstanceAs (Decidable (_ ∧ _))

def readPlain? (cs : List Char) : Option (Json × List Char) :=
  let (text, rest) := cs.span fun c ↦ !isBreak c
  match rest with
  | '\n' :: rest => if StandsPlain text then (resolve? text).map (·, rest) else none
  | _ => none

theorem isAllowed_of_isPrintable (h : isPrintable c = true) : isAllowed c = true := by
  simp only [isPrintable, Bool.or_eq_true, Bool.and_eq_true, beq_iff_eq, bne_iff_ne,
    decide_eq_true_eq] at h
  simp only [isAllowed, Bool.or_eq_true, Bool.and_eq_true, beq_iff_eq, decide_eq_true_eq]
  omega

theorem holdsMark_of_cons (h : holdsMark (c :: cs) = false) : holdsMark cs = false := by
  unfold holdsMark at h
  split at h
  case h_1 => contradiction
  case h_2 heq =>
    cases heq
    exact (Bool.or_eq_false_iff.mp h).2
  case h_3 heq =>
    cases heq
    exact (Bool.or_eq_false_iff.mp h).2
  case h_4 heq =>
    cases heq
    exact h

theorem holdsMark_of_append {before : List Char} (h : holdsMark (before ++ cs) = false) :
    holdsMark cs = false := by
  induction before with
  | nil => exact h
  | cons c before ih => exact ih (holdsMark_of_cons h)

theorem not_beginsWithMark_cons (h : beginsWithMark (c :: cs) = false) :
    c ∉ indicators ∧ (c ∈ ['-', '?', ':'] → endsWord cs = false) := by
  unfold beginsWithMark at h
  split at h
  case h_1 => contradiction
  case h_2 => contradiction
  case h_3 heq =>
    cases heq
    obtain ⟨hindicator, hmark⟩ := Bool.or_eq_false_iff.mp h
    refine ⟨by simpa using hindicator, fun hc ↦ ?_⟩
    simp only [Bool.and_eq_false_imp, Bool.or_eq_true, beq_iff_eq] at hmark
    simp only [List.mem_cons, List.not_mem_nil, or_false] at hc
    exact hmark (by tauto)
  case h_4 heq => cases heq

theorem standsPlain_of_isPlain (hplain : isPlain cs = true) (hne : cs ≠ []) : StandsPlain cs := by
  simp only [isPlain, needsEscapes, Bool.not_eq_true', Bool.or_eq_false_iff, Bool.not_eq_false',
    decide_eq_false_iff_not] at hplain
  obtain ⟨⟨⟨⟨⟨hbegin, hmark⟩, hprint, _⟩, _⟩, hfirst⟩, hlast⟩ := hplain
  refine ⟨?_, hne, ?_, ?_, ?_, ?_, ?_, hlast⟩
  · intro c hc
    exact isAllowed_of_isPrintable (List.all_eq_true.mp hprint c hc)
  · intro mark hmem hhead
    obtain ⟨cs, rfl⟩ := List.head?_eq_some_iff.mp hhead
    rcases List.mem_cons.mp hmem with rfl | hindicator
    · exact hfirst rfl
    · exact (not_beginsWithMark_cons hbegin).1 hindicator
  · intro mark hmem
    constructor
    · rintro rfl
      cases (not_beginsWithMark_cons hbegin).2 hmem
    · rintro ⟨after, rfl⟩
      cases (not_beginsWithMark_cons hbegin).2 hmem
  · rintro ⟨before, after, rfl⟩
    rw [List.append_assoc] at hmark
    cases holdsMark_of_append hmark
  · rintro ⟨before, after, rfl⟩
    rw [List.append_assoc] at hmark
    cases holdsMark_of_append hmark
  · intro hcolon
    obtain ⟨before, rfl⟩ := List.getLast?_eq_some_iff.mp hcolon
    cases holdsMark_of_append hmark

theorem isDecimal_of_allOf (hdigits : allOf isDigit cs = true)
    (hvalue : Numeric.value cs ≤ greatestWord) : isDecimal cs = true := by
  simp only [allOf, Bool.and_eq_true, Bool.not_eq_true', List.isEmpty_eq_false_iff,
    List.all_eq_true] at hdigits
  obtain ⟨hne, hall⟩ := hdigits
  have hunsigned : unsigned cs = cs := by
    unfold unsigned
    split
    · cases hall '+' List.mem_cons_self
    · cases hall '-' List.mem_cons_self
    · rfl
  have hspan : spanDigits cs = (cs, []) := by
    have h : spanDigits (cs ++ []) = (cs, []) := spanDigits_append hall nofun
    rwa [List.append_nil] at h
  simp [isDecimal, hunsigned, hspan, power?, hne, Binary64.isSome_ofDecimal? false hvalue]

theorem resolve?_of_not_isAmbiguous (h : isAmbiguous s = false) :
    resolve? s.toList = some (.string s) := by
  have hnatural : natural? s.toList = none := by
    refine if_neg fun ⟨hdigits, _, hvalue⟩ ↦ ?_
    simp [isAmbiguous, isDecimal_of_allOf hdigits hvalue] at h
  have hnull : s ≠ "null" := by
    rintro rfl
    cases h
  have htrue : s ≠ "true" := by
    rintro rfl
    cases h
  have hfalse : s ≠ "false" := by
    rintro rfl
    cases h
  simp [resolve?, hnatural, h, hnull, htrue, hfalse]

theorem readPlain?_append (hplain : StandsPlain cs) (hbreak : ∀ c ∈ cs, isBreak c = false)
    (hvalue : resolve? cs = some value) (rest : List Char) :
    readPlain? (cs ++ '\n' :: rest) = some (value, rest) := by
  have hspan : (cs ++ '\n' :: rest).span (fun c ↦ !isBreak c) = (cs, '\n' :: rest) := by
    have hall : ∀ c ∈ cs, (!isBreak c) = true := fun c hc ↦ by rw [hbreak c hc]; rfl
    have hstop : (!isBreak '\n') = false := rfl
    rw [List.span_eq_takeWhile_dropWhile, List.takeWhile_append_of_pos hall,
      List.dropWhile_append_of_pos hall]
    simp [hstop]
  rw [readPlain?, hspan]
  simp only [if_pos hplain, hvalue, Option.map_some]

def isVisible (c : Char) : Bool := 0x20 < c.toNat && c.toNat < 0x7F

theorem isVisible_of_mem_range {first last : Char} (hfirst : 0x20 < first.toNat)
    (hlast : last.toNat < 0x7F) (h : (first ≤ c && c ≤ last) = true) : isVisible c = true := by
  simp only [Bool.and_eq_true, decide_eq_true_eq, Char.le_def, UInt32.le_iff_toNat_le] at h
  simp only [isVisible, Bool.and_eq_true, decide_eq_true_eq]
  exact ⟨hfirst.trans_le h.1, h.2.trans_lt hlast⟩

theorem isVisible_of_isDigit (h : isDigit c = true) : isVisible c = true :=
  isVisible_of_mem_range (by decide) (by decide) h

theorem isAllowed_of_isVisible (h : isVisible c = true) : isAllowed c = true := by
  simp only [isVisible, Bool.and_eq_true, decide_eq_true_eq] at h
  simp only [isAllowed, Bool.or_eq_true, Bool.and_eq_true, beq_iff_eq, decide_eq_true_eq]
  omega

theorem isBreak_of_isVisible (h : isVisible c = true) : isBreak c = false := by
  cases hbreak : isBreak c with
  | false => rfl
  | true =>
    simp only [isBreak, Bool.or_eq_true, beq_iff_eq] at hbreak
    rcases hbreak with (((rfl | rfl) | rfl) | rfl) | rfl <;> cases h

theorem standsPlain_of_isDigit (hne : cs ≠ []) (h : ∀ c ∈ cs, isDigit c = true) :
    StandsPlain cs := by
  have hnot (c : Char) (hc : isDigit c = false) : c ∉ cs := by
    intro hmem
    cases hc.symm.trans (h c hmem)
  have hmarks : ∀ mark ∈ marks, isDigit mark = false := by simp [marks, isDigit]
  have hothers : ∀ mark ∈ ['-', '?', ':'], isDigit mark = false := by simp [isDigit]
  refine ⟨fun c hc ↦ isAllowed_of_isVisible (isVisible_of_isDigit (h c hc)), hne, ?_, ?_, ?_, ?_,
    ?_, ?_⟩
  · intro mark hmark hhead
    exact hnot mark (hmarks mark hmark) (List.mem_of_head? hhead)
  · intro mark hmark
    have hmem := hnot mark (hothers mark hmark)
    constructor
    · rintro rfl
      exact hmem List.mem_cons_self
    · intro hstart
      exact hmem (hstart.subset List.mem_cons_self)
  · exact fun hinside ↦ hnot ':' rfl (hinside.subset List.mem_cons_self)
  · exact fun hinside ↦ hnot ' ' rfl (hinside.subset List.mem_cons_self)
  · exact fun hlast ↦ hnot ':' rfl (List.mem_of_getLast? hlast)
  · exact fun hlast ↦ hnot ' ' rfl (List.mem_of_getLast? hlast)

theorem resolve?_toDigits (h : n ≤ greatestWord) :
    resolve? (Nat.toDigits 10 n) = some (.nat n) := by
  have hdigit : ∀ c ∈ Nat.toDigits 10 n, isDigit c = true := fun _ ↦ isDigit_of_mem_toDigits
  have hword (word : String) (c : Char) (hc : c ∈ word.toList) (hother : isDigit c = false) :
      String.ofList (Nat.toDigits 10 n) ≠ word := by
    rintro rfl
    rw [String.toList_ofList] at hc
    cases hother.symm.trans (hdigit c hc)
  have hall : allOf isDigit (Nat.toDigits 10 n) = true := by
    simpa [allOf] using hdigit
  have hzero : Nat.toDigits 10 n = ['0'] ∨ (Nat.toDigits 10 n).head? ≠ some '0' := by
    rcases Nat.eq_zero_or_pos n with rfl | hpos
    · exact .inl rfl
    · exact .inr (head?_toDigits_ne_zero hpos)
  have hnatural : natural? (Nat.toDigits 10 n) = some n := by
    rw [natural?, value_toDigits, if_pos ⟨hall, hzero, h⟩]
  simp only [resolve?, if_neg (hword "null" 'n' (by decide) rfl),
    if_neg (hword "true" 't' (by decide) rfl), if_neg (hword "false" 'f' (by decide) rfl), hnatural]

end StoryGraph.Yaml
