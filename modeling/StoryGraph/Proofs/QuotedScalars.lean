import Mathlib.Data.List.TakeWhile
import StoryGraph.Proofs.PlainScalars

namespace StoryGraph.Yaml

open Numeric

variable {cs rest : List Char} {c : Char} {s : String} {indent : Nat}

theorem isVisible_of_isHex (h : isHex c = true) : isVisible c = true := by
  unfold isHex hexValue? at h
  split_ifs at h with hdigit hlower hupper
  · exact isVisible_of_isDigit hdigit
  · exact isVisible_of_mem_range (by decide) (by decide) hlower
  · exact isVisible_of_mem_range (by decide) (by decide) hupper
  · cases h

def Visible (cs : List Char) : Prop := ∀ c ∈ cs, isVisible c = true

theorem visible_cons (hc : isVisible c = true) (h : Visible cs) : Visible (c :: cs) :=
  List.forall_mem_cons.mpr ⟨hc, h⟩

theorem visible_of_unsigned (h : Visible (unsigned cs)) : Visible cs := by
  unfold unsigned at h
  split at h
  · exact visible_cons rfl h
  · exact visible_cons rfl h
  · exact h

theorem visible_of_allOf {kind : Char → Bool} (hkind : ∀ c, kind c = true → isVisible c = true)
    (h : allOf kind cs = true) : Visible cs := by
  intro c hc
  exact hkind c (List.all_eq_true.mp (Bool.and_eq_true_iff.mp h).2 c hc)

theorem visible_of_isRadix {base : Nat} {kind : Char → Bool} {negative : Bool}
    (hkind : ∀ c, kind c = true → isVisible c = true) (h : isRadix base kind negative cs = true) :
    Visible cs :=
  visible_of_allOf hkind (Bool.and_eq_true_iff.mp h).1

theorem visible_of_isMarkedInteger (h : isMarkedInteger cs = true) : Visible cs := by
  refine visible_of_unsigned ?_
  unfold isMarkedInteger at h
  dsimp only at h
  split at h
  case h_1 heq =>
    rw [heq]
    exact visible_cons rfl (visible_cons rfl (visible_of_isRadix (fun _ ↦ isVisible_of_isHex) h))
  case h_2 heq =>
    rw [heq]
    refine visible_cons rfl (visible_cons rfl (visible_of_isRadix (fun c hc ↦ ?_) h))
    exact isVisible_of_mem_range (by decide) (by decide) hc
  case h_3 heq =>
    rw [heq]
    refine visible_cons rfl (visible_cons rfl (visible_of_isRadix (fun c hc ↦ ?_) h))
    simp only [Bool.or_eq_true, beq_iff_eq] at hc
    rcases hc with rfl | rfl <;> rfl
  case h_4 => cases h

theorem visible_of_isPadded (h : isPadded cs = true) : Visible cs := by
  refine visible_of_unsigned ?_
  unfold isPadded at h
  split at h
  case h_1 heq =>
    rw [heq]
    exact visible_cons rfl (visible_of_allOf (fun _ ↦ isVisible_of_isDigit) h)
  case h_2 => cases h

theorem visible_of_power? {power : Int} (h : power? cs = some power) : Visible cs := by
  cases cs with
  | nil => exact nofun
  | cons c cs =>
    unfold power? at h
    dsimp only at h
    split_ifs at h with hmark hdigits
    all_goals
      have hc : isVisible c = true := by rcases hmark with rfl | rfl <;> rfl
      exact visible_cons hc
        (visible_of_unsigned (visible_of_allOf (fun _ ↦ isVisible_of_isDigit) hdigits))

theorem visible_of_spanDigits (h : Visible (spanDigits cs).2) : Visible cs := by
  rw [spanDigits, List.span_eq_takeWhile_dropWhile] at h
  rw [← List.takeWhile_append_dropWhile (p := isDigit) (l := cs)]
  intro c hc
  rcases List.mem_append.mp hc with hdigit | hrest
  · exact isVisible_of_isDigit (List.mem_takeWhile_imp hdigit)
  · exact h c hrest

theorem visible_of_isDecimal (h : isDecimal cs = true) : Visible cs := by
  refine visible_of_unsigned (visible_of_spanDigits ?_)
  unfold isDecimal at h
  generalize spanDigits (unsigned cs) = parts at h ⊢
  obtain ⟨whole, rest⟩ := parts
  dsimp only at h ⊢
  have hpower := (Bool.and_eq_true_iff.mp h).2
  split at hpower
  case h_2 => cases hpower
  case h_1 hvalue =>
    have hvisible := visible_of_power? hvalue
    split at hvisible
    · exact visible_cons rfl (visible_of_spanDigits hvisible)
    · exact hvisible

theorem visible_of_mem {words : List String}
    (hwords : (words.all fun word ↦ word.toList.all isVisible) = true)
    (h : words.contains s = true) : Visible s.toList :=
  List.all_eq_true.mp (List.all_eq_true.mp hwords s (List.contains_iff_mem.mp h))

theorem visible_of_isAmbiguous (h : isAmbiguous s = true) : Visible s.toList := by
  simp only [isAmbiguous, Bool.or_eq_true] at h
  rcases h with ((((h | h) | h) | h) | h) | h
  · exact visible_of_mem (by decide) h
  · exact visible_of_mem (by decide) h
  · exact visible_of_mem (by decide) h
  · exact visible_of_isMarkedInteger h
  · exact visible_of_isPadded h
  · exact visible_of_isDecimal h

def beginsWithBreak (cs : List Char) : Bool := (cs.head?.map isBreak).getD false

def prepend (c : Option Char) (read : Option (List Char × List Char)) :
    Option (List Char × List Char) := do
  let c ← c
  let (text, rest) ← read
  return (c :: text, rest)

/-- A text up to its closing apostrophe. After a line break, spaces only set the line in. A line
feed would be folded, and a space before a break lost, so neither is taken. -/
def readApostrophes : Bool → List Char → Option (List Char × List Char)
  | _, '\x27' :: '\x27' :: cs => prepend (some '\x27') (readApostrophes false cs)
  | _, '\x27' :: cs => some ([], cs)
  | afterBreak, c :: cs =>
    if afterBreak = true ∧ c = ' ' then readApostrophes true cs
    else if c = '\n' ∨ isAllowed c = false ∨ c = ' ' ∧ beginsWithBreak cs = true then none
    else prepend (some c) (readApostrophes (isBreak c) cs)
  | _, [] => none

def doubled (cs : List Char) : List Char :=
  cs.flatMap fun c ↦ if c == '\x27' then ['\x27', '\x27'] else [c]

theorem readApostrophes_cons {afterBreak : Bool} (hc : c ≠ '\x27')
    (hspace : ¬ (afterBreak = true ∧ c = ' '))
    (hallowed : ¬ (c = '\n' ∨ isAllowed c = false ∨ c = ' ' ∧ beginsWithBreak cs = true)) :
    readApostrophes afterBreak (c :: cs) =
      prepend (some c) (readApostrophes (isBreak c) cs) := by
  conv_lhs => unfold readApostrophes
  split
  case h_1 heq =>
    cases heq
    exact absurd rfl hc
  case h_2 heq =>
    cases heq
    exact absurd rfl hc
  case h_3 heq =>
    cases heq
    rw [if_neg hspace, if_neg hallowed]
  case h_4 heq => cases heq

theorem readApostrophes_spaces (n : Nat) (cs : List Char) :
    readApostrophes true (spaces n ++ cs) = readApostrophes true cs := by
  induction n with
  | zero => rfl
  | succ n ih =>
    change readApostrophes true (' ' :: (spaces n ++ cs)) = _
    rw [← ih]
    conv_lhs => unfold readApostrophes
    rfl

theorem readApostrophes_end (afterBreak : Bool) (h : rest.head? ≠ some '\x27') :
    readApostrophes afterBreak ('\x27' :: rest) = some ([], rest) := by
  unfold readApostrophes
  split
  case h_1 heq =>
    cases heq
    exact absurd rfl h
  case h_2 heq =>
    cases heq
    rfl
  case h_3 hquote heq =>
    cases heq
    exact (hquote rfl).elim
  case h_4 heq => cases heq

theorem hasPair_of_cons {first second : Char → Bool} (h : hasPair first second (c :: cs) = false) :
    hasPair first second cs = false := by
  cases cs with
  | nil => rfl
  | cons d cs => exact (Bool.or_eq_false_iff.mp h).2

/-- A text that keeps its spaces when its lines are folded. -/
structure Folds (cs : List Char) : Prop where
  printable : ∀ c ∈ cs, isPrintable c = true
  noFeed : '\n' ∉ cs
  spaceBreak : hasPair isSpace isBreak cs = false
  breakSpace : hasPair isBreak isSpace cs = false

theorem Folds.tail (h : Folds (c :: cs)) : Folds cs where
  printable d hd := h.printable d (List.mem_cons_of_mem c hd)
  noFeed hd := h.noFeed (List.mem_cons_of_mem c hd)
  spaceBreak := hasPair_of_cons h.spaceBreak
  breakSpace := hasPair_of_cons h.breakSpace

def lead (indent : Nat) (afterBreak : Bool) : List Char := if afterBreak then spaces indent else []

def folded (indent : Nat) (afterBreak : Bool) (cs : List Char) : List Char :=
  indented indent afterBreak (doubled cs) ++
    lead indent ((cs.getLast?.map isBreak).getD afterBreak)

theorem endsInBreak_cons (afterBreak : Bool) (c : Char) (cs : List Char) :
    ((c :: cs).getLast?.map isBreak).getD afterBreak =
      (cs.getLast?.map isBreak).getD (isBreak c) := by
  rw [List.getLast?_cons]
  cases cs.getLast? <;> rfl

theorem folded_cons (afterBreak : Bool) (c : Char) (cs : List Char) :
    folded indent afterBreak (c :: cs) =
      (if isBreak c then [] else lead indent afterBreak) ++ doubled [c] ++
        folded indent (isBreak c) cs := by
  have hdoubled : doubled ([c] ++ cs) = doubled [c] ++ doubled cs := List.flatMap_append
  rw [List.singleton_append] at hdoubled
  rw [folded, folded, endsInBreak_cons, hdoubled]
  by_cases hquote : c = '\x27'
  · subst hquote
    simp [doubled, indented, lead, isBreak]
  · by_cases hbreak : isBreak c = true
    · simp [doubled, indented, hquote, hbreak]
    · simp [doubled, indented, lead, hquote, hbreak]

theorem readApostrophes_lead (afterBreak : Bool) (cs : List Char) :
    readApostrophes afterBreak (lead indent afterBreak ++ cs) = readApostrophes afterBreak cs := by
  cases afterBreak with
  | false => rfl
  | true => exact readApostrophes_spaces indent cs

theorem beginsWithBreak_folded (cs rest : List Char) :
    beginsWithBreak (folded indent false cs ++ '\x27' :: rest) = beginsWithBreak cs := by
  cases cs with
  | nil => rfl
  | cons c cs =>
    rw [folded_cons]
    by_cases hquote : c = '\x27'
    · subst hquote
      rfl
    · simp [beginsWithBreak, doubled, lead, hquote]

theorem readApostrophes_folded_cons (afterBreak : Bool) (c : Char) (cs rest : List Char) :
    readApostrophes afterBreak (folded indent afterBreak (c :: cs) ++ rest) =
      readApostrophes afterBreak (doubled [c] ++ (folded indent (isBreak c) cs ++ rest)) := by
  rw [folded_cons, List.append_assoc, List.append_assoc]
  split_ifs
  · rfl
  · exact readApostrophes_lead afterBreak _

theorem readApostrophes_folded {afterBreak : Bool} (h : Folds cs)
    (hspace : afterBreak = true → cs.head? ≠ some ' ') (hrest : rest.head? ≠ some '\x27') :
    readApostrophes afterBreak (folded indent afterBreak cs ++ '\x27' :: rest) =
      some (cs, rest) := by
  induction cs generalizing afterBreak with
  | nil =>
    have htext : folded indent afterBreak [] = lead indent afterBreak := rfl
    rw [htext, readApostrophes_lead, readApostrophes_end afterBreak hrest]
  | cons c cs ih =>
    have hnext : isBreak c = true → cs.head? ≠ some ' ' := by
      intro hbreak hhead
      obtain ⟨cs, rfl⟩ := List.head?_eq_some_iff.mp hhead
      have hpair := (Bool.or_eq_false_iff.mp h.breakSpace).1
      simp [hbreak, isSpace] at hpair
    have hread := ih h.tail hnext
    rw [readApostrophes_folded_cons]
    by_cases hquote : c = '\x27'
    · subst hquote
      exact congrArg (prepend (some '\x27')) hread
    · have hallowed : ¬ (c = '\n' ∨ isAllowed c = false ∨
          c = ' ' ∧ beginsWithBreak (folded indent (isBreak c) cs ++ '\x27' :: rest) = true) := by
        rintro (rfl | hdenied | ⟨rfl, hbreak⟩)
        · exact h.noFeed List.mem_cons_self
        · rw [isAllowed_of_isPrintable (h.printable c List.mem_cons_self)] at hdenied
          cases hdenied
        · have hbegins : beginsWithBreak cs = true :=
            (beginsWithBreak_folded cs rest).symm.trans hbreak
          cases cs with
          | nil => cases hbegins
          | cons d cs =>
            have hpair : isBreak d = false := (Bool.or_eq_false_iff.mp h.spaceBreak).1
            cases hpair.symm.trans hbegins
      have hblank : ¬ (afterBreak = true ∧ c = ' ') := by
        rintro ⟨hafter, rfl⟩
        exact hspace hafter rfl
      have hdoubled : doubled [c] = [c] := by simp [doubled, hquote]
      rw [hdoubled, List.singleton_append, readApostrophes_cons hquote hblank hallowed, hread]
      rfl

theorem hasPair_eq_false {first second : Char → Bool}
    (h : (∀ c ∈ cs, first c = false) ∨ ∀ c ∈ cs, second c = false) :
    hasPair first second cs = false := by
  induction cs with
  | nil => rfl
  | cons c cs ih =>
    cases cs with
    | nil => rfl
    | cons d cs =>
      rw [hasPair, ih (h.imp (fun h e he ↦ h e (.tail c he)) (fun h e he ↦ h e (.tail c he))),
        Bool.or_false]
      rcases h with hfirst | hsecond
      · rw [hfirst c List.mem_cons_self, Bool.false_and]
      · rw [hsecond d (.tail c List.mem_cons_self), Bool.and_false]

theorem Visible.folds (h : Visible cs) : Folds cs := by
  have hrange : ∀ c ∈ cs, 0x20 < c.toNat ∧ c.toNat < 0x7F := by
    intro c hc
    have hvisible := h c hc
    simpa only [isVisible, Bool.and_eq_true, decide_eq_true_eq] using hvisible
  have hspace : ∀ c ∈ cs, isSpace c = false := by
    intro c hc
    refine beq_eq_false_iff_ne.mpr ?_
    rintro rfl
    cases h ' ' hc
  refine ⟨?_, ?_, hasPair_eq_false (.inl hspace), hasPair_eq_false (.inr hspace)⟩
  · intro c hc
    have := hrange c hc
    simp only [isPrintable, Bool.or_eq_true, Bool.and_eq_true, beq_iff_eq, decide_eq_true_eq]
    omega
  · intro hfeed
    cases h '\n' hfeed

theorem folds_of_styleOf (h : styleOf s = .apostrophes) : Folds s.toList := by
  unfold styleOf at h
  dsimp only at h
  split_ifs at h with hambiguous hfeed _ hplain hescapes
  · exact (visible_of_isAmbiguous hambiguous).folds
  · simp only [needsEscapes, Bool.or_eq_true, Bool.not_eq_true', not_or, Bool.not_eq_true,
      Bool.not_eq_false] at hescapes
    obtain ⟨⟨hprint, hspaceBreak⟩, hbreakSpace⟩ := hescapes
    refine ⟨List.all_eq_true.mp hprint, ?_, hspaceBreak, hbreakSpace⟩
    simpa using hfeed

def unescaped? : Char → Option Char
  | '"' => some '"'
  | '\\' => some '\\'
  | '0' => some '\x00'
  | 'a' => some '\x07'
  | 'b' => some '\x08'
  | 't' => some '\t'
  | 'n' => some '\n'
  | 'v' => some '\x0b'
  | 'f' => some '\x0c'
  | 'r' => some '\r'
  | 'e' => some '\x1b'
  | 'N' => some '\u0085'
  | 'L' => some '\u2028'
  | 'P' => some '\u2029'
  | _ => none

def charOfHex? (digits : List Char) : Option Char := do
  let n ← digits.foldlM (fun n digit ↦ (hexValue? digit).map (16 * n + ·)) 0
  if n.isValidChar then some (Char.ofNat n) else none

def readQuotes : List Char → Option (List Char × List Char)
  | '"' :: cs => some ([], cs)
  | '\\' :: 'x' :: a :: b :: cs => prepend (charOfHex? [a, b]) (readQuotes cs)
  | '\\' :: 'u' :: a :: b :: c :: d :: cs => prepend (charOfHex? [a, b, c, d]) (readQuotes cs)
  | '\\' :: c :: cs => prepend (unescaped? c) (readQuotes cs)
  | c :: cs =>
    if isBreak c = true ∨ isAllowed c = false then none else prepend (some c) (readQuotes cs)
  | [] => none

theorem hexValue?_toUpper (n : Nat) : hexValue? (hexDigit (n % 16)).toUpper = some (n % 16) := by
  have hall : ∀ n < 16, hexValue? (hexDigit n).toUpper = some n := by decide
  exact hall _ (Nat.mod_lt n (by decide))

theorem charOfHex?_hexUpper_two (h : c.toNat ≤ 0xFF) :
    charOfHex? (hexUpper 2 c.toNat) = some c := by
  have hvalue : 16 * (c.toNat / 16 % 16) + c.toNat % 16 = c.toNat := by omega
  have hvalid : c.toNat.isValidChar := c.valid
  simp [charOfHex?, hexUpper, hexPadded, hexValue?_toUpper, hvalue, hvalid]

theorem charOfHex?_hexUpper_four (h : c.toNat ≤ 0xFFFF) :
    charOfHex? (hexUpper 4 c.toNat) = some c := by
  have hvalue : 16 * (16 * (16 * (c.toNat / 16 / 16 / 16 % 16) + c.toNat / 16 / 16 % 16) +
      c.toNat / 16 % 16) + c.toNat % 16 = c.toNat := by omega
  have hvalid : c.toNat.isValidChar := c.valid
  simp [charOfHex?, hexUpper, hexPadded, hexValue?_toUpper, hvalue, hvalid]

theorem readQuotes_escapeChar (c : Char) (cs : List Char) :
    readQuotes (escapeChar c ++ cs) = prepend (some c) (readQuotes cs) := by
  unfold escapeChar
  split
  case h_15 hquote hbackslash _ _ _ _ hfeed _ _ hreturn _ hnext hline hparagraph =>
    split_ifs with hprint hsmall
    · have hbreak : isBreak c = false := by
        simp only [isBreak, Bool.or_eq_false_iff, beq_eq_false_iff_ne]
        exact ⟨⟨⟨⟨hfeed, hreturn⟩, hnext⟩, hline⟩, hparagraph⟩
      rw [List.singleton_append]
      conv_lhs => unfold readQuotes
      split
      case h_5 heq =>
        cases heq
        rw [if_neg (by simp [hbreak, isAllowed_of_isPrintable hprint])]
      case h_6 heq => cases heq
      all_goals next heq => cases heq; contradiction
    · exact congrArg (prepend · (readQuotes cs)) (charOfHex?_hexUpper_two hsmall)
    · have hlarge : c.toNat ≤ 0xFFFF := by
        simp only [isPrintable, Bool.or_eq_true, decide_eq_true_eq, not_or] at hprint
        omega
      exact congrArg (prepend · (readQuotes cs)) (charOfHex?_hexUpper_four hlarge)
  all_goals rfl

theorem readQuotes_escaped (cs rest : List Char) :
    readQuotes (cs.flatMap escapeChar ++ '"' :: rest) = some (cs, rest) := by
  induction cs with
  | nil => rfl
  | cons c cs ih =>
    rw [List.flatMap_cons, List.append_assoc, readQuotes_escapeChar, ih]
    rfl

end StoryGraph.Yaml
