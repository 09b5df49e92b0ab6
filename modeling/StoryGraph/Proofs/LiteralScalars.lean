import Mathlib.Data.List.DropRight
import StoryGraph.Proofs.QuotedScalars

namespace StoryGraph.Yaml

variable {cs rest : List Char} {s : String} {indent : Nat}

inductive Chomping where
  | strip
  | clip
  | keep

def Chomping.cut : Chomping → List Char → List Char
  | strip, text => text.rdropWhile isBreak
  | clip, text =>
    let body := text.rdropWhile isBreak
    if body = [] then [] else text.take (body.length + 1)
  | keep, text => text

def readSigns (cs : List Char) : Bool × Chomping × List Char :=
  let (hinted, cs) := match cs with
    | '2' :: cs => (true, cs)
    | cs => (false, cs)
  match cs with
  | '-' :: cs => (hinted, .strip, cs)
  | '+' :: cs => (hinted, .keep, cs)
  | cs => (hinted, .clip, cs)

/-- Lines that are set in, up to the first that is not. In a line, so many characters are still to
be passed over; `none` is between two lines. -/
def readLines (indent : Nat) : Option Nat → List Char → List Char × List Char
  | _, [] => ([], [])
  | some (n + 1), _ :: cs => readLines indent (some n) cs
  | some 0, c :: cs =>
    let (text, rest) := readLines indent (if isBreak c then none else some 0) cs
    (c :: text, rest)
  | none, c :: cs =>
    if isBreak c then
      let (text, rest) := readLines indent none cs
      (c :: text, rest)
    else if 0 < indent ∧ spaces indent <+: c :: cs then readLines indent (some (indent - 1)) cs
    else ([], c :: cs)

def beginsAt (indent : Nat) (cs : List Char) : Bool :=
  match (spaces indent).isPrefixOf? cs with
  | some (c :: _) => !isSpace c && !isBreak c
  | _ => false

def readLiteral? (indent : Nat) (cs : List Char) : Option (List Char × List Char) :=
  match readSigns cs with
  | (hinted, chomping, '\n' :: cs) =>
    let (text, rest) := readLines indent none cs
    if (hinted || beginsAt indent cs) && text.all isAllowed then some (chomping.cut text, rest)
    else none
  | _ => none

/-- The rest of a document begins with a line that is set in by less. -/
inductive Below (column : Nat) : List Char → Prop
  | done : Below column []
  | line {n : Nat} {c : Char} {cs : List Char} (hn : n < column) (hspace : isSpace c = false)
      (hbreak : isBreak c = false) : Below column (spaces n ++ c :: cs)

theorem Below.not_spaces (h : Below indent rest) (hindent : 0 < indent) :
    ¬ spaces indent <+: rest := by
  rintro ⟨after, hafter⟩
  cases h with
  | done =>
    have hnil := (List.append_eq_nil_iff.mp hafter).1
    exact hindent.ne' (by simpa [spaces] using hnil)
  | @line n c cs hn hspace hbreak =>
    obtain ⟨k, rfl⟩ := Nat.exists_eq_add_of_lt hn
    rw [spaces, spaces, Nat.add_assoc, List.replicate_add, List.append_assoc] at hafter
    cases List.append_cancel_left hafter
    cases hspace

theorem readLines_rest (h : Below indent rest) (hindent : 0 < indent) :
    readLines indent none rest = ([], rest) := by
  have hspaces := h.not_spaces hindent
  cases rest with
  | nil => rfl
  | cons c cs =>
    have hbreak : isBreak c = false := by
      generalize hrest : c :: cs = rest at h
      cases h with
      | done => cases hrest
      | @line n c' cs' hn hspace hbreak =>
        cases n with
        | zero =>
          cases hrest
          exact hbreak
        | succ n =>
          cases hrest
          rfl
    rw [readLines, if_neg (by simp [hbreak]), if_neg fun h ↦ hspaces h.2]

theorem readLines_spaces (n : Nat) (cs : List Char) :
    readLines indent (some n) (spaces n ++ cs) = readLines indent (some 0) cs := by
  induction n with
  | zero => rfl
  | succ n ih => exact ih

theorem readLines_lead (hindent : 0 < indent) (afterBreak : Bool) (cs : List Char) :
    readLines indent (if afterBreak then none else some 0) (lead indent afterBreak ++ cs) =
      readLines indent (some 0) cs := by
  cases afterBreak with
  | false => rfl
  | true =>
    obtain ⟨n, rfl⟩ : ∃ n, indent = n + 1 := ⟨indent - 1, by omega⟩
    have hspaces : spaces (n + 1) <+: ' ' :: (spaces n ++ cs) := List.prefix_append _ _
    change readLines (n + 1) none (' ' :: (spaces n ++ cs)) = _
    rw [readLines, if_neg (by decide), if_pos ⟨hindent, hspaces⟩]
    exact readLines_spaces n cs

theorem readLines_indented {afterBreak : Bool} (hrest : Below indent rest) (hindent : 0 < indent)
    (hlast : (cs.getLast?.map isBreak).getD afterBreak = true) :
    readLines indent (if afterBreak then none else some 0)
      (indented indent afterBreak cs ++ rest) = (cs, rest) := by
  induction cs generalizing afterBreak with
  | nil =>
    obtain rfl : afterBreak = true := hlast
    exact readLines_rest hrest hindent
  | cons c cs ih =>
    rw [endsInBreak_cons] at hlast
    have hread := ih hlast
    rw [indented]
    cases hbreak : isBreak c with
    | true =>
      have hnext : readLines indent none (indented indent true cs ++ rest) = (cs, rest) := by
        simpa [hbreak] using hread
      cases afterBreak with
      | false => simp only [if_true, List.cons_append, readLines, hbreak, hnext, Bool.false_eq_true,
          if_false]
      | true => simp only [if_true, List.cons_append, readLines, hbreak, hnext]
    | false =>
      have hnext : readLines indent (some 0) (indented indent false cs ++ rest) = (cs, rest) := by
        simpa [hbreak] using hread
      have hlead := readLines_lead hindent afterBreak (c :: (indented indent false cs ++ rest))
      rw [if_neg Bool.false_ne_true, List.append_assoc]
      refine hlead.trans ?_
      simp only [readLines, hbreak, hnext, Bool.false_eq_true, if_false]

def ended (cs : List Char) : List Char :=
  if (cs.getLast?.map isBreak).getD false then cs else cs ++ ['\n']

theorem endsInBreak_ended (afterBreak : Bool) (cs : List Char) :
    ((ended cs).getLast?.map isBreak).getD afterBreak = true := by
  rw [ended]
  split_ifs with h
  · cases hlast : cs.getLast? with
    | none => simp [hlast] at h
    | some c => simpa [hlast] using h
  · rw [List.getLast?_concat]
    rfl

theorem all_isAllowed_ended (h : ∀ c ∈ cs, isPrintable c = true) :
    (ended cs).all isAllowed = true := by
  have hall : cs.all isAllowed = true :=
    List.all_eq_true.mpr fun c hc ↦ isAllowed_of_isPrintable (h c hc)
  rw [ended]
  split_ifs
  · exact hall
  · rw [List.all_append, hall]
    rfl

theorem getLast?_indented (indent : Nat) (afterBreak : Bool) (cs : List Char) :
    (indented indent afterBreak cs).getLast? = cs.getLast? := by
  induction cs generalizing afterBreak with
  | nil => rfl
  | cons c cs ih =>
    rw [indented]
    split_ifs <;> simp [List.getLast?_cons, ih]

theorem indented_feed (indent : Nat) (afterBreak : Bool) (cs : List Char) :
    indented indent afterBreak (cs ++ ['\n']) = indented indent afterBreak cs ++ ['\n'] := by
  induction cs generalizing afterBreak with
  | nil => rfl
  | cons c cs ih =>
    rw [List.cons_append, indented, indented]
    split_ifs <;> simp [ih]

theorem closed_lines (hne : cs ≠ []) :
    closed (lines indent cs) =
      '|' :: (lineSigns cs ++ '\n' :: indented indent true (ended cs)) := by
  have hlast : (lines indent cs).getLast? = cs.getLast? := by
    obtain ⟨before, a, rfl⟩ := (List.eq_nil_or_concat' cs).resolve_left hne
    simp [lines, List.getLast?_cons, List.getLast?_append, getLast?_indented]
  rw [closed, hlast, ended]
  split_ifs
  · rfl
  · rw [indented_feed]
    simp [lines]

def Chomping.sign : Chomping → List Char
  | strip => ['-']
  | clip => []
  | keep => ['+']

theorem readSigns_sign (hinted : Bool) (chomping : Chomping) (rest : List Char) :
    readSigns ((if hinted then ['2'] else []) ++ chomping.sign ++ '\n' :: rest) =
      (hinted, chomping, '\n' :: rest) := by
  cases hinted <;> cases chomping <;> rfl

theorem exists_endSign_eq (hne : cs ≠ []) :
    ∃ chomping : Chomping, endSign cs = chomping.sign ∧ chomping.cut (ended cs) = cs := by
  obtain ⟨before, a, rfl⟩ := (List.eq_nil_or_concat' cs).resolve_left hne
  have hreverse : (before ++ [a]).reverse = a :: before.reverse := List.reverse_concat
  have hended : ended (before ++ [a]) =
      if isBreak a then before ++ [a] else before ++ [a] ++ ['\n'] := by
    rw [ended, List.getLast?_concat]
    rfl
  rw [endSign, hreverse, hended]
  cases ha : isBreak a with
  | false =>
    refine ⟨.strip, ?_, ?_⟩
    · cases before.reverse <;> simp [ha, Chomping.sign]
    · rw [if_neg Bool.false_ne_true, Chomping.cut, List.rdropWhile_concat_pos _ _ _ rfl,
        List.rdropWhile_concat_neg _ _ _ (by simp [ha])]
  | true =>
    rcases List.eq_nil_or_concat' before with rfl | ⟨before, b, rfl⟩
    · exact ⟨.keep, by simp [ha, Chomping.sign], rfl⟩
    · cases hb : isBreak b with
      | true => exact ⟨.keep, by simp [ha, hb, Chomping.sign], rfl⟩
      | false =>
        have hbody : (before ++ [b] ++ [a]).rdropWhile isBreak = before ++ [b] := by
          rw [List.rdropWhile_concat_pos _ _ _ ha, List.rdropWhile_concat_neg _ _ _ (by simp [hb])]
        refine ⟨.clip, by simp [ha, hb, Chomping.sign], ?_⟩
        simp only [if_true, Chomping.cut, hbody]
        rw [if_neg (by simp), List.take_of_length_le (by simp)]

theorem exists_hintSign_eq (indent : Nat) (rest : List Char) (hne : cs ≠ []) :
    ∃ hinted : Bool, hintSign cs = (if hinted then ['2'] else []) ∧
      (hinted || beginsAt indent (indented indent true (ended cs) ++ rest)) = true := by
  obtain ⟨c, cs, rfl⟩ := List.exists_cons_of_ne_nil hne
  cases hc : isSpace c || isBreak c with
  | true => exact ⟨true, by simp [hintSign, hc], rfl⟩
  | false =>
    refine ⟨false, by simp [hintSign, hc], ?_⟩
    obtain ⟨hspace, hbreak⟩ := Bool.or_eq_false_iff.mp hc
    obtain ⟨text, htext⟩ : ∃ text, ended (c :: cs) = c :: text := by
      rw [ended]
      split_ifs
      · exact ⟨cs, rfl⟩
      · exact ⟨cs ++ ['\n'], rfl⟩
    have hspaces : (spaces indent).isPrefixOf?
        (spaces indent ++ c :: (indented indent false text ++ rest)) = some
          (c :: (indented indent false text ++ rest)) :=
      List.isPrefixOf?_eq_some_iff_append_eq.mpr rfl
    simp [htext, indented, hbreak, beginsAt, hspaces, hspace]

theorem readLiteral?_lines (h : styleOf s = .lines) (hrest : Below indent rest)
    (hindent : 0 < indent) : ∃ text, closed (lines indent s.toList) = '|' :: text ∧
      readLiteral? indent (text ++ rest) = some (s.toList, rest) := by
  unfold styleOf at h
  dsimp only at h
  split_ifs at h with hambiguous hfeed hescapes
  have hprint : ∀ c ∈ s.toList, isPrintable c = true := by
    simp only [needsEscapes, Bool.or_eq_true, not_or, Bool.not_eq_true', Bool.not_eq_false]
      at hescapes
    exact List.all_eq_true.mp hescapes.1.1
  have hne : s.toList ≠ [] := List.ne_nil_of_mem (List.contains_iff_mem.mp hfeed)
  obtain ⟨chomping, hend, hcut⟩ := exists_endSign_eq hne
  obtain ⟨hinted, hhint, hbegins⟩ := exists_hintSign_eq indent rest hne
  have hlines : readLines indent none (indented indent true (ended s.toList) ++ rest) =
      (ended s.toList, rest) :=
    readLines_indented hrest hindent (endsInBreak_ended true s.toList)
  refine ⟨_, closed_lines hne, ?_⟩
  rw [lineSigns, hhint, hend, List.append_assoc, List.cons_append, readLiteral?, readSigns_sign]
  simp only [hlines, hbegins, all_isAllowed_ended hprint, Bool.and_self, if_true, hcut]

end StoryGraph.Yaml
