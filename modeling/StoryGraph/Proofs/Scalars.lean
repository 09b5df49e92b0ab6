import StoryGraph.Proofs.LiteralScalars

namespace StoryGraph.Yaml

open Numeric

variable {cs rest : List Char} {c : Char} {s : String} {indent n : Nat} {value : Json}

def endLine (read : Option (List Char × List Char)) : Option (Json × List Char) :=
  match read with
  | some (text, '\n' :: rest) => some (.string (.ofList text), rest)
  | _ => none

def readInline? (indent : Nat) : List Char → Option (Json × List Char)
  | '|' :: cs => (readLiteral? indent cs).map fun (text, rest) ↦ (.string (.ofList text), rest)
  | '\x27' :: cs => endLine (readApostrophes false cs)
  | '"' :: cs => endLine (readQuotes cs)
  | '[' :: ']' :: '\n' :: rest => some (.array [], rest)
  | '\x7b' :: '\x7d' :: '\n' :: rest => some (.object [], rest)
  | cs => readPlain? cs

theorem readInline?_of_standsPlain (hplain : StandsPlain cs) (rest : List Char) :
    readInline? indent (cs ++ rest) = readPlain? (cs ++ rest) := by
  obtain ⟨_, hne, hmark, _⟩ := hplain
  obtain ⟨c, cs, rfl⟩ := List.exists_cons_of_ne_nil hne
  unfold readInline?
  split
  case h_6 => rfl
  all_goals next heq => exact absurd (congrArg some (List.cons.inj heq).1) (hmark _ (by decide))

theorem closed_concat (cs : List Char) (hc : isBreak c = false) :
    closed (cs ++ [c]) = cs ++ [c, '\n'] := by
  rw [closed, List.getLast?_concat, Option.map_some, Option.getD_some, hc,
    if_neg Bool.false_ne_true, List.append_assoc]
  rfl

theorem readInline?_closed (hplain : StandsPlain cs) (hbreak : ∀ c ∈ cs, isBreak c = false)
    (hvalue : resolve? cs = some value) (rest : List Char) :
    readInline? indent (closed cs ++ rest) = some (value, rest) := by
  have hclosed : closed cs = cs ++ ['\n'] := by
    obtain ⟨before, c, rfl⟩ := (List.eq_nil_or_concat' cs).resolve_left hplain.2.1
    rw [closed_concat before (hbreak c (by simp)), List.append_assoc]
    rfl
  rw [hclosed, List.append_assoc, readInline?_of_standsPlain hplain]
  exact readPlain?_append hplain hbreak hvalue rest

theorem readInline?_plain (h : styleOf s = .plain) (rest : List Char) :
    readInline? indent (closed s.toList ++ rest) = some (.string s, rest) := by
  unfold styleOf at h
  dsimp only at h
  split_ifs at h with hambiguous _ _ hplain
  have hne : s.toList ≠ [] := by
    intro hnil
    obtain rfl : s = "" := String.toList_eq_nil_iff.mp hnil
    exact hambiguous rfl
  have hbreak : ∀ c ∈ s.toList, isBreak c = false := by
    simp only [isPlain, Bool.not_eq_true', Bool.or_eq_false_iff] at hplain
    simpa using hplain.1.1.2
  exact readInline?_closed (standsPlain_of_isPlain hplain hne) hbreak
    (resolve?_of_not_isAmbiguous (eq_false_of_ne_true hambiguous)) rest

theorem readInline?_apostrophes (h : styleOf s = .apostrophes) (rest : List Char) :
    readInline? indent (closed (apostrophes indent s.toList) ++ rest) = some (.string s, rest) := by
  have hclosed : closed (apostrophes indent s.toList) =
      '\x27' :: folded indent false s.toList ++ ['\x27', '\n'] :=
    closed_concat ('\x27' :: folded indent false s.toList) rfl
  have hread : readApostrophes false
      (folded indent false s.toList ++ '\x27' :: '\n' :: rest) = _ :=
    readApostrophes_folded (folds_of_styleOf h) nofun (by simp)
  rw [hclosed, List.append_assoc, List.cons_append, readInline?]
  simp only [List.cons_append, List.nil_append, hread, endLine, String.ofList_toList]

theorem readInline?_quotes (s : String) (rest : List Char) :
    readInline? indent (closed (quotes s.toList) ++ rest) = some (.string s, rest) := by
  have hclosed : closed (quotes s.toList) =
      '"' :: s.toList.flatMap escapeChar ++ ['"', '\n'] :=
    closed_concat ('"' :: s.toList.flatMap escapeChar) rfl
  have hread := readQuotes_escaped s.toList ('\n' :: rest)
  rw [hclosed, List.append_assoc, List.cons_append, readInline?]
  simp only [List.cons_append, List.nil_append, hread, endLine, String.ofList_toList]

theorem readInline?_lines (h : styleOf s = .lines) (hrest : Below indent rest)
    (hindent : 0 < indent) :
    readInline? indent (closed (lines indent s.toList) ++ rest) = some (.string s, rest) := by
  obtain ⟨text, hclosed, hread⟩ := readLiteral?_lines h hrest hindent
  simp only [hclosed, List.cons_append, readInline?, hread, Option.map_some, String.ofList_toList]

/-- A text in any of the four styles is read back. -/
theorem readInline?_scalar (s : String) (hrest : Below indent rest) (hindent : 0 < indent) :
    readInline? indent (closed (scalar indent s) ++ rest) = some (.string s, rest) := by
  rw [scalar]
  cases hstyle : styleOf s with
  | plain => exact readInline?_plain hstyle rest
  | apostrophes => exact readInline?_apostrophes hstyle rest
  | lines => exact readInline?_lines hstyle hrest hindent
  | quotes => exact readInline?_quotes s rest

theorem readInline?_nat (h : n ≤ greatestWord) (rest : List Char) :
    readInline? indent (closed (inline indent (.nat n)) ++ rest) = some (.nat n, rest) := by
  have htext : inline indent (.nat n) = Nat.toDigits 10 n := Nat.toList_repr
  have hdigit : ∀ c ∈ Nat.toDigits 10 n, isDigit c = true := fun _ ↦ isDigit_of_mem_toDigits
  rw [htext]
  refine readInline?_closed (standsPlain_of_isDigit Nat.toDigits_ne_nil hdigit) ?_
    (resolve?_toDigits h) rest
  exact fun c hc ↦ isBreak_of_isVisible (isVisible_of_isDigit (hdigit c hc))

theorem readInline?_null (rest : List Char) :
    readInline? indent (closed (inline indent .null) ++ rest) = some (.null, rest) := by
  change readInline? indent (closed ['n', 'u', 'l', 'l'] ++ rest) = _
  exact readInline?_closed (by decide) (by simp [isBreak]) rfl rest

theorem readInline?_bool (b : Bool) (rest : List Char) :
    readInline? indent (closed (inline indent (.bool b)) ++ rest) = some (.bool b, rest) := by
  cases b with
  | false =>
    change readInline? indent (closed ['f', 'a', 'l', 's', 'e'] ++ rest) = _
    exact readInline?_closed (by decide) (by simp [isBreak]) rfl rest
  | true =>
    change readInline? indent (closed ['t', 'r', 'u', 'e'] ++ rest) = _
    exact readInline?_closed (by decide) (by simp [isBreak]) rfl rest

end StoryGraph.Yaml
