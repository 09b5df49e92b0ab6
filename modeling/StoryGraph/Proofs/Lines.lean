import Mathlib.Data.List.TakeDrop
import StoryGraph.Json.Excerpt
import StoryGraph.Proofs.Slices

namespace StoryGraph

namespace Text

/-- A line of a text, with its line break if it has one, between what stands before and behind it.
Lines are counted from one. -/
structure IsLine (text : List Char) (number : Nat) (before line after : List Char) : Prop where
  split : text = before ++ line ++ after
  number_eq : number = before.count '\n' + 1
  begins : before = [] ∨ before.getLast? = some '\n'
  unbroken : '\n' ∉ line.dropLast
  ends : after = [] ∨ line.getLast? = some '\n'
  ne_nil : line ≠ []

variable {cs before line after : List Char} {c : Char} {number : Nat}

theorem IsLine.cons_before (h : IsLine cs number before line after)
    (hc : before = [] → c = '\n') :
    IsLine (c :: cs) ((c :: before).count '\n' + 1) (c :: before) line after where
  split := by rw [h.split]; rfl
  number_eq := rfl
  begins := by
    right
    obtain rfl | hbefore := h.begins
    · rw [hc rfl]
      rfl
    · rw [List.getLast?_cons, hbefore]
      rfl
  unbroken := h.unbroken
  ends := h.ends
  ne_nil := h.ne_nil

theorem IsLine.cons_line (h : IsLine cs 1 [] line after) (hc : c ≠ '\n') :
    IsLine (c :: cs) 1 [] (c :: line) after where
  split := by rw [h.split]; rfl
  number_eq := rfl
  begins := .inl rfl
  unbroken := by
    rw [List.dropLast_cons_of_ne_nil h.ne_nil, List.mem_cons, not_or]
    exact ⟨hc.symm, h.unbroken⟩
  ends := by
    rw [List.getLast?_cons_of_ne_nil h.ne_nil]
    exact h.ends
  ne_nil := List.cons_ne_nil c line

theorem IsLine.not_lt {before' line' after' : List Char} (h : IsLine cs number before line after)
    (h' : IsLine cs number before' line' after') : ¬ before.length < before'.length := by
  intro hlt
  have hsplit := h.split.symm.trans h'.split
  rw [List.append_assoc, List.append_assoc] at hsplit
  obtain ⟨more, rfl, _⟩ | ⟨more, rfl, _⟩ := List.append_eq_append_iff.mp hsplit
  · -- The longer beginning ends with a line break that the shorter one does not have.
    have hmore : more ≠ [] := by
      rintro rfl
      simp at hlt
    have hcount := h.number_eq.symm.trans h'.number_eq
    rw [List.count_append] at hcount
    have hnone : '\n' ∉ more := List.count_eq_zero.mp (by omega)
    obtain hbegins | hbegins := h'.begins
    · exact hmore (List.append_eq_nil_iff.mp hbegins).2
    · rw [List.getLast?_append_of_ne_nil _ hmore] at hbegins
      exact hnone (List.mem_of_getLast? hbegins)
  · rw [List.length_append] at hlt
    omega

theorem IsLine.eq_of_append {line' after' more : List Char} (h : IsLine cs number before line after)
    (h' : IsLine cs number before line' after') (hline : line' = line ++ more)
    (hafter : after = more ++ after') : line = line' ∧ after = after' := by
  cases more with
  | nil => exact ⟨by rw [hline, List.append_nil], hafter⟩
  | cons c more =>
    -- The shorter line does not end the text, so it ends with a line break.
    obtain hend | hend := h.ends
    · rw [hafter] at hend
      cases hend
    · refine absurd ?_ h'.unbroken
      rw [hline, List.dropLast_append_of_ne_nil (List.cons_ne_nil c more)]
      exact List.mem_append_left _ (List.mem_of_getLast? hend)

theorem IsLine.unique {before' line' after' : List Char} (h : IsLine cs number before line after)
    (h' : IsLine cs number before' line' after') :
    before = before' ∧ line = line' ∧ after = after' := by
  have hsplit := h.split.symm.trans h'.split
  rw [List.append_assoc, List.append_assoc] at hsplit
  have hlength := Nat.le_antisymm (Nat.not_lt.mp (h'.not_lt h)) (Nat.not_lt.mp (h.not_lt h'))
  obtain ⟨rfl, hrest⟩ := List.append_inj hsplit hlength
  obtain ⟨more, hline, hafter⟩ | ⟨more, hline, hafter⟩ := List.append_eq_append_iff.mp hrest
  · exact ⟨rfl, h.eq_of_append h' hline hafter⟩
  · obtain ⟨rfl, rfl⟩ := h'.eq_of_append h hline hafter
    exact ⟨rfl, rfl, rfl⟩

end Text

namespace Json

open Text

namespace Excerpt

variable {cs line rest : List Char} {n offset start column : Nat} {p q : Position}

theorem firstLine_cons (c : Char) (cs : List Char) :
    firstLine (c :: cs) = if c = '\n' then ['\n'] else c :: firstLine cs := by
  simp only [firstLine, List.span_eq_takeWhile_dropWhile]
  split_ifs with hc <;> simp [hc]

theorem exists_isLine_firstLine (h : cs ≠ []) : ∃ after, IsLine cs 1 [] (firstLine cs) after := by
  induction cs with
  | nil => exact absurd rfl h
  | cons c cs ih =>
    rw [firstLine_cons]
    split_ifs with hc
    · rw [hc]
      exact ⟨cs, rfl, rfl, .inl rfl, List.not_mem_nil, .inr rfl, nofun⟩
    · cases cs with
      | nil => exact ⟨[], rfl, rfl, .inl rfl, List.not_mem_nil, .inl rfl, nofun⟩
      | cons d cs =>
        obtain ⟨after, hline⟩ := ih (List.cons_ne_nil d cs)
        exact ⟨after, hline.cons_line hc⟩

theorem exists_isLine_of_seekLine (h : seekLine offset n cs = some (start, rest)) :
    ∃ before after, IsLine cs (n + 1) before (firstLine rest) after ∧
      start = offset + byteCount before := by
  induction cs generalizing offset n with
  | nil =>
    cases n <;> cases h
  | cons c cs ih =>
    cases n with
    | zero =>
      cases h
      obtain ⟨after, hline⟩ := exists_isLine_firstLine (List.cons_ne_nil c cs)
      exact ⟨[], after, hline, rfl⟩
    | succ n =>
      rw [seekLine] at h
      obtain ⟨before, after, hline, hstart⟩ := ih h
      have hnumber := hline.number_eq
      refine ⟨c :: before, after, ?_, by rw [hstart, byteCount, Nat.add_assoc]⟩
      by_cases hc : c = '\n'
      · have hcons := hline.cons_before fun _ ↦ hc
        rwa [hc, List.count_cons_self, ← hnumber, if_pos hc, ← hc] at hcons
      · rw [if_neg hc] at hline hnumber
        have hcons := hline.cons_before (c := c) fun hnil ↦ by rw [hnil] at hnumber; cases hnumber
        rwa [List.count_cons_of_ne hc, ← hnumber] at hcons

theorem seekLine_zero (offset : Nat) (h : cs ≠ []) : seekLine offset 0 cs = some (offset, cs) := by
  cases cs with
  | nil => exact absurd rfl h
  | cons c cs => rfl

theorem ne_nil_of_le_firstLine (hcolumn : 1 ≤ column) (h : column ≤ byteCount (firstLine cs)) :
    cs ≠ [] := by
  rintro rfl
  exact absurd (hcolumn.trans h) (by decide)

/-- Advancing ends on the line where it began or on a later one, which seeking finds, and never goes
further than the end of that line. -/
theorem line_of_advance (offset : Nat) (h : p.advance cs n = q) (hcolumn : 1 ≤ q.column) :
    (q.line = p.line ∧ q.column ≤ p.column + byteCount (firstLine cs)) ∨
      ∃ k start rest, q.line = p.line + (k + 1) ∧
        seekLine offset (k + 1) cs = some (start, rest) ∧
        q.column ≤ byteCount (firstLine rest) := by
  induction cs generalizing p n offset with
  | nil =>
    subst h
    exact .inl ⟨rfl, Nat.le_add_right ..⟩
  | cons c cs ih =>
    rw [Position.advance] at h
    simp only [seekLine, firstLine_cons]
    split_ifs at h with hfits
    · have hrest := ih (offset + c.utf8Size) h
      by_cases hc : c = '\n'
      · -- The next line begins behind this character.
        simp only [if_pos hc]
        rw [Position.step, if_pos hc] at hrest
        obtain ⟨hline, hle⟩ | ⟨k, start, rest, hline, hseek, hle⟩ := hrest
        · rw [Nat.zero_add] at hle
          exact .inr ⟨0, _, cs, hline, seekLine_zero _ (ne_nil_of_le_firstLine hcolumn hle), hle⟩
        · exact .inr ⟨k + 1, start, rest, by dsimp only at hline; omega, hseek, hle⟩
      · simp only [if_neg hc]
        rw [Position.step, if_neg hc] at hrest
        refine hrest.imp_left ?_
        intro hsame
        rw [byteCount, ← Nat.add_assoc]
        exact hsame
    · subst h
      refine .inl ⟨rfl, Nat.add_le_add_left ?_ _⟩
      split_ifs with hc
      · rw [byteCount_singleton, ← hc]
        omega
      · rw [byteCount]
        omega

theorem exists_seekLine_of_advance (h : Position.start.advance cs n = p) (hcolumn : 1 ≤ p.column) :
    p.line ≠ 0 ∧ ∃ start rest, seekLine 0 (p.line - 1) cs = some (start, rest) ∧
      p.column ≤ byteCount (firstLine rest) := by
  obtain ⟨hline, hle⟩ | ⟨k, start, rest, hline, hseek, hle⟩ := line_of_advance 0 h hcolumn
  · change _ = 1 at hline
    change _ ≤ 0 + _ at hle
    rw [Nat.zero_add] at hle
    rw [hline]
    exact ⟨Nat.one_ne_zero, 0, cs, seekLine_zero 0 (ne_nil_of_le_firstLine hcolumn hle), hle⟩
  · change _ = 1 + (k + 1) at hline
    rw [hline, Nat.add_sub_cancel_left]
    exact ⟨by omega, start, rest, hseek, hle⟩

theorem columnOffset_lt (hline : line ≠ []) (hcolumn : 1 ≤ column) :
    columnOffset line column < byteCount line := by
  have hpos := byteCount_pos hline
  rw [columnOffset]
  split_ifs with hlength
  · have hsplit := congrArg byteCount (List.take_append_drop (column - 1) line)
    have hdrop := length_le_byteCount (line.drop (column - 1))
    rw [byteCount_append] at hsplit
    rw [List.length_drop] at hdrop
    omega
  · omega

theorem le_columnOffset (hle : column ≤ byteCount line) :
    column - 1 ≤ columnOffset line column := by
  rw [columnOffset]
  split_ifs with hlength
  · have htake := length_le_byteCount (line.take (column - 1))
    rw [List.length_take] at htake
    omega
  · omega

/-- Counting characters comes to the byte that the column means if no character before it has more
than one byte, or if it is the last of the line. -/
theorem columnOffset_eq_iff (hcolumn : 1 ≤ column) (hle : column ≤ byteCount line) :
    columnOffset line column = column - 1 ↔
      (∀ c ∈ line.take (column - 1), c.utf8Size = 1) ∨ column = byteCount line := by
  rw [← byteCount_eq_length_iff, List.length_take, columnOffset]
  split_ifs with hlength
  · rw [Nat.min_eq_left (by omega)]
    constructor
    · exact .inl
    · intro h
      obtain heq | heq := h
      · exact heq
      · -- The line has as many characters as bytes, and so does each beginning of it.
        have hsplit := congrArg byteCount (List.take_append_drop (column - 1) line)
        have htake := length_le_byteCount (line.take (column - 1))
        have hdrop := length_le_byteCount (line.drop (column - 1))
        rw [byteCount_append] at hsplit
        rw [List.length_take] at htake
        rw [List.length_drop] at hdrop
        omega
  · rw [List.take_of_length_le (by omega)]
    omega

@[simp]
theorem offsetOf_nil (p : Position) : offsetOf [] p = 0 := by
  rw [offsetOf]
  split_ifs
  · rfl
  · cases p.line - 1 <;> rfl

theorem offsetOf_lt (p : Position) (h : cs ≠ []) : offsetOf cs p < byteCount cs := by
  have hpos := byteCount_pos h
  rw [offsetOf]
  split_ifs with hzero
  · exact hpos
  · rw [not_or] at hzero
    cases hseek : seekLine 0 (p.line - 1) cs with
    | none => exact Nat.sub_lt hpos Nat.one_pos
    | some found =>
      obtain ⟨start, rest⟩ := found
      obtain ⟨before, after, hline, rfl⟩ := exists_isLine_of_seekLine hseek
      have hoffset := columnOffset_lt hline.ne_nil (Nat.one_le_iff_ne_zero.mpr hzero.2)
      have hsplit := congrArg byteCount hline.split
      rw [byteCount_append, byteCount_append] at hsplit
      dsimp only
      omega

end Excerpt

end Json

end StoryGraph
