import StoryGraph.Draft.Reading
import StoryGraph.Proofs.Windows

namespace StoryGraph

namespace Json

open Text Excerpt

variable {e : SyntaxError} {text : String}

/-- The span of an excerpt begins at a byte of a line: there it lies, counted from the place where
the window was cut out of the text, and the window shows this byte. -/
structure SyntaxError.PointsInto (e : SyntaxError) (text : String) (before line : List Char)
    (n : Nat) : Prop where
  place : floorBoundary text.toList (e.offsetIn text - reach) + (e.excerpt text).offset =
    byteCount before + n
  byte : (bytes (e.excerpt text).window)[(e.excerpt text).offset]? = (encode line)[n]?

theorem exists_advance_of_parse (h : parse text = .error e) :
    ∃ n, Position.start.advance text.toList n = e.position := by
  rw [parse, parseAs] at h
  split at h
  · cases h
  · cases h
    exact ⟨_, rfl⟩

theorem floorBoundary_add_offset (e : SyntaxError) (text : String) :
    floorBoundary text.toList (e.offsetIn text - reach) + (e.excerpt text).offset =
      e.offsetIn text := by
  obtain ⟨front, window, after, hframes, _, hoffset, _⟩ := exists_frames_excerpt e text
  have hstart := hframes.start_le
  rw [hframes.start, hoffset]
  omega

theorem offsetIn_eq {start : Nat} {rest : List Char} (hline : e.position.line ≠ 0)
    (hcolumn : 1 ≤ e.position.column)
    (hseek : seekLine 0 (e.position.line - 1) text.toList = some (start, rest)) :
    e.offsetIn text = start + columnOffset (firstLine rest) e.position.column := by
  have hfound : ¬ (e.position.line = 0 ∨ e.position.column = 0) := by omega
  rw [SyntaxError.offsetIn, offsetOf, if_neg hfound, hseek]

end Json

namespace Draft

open Text Json

variable {text : String} {e : SyntaxError}

/-- A document that is no JSON is refused with an excerpt. Its span begins on the line of the error,
not before the byte that the column means. It begins at that byte exactly when no character before
it on the line has more than one byte or it is the last byte of the line. -/
theorem read_points_iff (limits : Limits) (hsize : text.utf8ByteSize ≤ limits.maxScriptBytes)
    (hparse : parse text = .error e) (hcolumn : 1 ≤ e.position.column) :
    read limits text = .error (.malformed e (e.excerpt text)) ∧
      ∃ before line after n, IsLine text.toList e.position.line before line after ∧
        e.position.column ≤ byteCount line ∧ e.PointsInto text before line n ∧
        e.position.column - 1 ≤ n ∧ n < byteCount line ∧
        (n = e.position.column - 1 ↔
          (∀ c ∈ line.take (e.position.column - 1), c.utf8Size = 1) ∨
            e.position.column = byteCount line) := by
  obtain ⟨_, hadvance⟩ := exists_advance_of_parse hparse
  obtain ⟨hline, start, rest, hseek, hle⟩ := Excerpt.exists_seekLine_of_advance hadvance hcolumn
  have hoffset := offsetIn_eq hline hcolumn hseek
  obtain ⟨before, after, hisLine, rfl⟩ := Excerpt.exists_isLine_of_seekLine hseek
  rw [Nat.zero_add] at hoffset
  rw [Nat.sub_add_cancel (Nat.one_le_iff_ne_zero.mpr hline)] at hisLine
  have hlt := Excerpt.columnOffset_lt hisLine.ne_nil hcolumn
  have htext : text ≠ "" := by
    rintro rfl
    have hnil := (List.append_eq_nil_iff.mp hisLine.split.symm).1
    exact hisLine.ne_nil (List.append_eq_nil_iff.mp hnil).2
  refine ⟨?_, before, _, after, _, hisLine, hle, ⟨?_, ?_⟩, Excerpt.le_columnOffset hle, hlt,
    Excerpt.columnOffset_eq_iff hcolumn hle⟩
  · rw [read, if_neg (Nat.not_lt.mpr hsize), hparse]
  · rw [floorBoundary_add_offset, hoffset]
  · rw [(span_excerpt htext).2.2, hoffset, bytes_eq_encode, hisLine.split,
      getElem?_encode_between hlt]

theorem read_points_secondLine :
    parse "[\"é\",\n  ]" = .error ⟨.trailingComma, ⟨2, 3⟩⟩ ∧
      SyntaxError.PointsInto ⟨.trailingComma, ⟨2, 3⟩⟩ "[\"é\",\n  ]" "[\"é\",\n".toList
        "  ]".toList 2 := by
  have hparse : parse "[\"é\",\n  ]" = .error ⟨.trailingComma, ⟨2, 3⟩⟩ := rfl
  have hline : IsLine "[\"é\",\n  ]".toList 2 "[\"é\",\n".toList "  ]".toList [] :=
    ⟨by decide, by decide, .inr (by decide), by decide, .inl rfl, by decide⟩
  obtain ⟨_, before, line, after, n, hline', _, hpoints, _, _, hiff⟩ :=
    read_points_iff {} (by decide) hparse (by decide)
  obtain ⟨rfl, rfl, rfl⟩ := hline.unique hline'
  have hblank : ∀ c ∈ "  ]".toList.take 2, c.utf8Size = 1 := by
    intro c (hc : c ∈ List.replicate 2 ' ')
    rw [List.eq_of_mem_replicate hc]
    rfl
  rw [hiff.mpr (.inl hblank)] at hpoints
  exact ⟨hparse, hpoints⟩

/-- A character of two bytes stands before the refused one, and the span begins one byte late. -/
theorem read_points_late :
    read {} "[\"é\",x]" = .error (.malformed ⟨.expectedValue, ⟨1, 7⟩⟩ ⟨"[\"é\",x]", 7, 1⟩) ∧
      (bytes "[\"é\",x]")[7]? = some 0x5D ∧ (bytes "[\"é\",x]")[6]? = some 0x78 := by
  decide +kernel

end Draft

end StoryGraph
