import StoryGraph.Proofs.Lines

namespace StoryGraph.Json

open Text

namespace Excerpt

/-- The excerpt around an offset, found by moving both ends of the reach outward one byte at a time
and cutting the text there. There is none if a cut would fail. -/
def cut? (text : List Char) (offset : Nat) : Option Excerpt :=
  let start := floorBoundary text (offset - reach)
  let stop := ceilBoundary text (min (offset + 1 + reach) (byteCount text))
  (slice? start stop text).map fun window ↦
    ⟨String.ofList window, offset - start, min 1 (byteCount window - (offset - start))⟩

variable {text cs : List Char} {before n offset : Nat}

theorem exists_dropTo (cs : List Char) (hle : before ≤ n) :
    ∃ front rest, cs = front ++ rest ∧ dropTo n before cs = (before + byteCount front, rest) ∧
      before + byteCount front ≤ n ∧
      ∀ c, rest.head? = some c → n < before + byteCount front + c.utf8Size := by
  induction cs generalizing before with
  | nil => exact ⟨[], [], rfl, rfl, hle, nofun⟩
  | cons c cs ih =>
    rw [dropTo]
    split_ifs with hfits
    · obtain ⟨front, rest, rfl, hdrop, hfront, hnext⟩ := ih hfits
      rw [Nat.add_assoc] at hdrop hfront hnext
      exact ⟨c :: front, rest, rfl, hdrop, hfront, hnext⟩
    · refine ⟨[], c :: cs, rfl, rfl, hle, ?_⟩
      intro d hd
      cases hd
      simpa [byteCount] using hfits

theorem exists_takeTo (done cs : List Char) (n : Nat) :
    ∃ window after, cs = window ++ after ∧ takeTo done n cs = done.reverse ++ window ∧
      (n ≤ byteCount window ∨ after = []) ∧
      ∀ front c, window = front ++ [c] → byteCount front < n := by
  induction cs generalizing done n with
  | nil => exact ⟨[], [], rfl, by simp [takeTo], .inr rfl, by simp⟩
  | cons c cs ih =>
    rw [takeTo]
    split_ifs with hn
    · exact ⟨[], c :: cs, rfl, by simp, .inl (by omega), by simp⟩
    · obtain ⟨window, after, rfl, htake, hend, hlast⟩ := ih (c :: done) (n - c.utf8Size)
      refine ⟨c :: window, after, rfl, by simpa using htake, ?_, ?_⟩
      · rw [byteCount]
        exact hend.imp_left (by omega)
      · intro front d hwindow
        cases front with
        | nil => exact Nat.pos_of_ne_zero hn
        | cons e front =>
          rw [List.cons_append, List.cons.injEq] at hwindow
          have hfront := hlast front d hwindow.2
          rw [byteCount, ← hwindow.1]
          omega

/-- The text falls apart into a window around an offset and what stands before and behind it. -/
structure Frames (text : List Char) (offset : Nat) (front window after : List Char) : Prop where
  split : text = front ++ window ++ after
  start : floorBoundary text (offset - reach) = byteCount front
  stop : ceilBoundary text (min (offset + 1 + reach) (byteCount text)) = byteCount (front ++ window)
  start_le : byteCount front ≤ offset
  byteCount_le : byteCount window ≤ 2 * reach + 7
  covers : offset < byteCount text → offset < byteCount (front ++ window)

variable {front window after : List Char}

theorem ceilBoundary_window (hfront : byteCount front ≤ offset)
    (hend : offset + 1 + reach - byteCount front ≤ byteCount window ∨ after = [])
    (hlast : ∀ w c, window = w ++ [c] → byteCount w < offset + 1 + reach - byteCount front) :
    ceilBoundary (front ++ window ++ after)
      (min (offset + 1 + reach) (byteCount (front ++ window ++ after))) =
        byteCount (front ++ window) := by
  rw [byteCount_append (front ++ window) after]
  apply ceilBoundary_append
  · rw [byteCount_append]
    obtain hreached | rfl := hend
    · omega
    · exact Nat.min_le_right ..
  · intro f c hsplit
    have hpos := c.utf8Size_pos
    obtain rfl | ⟨w, d, rfl⟩ := List.eq_nil_or_concat' window
    · rw [List.append_nil] at hsplit ⊢
      rw [hsplit, byteCount_append, byteCount_singleton] at hfront ⊢
      omega
    · have hw := hlast w d rfl
      have hd := d.utf8Size_pos
      rw [← List.append_assoc] at hsplit
      rw [← (List.append_inj' hsplit rfl).1]
      simp only [byteCount_append, byteCount_singleton]
      omega

/-- On either side a window goes at most three bytes beyond the reach. -/
theorem byteCount_window_le (hfront : byteCount front ≤ offset - reach)
    (hnext : ∀ c, (window ++ after).head? = some c →
      offset - reach < byteCount front + c.utf8Size)
    (hlast : ∀ w c, window = w ++ [c] → byteCount w < offset + 1 + reach - byteCount front) :
    byteCount window ≤ 2 * reach + 7 := by
  obtain rfl | ⟨w, d, rfl⟩ := List.eq_nil_or_concat' window
  · exact Nat.zero_le _
  · have hw := hlast w d rfl
    have hd := d.utf8Size_le_four
    have hhead : ∃ c, (w ++ [d] ++ after).head? = some c := by
      cases w with
      | nil => exact ⟨d, rfl⟩
      | cons c w => exact ⟨c, rfl⟩
    obtain ⟨c, hc⟩ := hhead
    have hstart := hnext c hc
    have hsize := c.utf8Size_le_four
    rw [byteCount_append, byteCount_singleton]
    omega

theorem exists_frames_around (text : List Char) (offset : Nat) :
    ∃ front window after, Frames text offset front window after ∧
      around text offset = ⟨String.ofList window, offset - byteCount front,
        min 1 (byteCount window - (offset - byteCount front))⟩ := by
  obtain ⟨front, rest, rfl, hdrop, hfront, hnext⟩ :=
    exists_dropTo text (Nat.zero_le (offset - reach))
  rw [Nat.zero_add] at hdrop hfront hnext
  obtain ⟨window, after, rfl, htake, hend, hlast⟩ :=
    exists_takeTo [] rest (offset + 1 + reach - byteCount front)
  have hoffset : byteCount front ≤ offset := by omega
  have haround : around (front ++ (window ++ after)) offset = ⟨String.ofList window,
      offset - byteCount front, min 1 (byteCount window - (offset - byteCount front))⟩ := by
    simp only [around, hdrop, htake]
    rfl
  refine ⟨front, window, after, ⟨(List.append_assoc ..).symm, floorBoundary_append hfront hnext,
    ?_, hoffset, byteCount_window_le hfront hnext hlast, ?_⟩, haround⟩
  · rw [← List.append_assoc]
    exact ceilBoundary_window hoffset hend hlast
  · intro hlt
    rw [byteCount_append, byteCount_append] at hlt
    rw [byteCount_append]
    obtain hreached | rfl := hend
    · omega
    · simpa [byteCount] using hlt

theorem cut?_eq (text : List Char) (offset : Nat) :
    cut? text offset = some (around text offset) := by
  obtain ⟨front, window, after, hframes, haround⟩ := exists_frames_around text offset
  rw [cut?, hframes.start, hframes.stop, haround, hframes.split, slice?_eq_some]
  rfl

end Excerpt

open Excerpt

variable {e : SyntaxError} {text : String}

def SyntaxError.offsetIn (e : SyntaxError) (text : String) : Nat := offsetOf text.toList e.position

theorem SyntaxError.offsetIn_lt (e : SyntaxError) (h : text ≠ "") :
    e.offsetIn text < byteCount text.toList :=
  offsetOf_lt e.position (by simpa using h)

theorem exists_frames_excerpt (e : SyntaxError) (text : String) :
    ∃ front window after, Frames text.toList (e.offsetIn text) front window after ∧
      (e.excerpt text).window.toList = window ∧
      (e.excerpt text).offset = e.offsetIn text - byteCount front ∧
      (e.excerpt text).length =
        min 1 (byteCount window - (e.offsetIn text - byteCount front)) := by
  obtain ⟨front, window, after, hframes, haround⟩ :=
    exists_frames_around text.toList (e.offsetIn text)
  have hexcerpt : e.excerpt text = _ := haround
  rw [hexcerpt]
  exact ⟨front, window, after, hframes, String.toList_ofList, rfl, rfl⟩

theorem excerpt_empty (e : SyntaxError) : e.excerpt "" = ⟨"", 0, 0⟩ := by
  rw [SyntaxError.excerpt, String.toList_empty, offsetOf_nil]
  rfl

/-- The span of an excerpt begins in its window, at the byte of the text that was looked up. -/
theorem span_excerpt (htext : text ≠ "") :
    (e.excerpt text).length = 1 ∧
      (e.excerpt text).offset < (bytes (e.excerpt text).window).length ∧
      (bytes (e.excerpt text).window)[(e.excerpt text).offset]? =
        (bytes text)[e.offsetIn text]? := by
  obtain ⟨front, window, after, hframes, rfl, hoffset, hlength⟩ := exists_frames_excerpt e text
  have hcovers := hframes.covers (e.offsetIn_lt htext)
  have hstart := hframes.start_le
  rw [byteCount_append] at hcovers
  have hinside : (e.excerpt text).offset < byteCount (e.excerpt text).window.toList := by omega
  have hplace : byteCount front + (e.excerpt text).offset = e.offsetIn text := by omega
  refine ⟨by omega, by rwa [length_bytes], ?_⟩
  rw [← hplace, bytes_eq_encode, bytes_eq_encode, hframes.split, getElem?_encode_between hinside]

/-- Whatever position an error names, its excerpt can be cut out of the text. The window is a piece
of the text with whole characters and at most 327 bytes, and the span lies in it. The span is one
byte long and begins at the byte that the position was looked up as; only an empty text has neither
window nor span. -/
theorem excerpt_safe (e : SyntaxError) (text : String) :
    cut? text.toList (e.offsetIn text) = some (e.excerpt text) ∧
      ∃ front after, text.toList = front ++ (e.excerpt text).window.toList ++ after ∧
        byteCount front + (e.excerpt text).offset = e.offsetIn text ∧
        (bytes (e.excerpt text).window).length ≤ 327 ∧
        (e.excerpt text).offset + (e.excerpt text).length ≤
          (bytes (e.excerpt text).window).length ∧
        ((text = "" ∧ e.excerpt text = ⟨"", 0, 0⟩) ∨
          (text ≠ "" ∧ (e.excerpt text).length = 1 ∧
            ∃ byte, (bytes (e.excerpt text).window)[(e.excerpt text).offset]? = some byte ∧
              (bytes text)[e.offsetIn text]? = some byte)) := by
  refine ⟨cut?_eq .., ?_⟩
  obtain ⟨front, window, after, hframes, rfl, hoffset, _⟩ := exists_frames_excerpt e text
  have hstart := hframes.start_le
  refine ⟨front, after, hframes.split, by omega, ?_, ?_, ?_⟩
  · rw [length_bytes]
    exact hframes.byteCount_le
  · by_cases htext : text = ""
    · rw [htext, excerpt_empty]
      exact Nat.zero_le _
    · obtain ⟨hlength, hinside, _⟩ := span_excerpt (e := e) htext
      omega
  · by_cases htext : text = ""
    · rw [htext]
      exact .inl ⟨rfl, excerpt_empty e⟩
    · obtain ⟨hlength, hinside, hbyte⟩ := span_excerpt (e := e) htext
      have hwindow := List.getElem?_eq_getElem hinside
      exact .inr ⟨htext, hlength, _, hwindow, hbyte ▸ hwindow⟩

end StoryGraph.Json
