import Mathlib.Data.List.Basic
import StoryGraph.Proofs.ByteOrder
import StoryGraph.Text.Bytes

namespace StoryGraph.Text

def encode (cs : List Char) : List UInt8 := cs.flatMap String.utf8EncodeChar

/-- The characters before and behind an offset, unless it lies inside a character or outside the
text. -/
def splitAt? : Nat → List Char → Option (List Char × List Char)
  | 0, cs => some ([], cs)
  | _ + 1, [] => none
  | n + 1, c :: cs =>
    if c.utf8Size ≤ n + 1 then
      (splitAt? (n + 1 - c.utf8Size) cs).map fun (before, after) ↦ (c :: before, after)
    else none

def isBoundary (cs : List Char) (n : Nat) : Bool := (splitAt? n cs).isSome

def slice? (start stop : Nat) (cs : List Char) : Option (List Char) :=
  if start ≤ stop then
    (splitAt? start cs).bind fun (_, rest) ↦ (splitAt? (stop - start) rest).map Prod.fst
  else none

def floorBoundary (cs : List Char) : Nat → Nat
  | 0 => 0
  | n + 1 => if isBoundary cs (n + 1) then n + 1 else floorBoundary cs n

def ceilBoundary (cs : List Char) (n : Nat) : Nat :=
  if n < byteCount cs ∧ ¬ isBoundary cs n then ceilBoundary cs (n + 1) else n
termination_by byteCount cs - n

variable {cs before after window : List Char} {c : Char} {n k : Nat}

@[simp]
theorem byteCount_append (cs ds : List Char) :
    byteCount (cs ++ ds) = byteCount cs + byteCount ds := by
  induction cs with
  | nil => simp [byteCount]
  | cons c cs ih => simp [byteCount, ih, Nat.add_assoc]

@[simp]
theorem byteCount_singleton (c : Char) : byteCount [c] = c.utf8Size := rfl

theorem length_le_byteCount (cs : List Char) : cs.length ≤ byteCount cs := by
  induction cs with
  | nil => exact Nat.zero_le _
  | cons c cs ih =>
    have hpos := c.utf8Size_pos
    rw [List.length_cons, byteCount]
    omega

theorem byteCount_pos (h : cs ≠ []) : 0 < byteCount cs :=
  (List.length_pos_iff.mpr h).trans_le (length_le_byteCount cs)

theorem byteCount_eq_zero_iff : byteCount cs = 0 ↔ cs = [] := by
  constructor
  · contrapose!
    exact fun h ↦ (byteCount_pos h).ne'
  · rintro rfl
    rfl

theorem byteCount_eq_length_iff : byteCount cs = cs.length ↔ ∀ c ∈ cs, c.utf8Size = 1 := by
  induction cs with
  | nil => simp [byteCount]
  | cons c cs ih =>
    have hpos := c.utf8Size_pos
    have hlength := length_le_byteCount cs
    rw [List.forall_mem_cons, ← ih, byteCount, List.length_cons]
    omega

theorem encode_append (cs ds : List Char) : encode (cs ++ ds) = encode cs ++ encode ds :=
  List.flatMap_append

theorem length_encode (cs : List Char) : (encode cs).length = byteCount cs := by
  induction cs with
  | nil => rfl
  | cons c cs ih =>
    change (String.utf8EncodeChar c ++ encode cs).length = _
    rw [List.length_append, String.length_utf8EncodeChar, ih, byteCount]

theorem bytes_eq_encode (text : String) : bytes text = encode text.toList := bytes_eq_flatMap text

theorem length_bytes (text : String) : (bytes text).length = byteCount text.toList := by
  rw [bytes_eq_encode, length_encode]

theorem getElem?_encode_between (h : n < byteCount window) :
    (encode (before ++ window ++ after))[byteCount before + n]? = (encode window)[n]? := by
  rw [← length_encode] at h
  rw [encode_append, encode_append, List.append_assoc, ← length_encode,
    List.getElem?_append_right (by omega), Nat.add_sub_cancel_left, List.getElem?_append_left h]

theorem splitAt?_eq_some_iff :
    splitAt? n cs = some (before, after) ↔ cs = before ++ after ∧ byteCount before = n := by
  induction cs generalizing n before after with
  | nil =>
    cases n with
    | zero => cases before <;> simp [splitAt?, byteCount, eq_comm]
    | succ n => cases before <;> simp [splitAt?, byteCount]
  | cons c cs ih =>
    have hpos := c.utf8Size_pos
    cases n with
    | zero =>
      rw [splitAt?, Option.some.injEq, Prod.mk.injEq, byteCount_eq_zero_iff]
      cases before <;> simp
    | succ n =>
      rw [splitAt?]
      cases before with
      | nil => split_ifs <;> simp [byteCount]
      | cons d before =>
        rw [byteCount]
        split_ifs with hsize
        · simp only [Option.map_eq_some_iff, Prod.exists, ih, Prod.mk.injEq, List.cons.injEq,
            List.cons_append]
          constructor
          · intro h
            obtain ⟨_, _, ⟨rfl, hcount⟩, ⟨rfl, rfl⟩, rfl⟩ := h
            exact ⟨⟨rfl, rfl⟩, by omega⟩
          · intro h
            obtain ⟨⟨rfl, rfl⟩, hcount⟩ := h
            exact ⟨before, after, ⟨rfl, by omega⟩, ⟨rfl, rfl⟩, rfl⟩
        · refine iff_of_false nofun ?_
          intro h
          obtain ⟨hsplit, hcount⟩ := h
          rw [(List.cons.inj hsplit).1] at hsize
          omega

theorem isBoundary_iff :
    isBoundary cs n = true ↔ ∃ before after, cs = before ++ after ∧ byteCount before = n := by
  simp only [isBoundary, Option.isSome_iff_exists, Prod.exists, splitAt?_eq_some_iff]

theorem isBoundary_byteCount (before after : List Char) :
    isBoundary (before ++ after) (byteCount before) = true :=
  isBoundary_iff.mpr ⟨before, after, rfl, rfl⟩

/-- No boundary lies between the first and the last byte of a character. -/
theorem isBoundary_inside (hlt : byteCount before < n) (hgt : n < byteCount before + c.utf8Size) :
    isBoundary (before ++ c :: after) n = false := by
  rw [Bool.eq_false_iff, ne_eq, isBoundary_iff]
  intro h
  obtain ⟨front, back, hsplit, rfl⟩ := h
  -- One of the two beginnings of the text goes on as the other one does.
  obtain ⟨more, rfl, hmore⟩ | ⟨more, rfl, _⟩ := List.append_eq_append_iff.mp hsplit
  · cases more with
    | nil => simp at hlt
    | cons d more =>
      rw [(List.cons.inj hmore).1, byteCount_append, byteCount] at hgt
      omega
  · rw [byteCount_append] at hlt
    omega

theorem isBoundary_outside (h : byteCount cs < n) : isBoundary cs n = false := by
  rw [Bool.eq_false_iff, ne_eq, isBoundary_iff]
  intro hboundary
  obtain ⟨front, back, rfl, rfl⟩ := hboundary
  rw [byteCount_append] at h
  omega

theorem slice?_eq_some (before window after : List Char) :
    slice? (byteCount before) (byteCount (before ++ window)) (before ++ window ++ after) =
      some window := by
  have hfirst : splitAt? (byteCount before) (before ++ window ++ after) =
      some (before, window ++ after) := splitAt?_eq_some_iff.mpr ⟨List.append_assoc .., rfl⟩
  have hsecond : splitAt? (byteCount window) (window ++ after) = some (window, after) :=
    splitAt?_eq_some_iff.mpr ⟨rfl, rfl⟩
  rw [slice?, byteCount_append, if_pos (Nat.le_add_right ..), hfirst, Option.bind_some,
    Nat.add_sub_cancel_left]
  exact congrArg (Option.map Prod.fst) hsecond

theorem floorBoundary_eq (hle : k ≤ n) (hboundary : isBoundary cs k = true)
    (hbetween : ∀ m, k < m → m ≤ n → isBoundary cs m = false) : floorBoundary cs n = k := by
  induction n with
  | zero => exact (Nat.le_zero.mp hle).symm
  | succ n ih =>
    rw [floorBoundary]
    obtain rfl | hlt := Nat.eq_or_lt_of_le hle
    · rw [if_pos hboundary]
    · rw [hbetween (n + 1) hlt le_rfl]
      exact ih (by omega) (fun m hm hmn ↦ hbetween m hm (by omega))

theorem ceilBoundary_eq (hle : n ≤ k) (hboundary : isBoundary cs k = true)
    (hbetween : ∀ m, n ≤ m → m < k → isBoundary cs m = false) : ceilBoundary cs n = k := by
  induction hle using Nat.decreasingInduction with
  | self =>
    rw [ceilBoundary, if_neg]
    intro h
    exact h.2 hboundary
  | of_succ n hlt ih =>
    have hend : k ≤ byteCount cs := by
      by_contra hgt
      rw [isBoundary_outside (by omega)] at hboundary
      cases hboundary
    have hinside : ¬ isBoundary cs n := by simp [hbetween n le_rfl hlt]
    rw [ceilBoundary, if_pos ⟨by omega, hinside⟩]
    exact ih (fun m hm hmk ↦ hbetween m (by omega) hmk)

/-- The boundary below an offset inside a character is where that character begins. -/
theorem floorBoundary_append (hle : byteCount before ≤ n)
    (hnext : ∀ c, after.head? = some c → n < byteCount before + c.utf8Size) :
    floorBoundary (before ++ after) n = byteCount before := by
  apply floorBoundary_eq hle (isBoundary_byteCount before after)
  intro m hgt hm
  cases after with
  | nil => exact isBoundary_outside (by simpa using hgt)
  | cons c after =>
    have hend := hnext c rfl
    exact isBoundary_inside hgt (by omega)

/-- The boundary above an offset inside a character is where that character ends. -/
theorem ceilBoundary_append (hle : n ≤ byteCount before)
    (hlast : ∀ front c, before = front ++ [c] → byteCount front < n) :
    ceilBoundary (before ++ after) n = byteCount before := by
  apply ceilBoundary_eq hle (isBoundary_byteCount before after)
  intro m hge hm
  obtain rfl | ⟨front, c, rfl⟩ := List.eq_nil_or_concat' before
  · cases hm
  · have hstart := hlast front c rfl
    rw [byteCount_append, byteCount_singleton] at hm
    rw [List.append_assoc, List.singleton_append]
    exact isBoundary_inside (by omega) hm

end StoryGraph.Text
