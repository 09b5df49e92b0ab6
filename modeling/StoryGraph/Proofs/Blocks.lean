import StoryGraph.Proofs.Scalars

namespace StoryGraph.Yaml

open Numeric

variable {cs rest : List Char} {c : Char} {name : String} {column fuel indent : Nat} {value : Json}
  {xs : List Json} {member : String × Json} {ms : List (String × Json)}

def isNameChar (c : Char) : Bool := ('a' ≤ c && c ≤ 'z') || c == '_'

def readName? (cs : List Char) : Option (String × List Char) :=
  match cs.span isNameChar with
  | (name, ':' :: rest) =>
    if name ≠ [] ∧ isAmbiguous (.ofList name) = false ∧ endsWord rest = true then
      some (.ofList name, rest)
    else none
  | _ => none

mutual

def readBlock (column : Nat) : Nat → List Char → Option (Json × List Char)
  | 0, _ => none
  | fuel + 1, '-' :: ' ' :: cs => do
    let (item, cs) ← readBlock (column + 2) fuel cs
    let (items, cs) ← readItems column fuel cs
    return (.array (item :: items), cs)
  | fuel + 1, cs =>
    match readName? cs with
    | some (name, cs) => do
      let (value, cs) ← readField column fuel cs
      let (members, cs) ← readFields column fuel cs
      return (.object ((name, value) :: members), cs)
    | none => readInline? column cs
termination_by structural fuel => fuel

def readField (column : Nat) : Nat → List Char → Option (Json × List Char)
  | 0, _ => none
  | fuel + 1, '\n' :: cs =>
    if spaces column ++ ['-', ' '] <+: cs then readBlock column fuel (cs.drop column)
    else if spaces (column + 2) <+: cs then readBlock (column + 2) fuel (cs.drop (column + 2))
    else none
  | _ + 1, ' ' :: cs => readInline? (column + 2) cs
  | _ + 1, _ => none
termination_by structural fuel => fuel

def readItems (column : Nat) : Nat → List Char → Option (List Json × List Char)
  | 0, cs => some ([], cs)
  | fuel + 1, cs =>
    match (spaces column ++ ['-', ' ']).isPrefixOf? cs with
    | some cs => do
      let (item, cs) ← readBlock (column + 2) fuel cs
      let (items, cs) ← readItems column fuel cs
      return (item :: items, cs)
    | none => some ([], cs)
termination_by structural fuel => fuel

def readFields (column : Nat) : Nat → List Char → Option (List (String × Json) × List Char)
  | 0, cs => some ([], cs)
  | fuel + 1, cs =>
    match ((spaces column).isPrefixOf? cs).bind readName? with
    | some (name, cs) => do
      let (value, cs) ← readField column fuel cs
      let (members, cs) ← readFields column fuel cs
      return ((name, value) :: members, cs)
    | none => some ([], cs)
termination_by structural fuel => fuel

end

/-- The value of a text in the block layout. A round takes a character or more, so there is fuel for
every text. -/
def read? (text : String) : Option Json :=
  match readBlock 0 text.length text.toList with
  | some (value, []) => some value
  | _ => none

def IsName (name : String) : Prop :=
  styleOf name = .plain ∧ name.toList ≠ [] ∧ ∀ c ∈ name.toList, isNameChar c = true

instance (name : String) : Decidable (IsName name) :=
  have : Decidable (∀ c ∈ name.toList, isNameChar c = true) := List.decidableBAll _ name.toList
  inferInstanceAs (Decidable (_ ∧ _))

theorem IsName.scalar_eq (h : IsName name) (indent : Nat) : scalar indent name = name.toList := by
  rw [scalar, h.1]

theorem IsName.isAmbiguous_eq (h : IsName name) : isAmbiguous name = false := by
  cases hambiguous : isAmbiguous name with
  | false => rfl
  | true =>
    have hstyle := h.1
    rw [styleOf, hambiguous] at hstyle
    cases hstyle

theorem IsName.readName?_eq (h : IsName name) (hrest : endsWord rest = true) :
    readName? (name.toList ++ ':' :: rest) = some (name, rest) := by
  have hcolon : isNameChar ':' = false := rfl
  have hspan : (name.toList ++ ':' :: rest).span isNameChar = (name.toList, ':' :: rest) := by
    rw [List.span_eq_takeWhile_dropWhile, List.takeWhile_append_of_pos h.2.2,
      List.dropWhile_append_of_pos h.2.2]
    simp [hcolon]
  have hname : name.toList ≠ [] ∧ isAmbiguous name = false ∧ endsWord rest = true :=
    ⟨h.2.1, h.isAmbiguous_eq, hrest⟩
  rw [readName?, hspan]
  simp only [String.ofList_toList, if_pos hname]

theorem isBreak_of_isNameChar (h : isNameChar c = true) : isBreak c = false := by
  refine isBreak_of_isVisible ?_
  rcases Bool.or_eq_true_iff.mp h with hletter | hline
  · exact isVisible_of_mem_range (by decide) (by decide) hletter
  · rw [beq_iff_eq.mp hline]
    rfl

theorem IsName.exists_cons (h : IsName name) :
    ∃ c cs, name.toList = c :: cs ∧ isNameChar c = true := by
  obtain ⟨c, cs, hname⟩ := List.exists_cons_of_ne_nil h.2.1
  exact ⟨c, cs, hname, h.2.2 c (hname ▸ List.mem_cons_self)⟩

/-- Names are letters, numbers are naturals of 64 bits. -/
inductive Writable : Json → Prop
  | null : Writable .null
  | bool (b : Bool) : Writable (.bool b)
  | nat {n : Nat} (h : n ≤ greatestWord) : Writable (.nat n)
  | string (s : String) : Writable (.string s)
  | array {items : List Json} (h : ∀ item ∈ items, Writable item) : Writable (.array items)
  | object {members : List (String × Json)} (hnames : ∀ member ∈ members, IsName member.1)
      (h : ∀ member ∈ members, Writable member.2) : Writable (.object members)

/-- The rest of a document goes on neither with the value of a name at the column nor with an item
of a list there. -/
structure EndsField (column : Nat) (rest : List Char) : Prop where
  below : Below (column + 1) rest
  noItem : ¬ spaces column ++ ['-', ' '] <+: rest

theorem Below.mono {k : Nat} (h : Below column rest) (hk : column ≤ k) : Below k rest := by
  cases h with
  | done => exact .done
  | line hn hspace hbreak => exact .line (hn.trans_le hk) hspace hbreak

theorem Below.endsField (h : Below column rest) : EndsField column rest where
  below := h.mono (Nat.le_succ column)
  noItem := by
    intro hstart
    cases h with
    | done => simpa using List.prefix_nil.mp hstart
    | line hn hspace hbreak =>
      exact (Below.line hn hspace hbreak).not_spaces (Nat.zero_lt_of_lt hn)
        ((List.prefix_append _ _).trans hstart)

structure ReadsBack (value : Json) : Prop where
  asBlock : ∀ column fuel rest, 0 < column → (block column value).length ≤ fuel →
    Below column rest → readBlock column fuel (block column value ++ rest) = some (value, rest)
  asField : ∀ column fuel rest, (fieldValue column value).length ≤ fuel → EndsField column rest →
    readField column fuel (fieldValue column value ++ rest) = some (value, rest)

theorem below_items (h : EndsField column rest) (xs : List Json) :
    Below (column + 2) (items column xs ++ rest) := by
  cases xs with
  | nil => exact h.below.mono (Nat.le_succ _)
  | cons x xs =>
    rw [items, List.append_assoc]
    exact .line (by omega) rfl rfl

theorem readItems_items (h : ∀ x ∈ xs, ReadsBack x) (hfuel : (items column xs).length ≤ fuel)
    (hrest : EndsField column rest) :
    readItems column fuel (items column xs ++ rest) = some (xs, rest) := by
  induction xs generalizing fuel with
  | nil =>
    cases fuel with
    | zero => rfl
    | succ fuel =>
      have hnone : (spaces column ++ ['-', ' ']).isPrefixOf? rest = none := by
        cases hread : (spaces column ++ ['-', ' ']).isPrefixOf? rest with
        | none => rfl
        | some cs => exact absurd ⟨cs, List.isPrefixOf?_eq_some_iff_append_eq.mp hread⟩ hrest.noItem
      simp only [items, List.nil_append, readItems, hnone]
  | cons x xs ih =>
    have hlength : (items column (x :: xs)).length =
        column + (2 + (block (column + 2) x).length + (items column xs).length) := by
      simp [items, spaces]
      omega
    cases fuel with
    | zero => omega
    | succ fuel =>
      have hstart : (spaces column ++ ['-', ' ']).isPrefixOf? (items column (x :: xs) ++ rest) =
          some (block (column + 2) x ++ (items column xs ++ rest)) :=
        List.isPrefixOf?_eq_some_iff_append_eq.mpr (by simp [items])
      have hitem := (h x List.mem_cons_self).asBlock (column + 2) fuel (items column xs ++ rest)
        (by omega) (by omega) (below_items hrest xs)
      have hitems := ih (fun y hy ↦ h y (.tail x hy)) (show _ ≤ fuel by omega)
      simp only [readItems, hstart, hitem, hitems, Option.bind_eq_bind, Option.bind_some,
        Option.pure_def]

theorem readBlock_array {x : Json} (h : ∀ y ∈ x :: xs, ReadsBack y)
    (hfuel : (block column (.array (x :: xs))).length ≤ fuel) (hrest : EndsField column rest) :
    readBlock column fuel (block column (.array (x :: xs)) ++ rest) =
      some (.array (x :: xs), rest) := by
  have hlength : (block column (.array (x :: xs))).length =
      2 + (block (column + 2) x).length + (items column xs).length := by
    simp [block]
    omega
  cases fuel with
  | zero => omega
  | succ fuel =>
    have hitem := (h x List.mem_cons_self).asBlock (column + 2) fuel (items column xs ++ rest)
      (by omega) (by omega) (below_items hrest xs)
    have hitems := readItems_items (fun y hy ↦ h y (.tail x hy)) (show _ ≤ fuel by omega) hrest
    simp only [block, List.cons_append, List.append_assoc, readBlock, hitem, hitems,
      Option.bind_eq_bind, Option.bind_some, Option.pure_def]

theorem endsWord_fieldValue (column : Nat) (value : Json) (rest : List Char) :
    endsWord (fieldValue column value ++ rest) = true := by
  cases value with
  | array items => cases items <;> rfl
  | object members => cases members <;> rfl
  | _ => rfl

theorem endsField_fields (h : Below column rest) (hnames : ∀ member ∈ ms, IsName member.1) :
    EndsField column (fields column ms ++ rest) := by
  cases ms with
  | nil => exact h.endsField
  | cons member ms =>
    have hname := hnames member List.mem_cons_self
    obtain ⟨name, value⟩ := member
    obtain ⟨c, cs, hcons, hc⟩ := hname.exists_cons
    rw [fields, field, hname.scalar_eq, hcons]
    have hspace : isSpace c = false := by
      refine beq_eq_false_iff_ne.mpr ?_
      rintro rfl
      cases hc
    simp only [List.append_assoc, List.cons_append]
    refine ⟨.line (Nat.lt_succ_self column) hspace (isBreak_of_isNameChar hc), ?_⟩
    intro hstart
    obtain ⟨rfl, _⟩ := List.cons_prefix_cons.mp ((List.prefix_append_right_inj _).mp hstart)
    cases hc

theorem readName?_field (column : Nat) (hname : IsName name) (value : Json) (rest : List Char) :
    readName? (field column (name, value) ++ rest) =
      some (name, fieldValue column value ++ rest) := by
  rw [field, hname.scalar_eq, List.append_assoc]
  exact hname.readName?_eq (endsWord_fieldValue column value rest)

theorem readFields_fields (hnames : ∀ member ∈ ms, IsName member.1)
    (h : ∀ member ∈ ms, ReadsBack member.2) (hfuel : (fields column ms).length ≤ fuel)
    (hrest : Below column rest) :
    readFields column fuel (fields column ms ++ rest) = some (ms, rest) := by
  induction ms generalizing fuel with
  | nil =>
    cases fuel with
    | zero => rfl
    | succ fuel =>
      have hnone : ((spaces column).isPrefixOf? rest).bind readName? = none := by
        cases hread : (spaces column).isPrefixOf? rest with
        | none => rfl
        | some cs =>
          have hstart := List.isPrefixOf?_eq_some_iff_append_eq.mp hread
          cases hrest with
          | done =>
            rw [(List.append_eq_nil_iff.mp hstart).2]
            rfl
          | line hn hspace hbreak =>
            exact absurd ⟨cs, hstart⟩
              ((Below.line hn hspace hbreak).not_spaces (Nat.zero_lt_of_lt hn))
      simp only [fields, List.nil_append, readFields, hnone]
  | cons member ms ih =>
    obtain ⟨name, value⟩ := member
    have hname : IsName name := hnames _ List.mem_cons_self
    have hlength : (fields column ((name, value) :: ms)).length = column + name.toList.length + 1 +
        (fieldValue column value).length + (fields column ms).length := by
      simp [fields, field, spaces, hname.scalar_eq]
      omega
    cases fuel with
    | zero => omega
    | succ fuel =>
      have hstart : (spaces column).isPrefixOf? (fields column ((name, value) :: ms) ++ rest) =
          some (field column (name, value) ++ (fields column ms ++ rest)) :=
        List.isPrefixOf?_eq_some_iff_append_eq.mpr (by simp [fields])
      have hback : ReadsBack value := h _ List.mem_cons_self
      have hvalue := hback.asField column fuel (fields column ms ++ rest) (by omega)
        (endsField_fields hrest fun m hm ↦ hnames m (.tail _ hm))
      have hmembers := ih (fun m hm ↦ hnames m (.tail _ hm)) (fun m hm ↦ h m (.tail _ hm))
        (show _ ≤ fuel by omega)
      simp only [readFields, hstart, Option.bind_some, readName?_field column hname, hvalue,
        hmembers, Option.bind_eq_bind, Option.pure_def]

theorem readBlock_of_readName? (h : readName? cs = some (name, rest)) :
    readBlock column (fuel + 1) cs = do
      let (value, rest) ← readField column fuel rest
      let (members, rest) ← readFields column fuel rest
      return (.object ((name, value) :: members), rest) := by
  unfold readBlock
  split
  case h_1 heq => cases heq
  case h_2 => cases h
  case h_3 heq _ =>
    cases heq
    simp only [h]

theorem readBlock_object (hnames : ∀ m ∈ member :: ms, IsName m.1)
    (h : ∀ m ∈ member :: ms, ReadsBack m.2)
    (hfuel : (block column (.object (member :: ms))).length ≤ fuel) (hrest : Below column rest) :
    readBlock column fuel (block column (.object (member :: ms)) ++ rest) =
      some (.object (member :: ms), rest) := by
  obtain ⟨name, value⟩ := member
  have hname : IsName name := hnames _ List.mem_cons_self
  have hlength : (block column (.object ((name, value) :: ms))).length = name.toList.length + 1 +
      (fieldValue column value).length + (fields column ms).length := by
    simp [block, field, hname.scalar_eq]
    omega
  cases fuel with
  | zero => omega
  | succ fuel =>
    have hback : ReadsBack value := h _ List.mem_cons_self
    have hvalue := hback.asField column fuel (fields column ms ++ rest) (by omega)
      (endsField_fields hrest fun m hm ↦ hnames m (.tail _ hm))
    have hmembers := readFields_fields (fun m hm ↦ hnames m (.tail _ hm))
      (fun m hm ↦ h m (.tail _ hm)) (show _ ≤ fuel by omega) hrest
    have hread := readName?_field column hname value (fields column ms ++ rest)
    rw [block, List.append_assoc, readBlock_of_readName? hread]
    simp only [hvalue, hmembers, Option.bind_eq_bind, Option.bind_some, Option.pure_def]

theorem not_standsPlain_dash (cs : List Char) : ¬ StandsPlain ('-' :: ' ' :: cs) := by
  rintro ⟨_, _, _, hmark, _⟩
  exact (hmark '-' (by decide)).2 (List.prefix_append ['-', ' '] cs)

theorem readPlain?_eq_none (h : ¬ StandsPlain (cs.takeWhile fun c ↦ !isBreak c)) :
    readPlain? cs = none := by
  rw [readPlain?, List.span_eq_takeWhile_dropWhile]
  dsimp only
  split
  · exact if_neg h
  · rfl

theorem readInline?_dash (indent : Nat) (cs : List Char) :
    readInline? indent ('-' :: ' ' :: cs) = none := by
  change readPlain? ('-' :: ' ' :: cs) = none
  exact readPlain?_eq_none (not_standsPlain_dash _)

theorem not_standsPlain_colon (before : List Char) (h : endsWord rest = true) :
    ¬ StandsPlain (before ++ ':' :: rest.takeWhile fun c ↦ !isBreak c) := by
  rintro ⟨hallowed, _, _, _, hcolon, _, hlast, _⟩
  cases rest with
  | nil => exact hlast (by simp)
  | cons c cs =>
    cases hbreak : isBreak c with
    | true => exact hlast (by simp [hbreak])
    | false =>
      have htake : (c :: cs).takeWhile (fun c ↦ !isBreak c) =
          c :: cs.takeWhile fun c ↦ !isBreak c := by simp [hbreak]
      rw [htake] at hallowed hcolon
      have hc : isAllowed c = true := hallowed c (by simp)
      simp only [endsWord, isBlank, hbreak, Bool.or_false, Bool.or_eq_true, beq_iff_eq] at h
      rcases h with (rfl | rfl) | rfl
      · exact hcolon ⟨before, cs.takeWhile fun c ↦ !isBreak c, by simp⟩
      · cases hc
      · cases hc

theorem readInline?_of_readName? {read : String × List Char} (indent : Nat)
    (h : readName? cs = some read) : readInline? indent cs = none := by
  unfold readName? at h
  split at h
  case h_2 => cases h
  case h_1 name rest hspan =>
    split_ifs at h with hname
    obtain ⟨hne, _, hend⟩ := hname
    rw [List.span_eq_takeWhile_dropWhile, Prod.mk.injEq] at hspan
    have htext : cs = name ++ ':' :: rest := by
      rw [← hspan.1, ← hspan.2, List.takeWhile_append_dropWhile]
    have hchars : ∀ c ∈ name, isNameChar c = true := fun c hc ↦
      List.mem_takeWhile_imp (hspan.1 ▸ hc)
    have htake : cs.takeWhile (fun c ↦ !isBreak c) =
        name ++ ':' :: rest.takeWhile fun c ↦ !isBreak c := by
      have hall : ∀ c ∈ name, (!isBreak c) = true := fun c hc ↦ by
        rw [isBreak_of_isNameChar (hchars c hc)]
        rfl
      rw [htext, List.takeWhile_append_of_pos hall]
      rfl
    obtain ⟨c, name, rfl⟩ := List.exists_cons_of_ne_nil hne
    have hc : isNameChar c = true := hchars c List.mem_cons_self
    have hplain : readInline? indent cs = readPlain? cs := by
      rw [htext, List.cons_append]
      unfold readInline?
      split
      case h_6 => rfl
      all_goals next heq => cases (List.cons.inj heq).1 ▸ hc
    rw [hplain]
    exact readPlain?_eq_none (htake ▸ not_standsPlain_colon _ hend)

theorem readBlock_of_readInline? {read : Json × List Char}
    (h : readInline? column cs = some read) : readBlock column (fuel + 1) cs = some read := by
  have hnone : readName? cs = none := by
    cases hname : readName? cs with
    | none => rfl
    | some name =>
      rw [readInline?_of_readName? column hname] at h
      cases h
  unfold readBlock
  split
  case h_1 heq => cases heq
  case h_2 =>
    rw [readInline?_dash] at h
    cases h
  case h_3 heq _ =>
    cases heq
    simp only [hnone, h]

theorem closed_ne_nil (cs : List Char) : closed cs ≠ [] := by
  rw [closed]
  split_ifs with h
  · rintro rfl
    cases h
  · simp

theorem readsBack_of_inline (hblock : ∀ column, block column value = closed (inline column value))
    (hfield : ∀ column, fieldValue column value = ' ' :: closed (inline (column + 2) value))
    (h : ∀ indent rest, 0 < indent → Below indent rest →
      readInline? indent (closed (inline indent value) ++ rest) = some (value, rest)) :
    ReadsBack value where
  asBlock column fuel rest hcolumn hfuel hrest := by
    have hpos := List.length_pos_iff.mpr (closed_ne_nil (inline column value))
    rw [hblock] at hfuel ⊢
    cases fuel with
    | zero => omega
    | succ fuel => exact readBlock_of_readInline? (h column rest hcolumn hrest)
  asField column fuel rest hfuel hrest := by
    rw [hfield] at hfuel ⊢
    cases fuel with
    | zero => cases hfuel
    | succ fuel =>
      exact h (column + 2) rest (Nat.succ_pos _) (hrest.below.mono (Nat.le_succ _))

theorem readsBack_array {x : Json} (h : ∀ y ∈ x :: xs, ReadsBack y) :
    ReadsBack (.array (x :: xs)) where
  asBlock column fuel rest _ hfuel hrest := readBlock_array h hfuel hrest.endsField
  asField column fuel rest hfuel hrest := by
    have htext : fieldValue column (.array (x :: xs)) =
        '\n' :: (spaces column ++ block column (.array (x :: xs))) := by simp [fieldValue, block]
    rw [htext] at hfuel ⊢
    cases fuel with
    | zero => cases hfuel
    | succ fuel =>
      have hlength : (block column (.array (x :: xs))).length ≤ fuel := by
        rw [List.length_cons, List.length_append] at hfuel
        omega
      have hitem : spaces column ++ ['-', ' '] <+:
          spaces column ++ (block column (.array (x :: xs)) ++ rest) :=
        (List.prefix_append_right_inj _).mpr ⟨_, rfl⟩
      have hdrop : (spaces column ++ (block column (.array (x :: xs)) ++ rest)).drop column =
          block column (.array (x :: xs)) ++ rest := List.drop_left' List.length_replicate
      rw [List.cons_append, List.append_assoc, readField, if_pos hitem, hdrop]
      exact readBlock_array h hlength hrest

theorem readsBack_object (hnames : ∀ m ∈ member :: ms, IsName m.1)
    (h : ∀ m ∈ member :: ms, ReadsBack m.2) : ReadsBack (.object (member :: ms)) where
  asBlock column fuel rest _ hfuel hrest := readBlock_object hnames h hfuel hrest
  asField column fuel rest hfuel hrest := by
    have htext : fieldValue column (.object (member :: ms)) =
        '\n' :: (spaces (column + 2) ++ block (column + 2) (.object (member :: ms))) := by
      simp [fieldValue, block]
    rw [htext] at hfuel ⊢
    cases fuel with
    | zero => cases hfuel
    | succ fuel =>
      have hlength : (block (column + 2) (.object (member :: ms))).length ≤ fuel := by
        rw [List.length_cons, List.length_append] at hfuel
        omega
      have hitem : ¬ spaces column ++ ['-', ' '] <+:
          spaces (column + 2) ++ (block (column + 2) (.object (member :: ms)) ++ rest) := by
        rw [spaces, spaces, List.replicate_add, List.append_assoc, List.prefix_append_right_inj]
        intro hdash
        cases (List.cons_prefix_cons.mp hdash).1
      have hdrop :
          (spaces (column + 2) ++ (block (column + 2) (.object (member :: ms)) ++ rest)).drop
            (column + 2) = block (column + 2) (.object (member :: ms)) ++ rest :=
        List.drop_left' List.length_replicate
      rw [List.cons_append, List.append_assoc, readField, if_neg hitem,
        if_pos (List.prefix_append _ _), hdrop]
      exact readBlock_object hnames h hlength (hrest.below.mono (Nat.le_succ _))

theorem Writable.readsBack (h : Writable value) : ReadsBack value := by
  induction h with
  | null =>
    exact readsBack_of_inline (fun _ ↦ rfl) (fun _ ↦ rfl) fun _ rest _ _ ↦ readInline?_null rest
  | bool b =>
    exact readsBack_of_inline (fun _ ↦ rfl) (fun _ ↦ rfl) fun _ rest _ _ ↦ readInline?_bool b rest
  | nat hn =>
    exact readsBack_of_inline (fun _ ↦ rfl) (fun _ ↦ rfl) fun _ rest _ _ ↦ readInline?_nat hn rest
  | string s =>
    exact readsBack_of_inline (fun _ ↦ rfl) (fun _ ↦ rfl) fun _ _ hindent hrest ↦
      readInline?_scalar s hrest hindent
  | @array items _ ih =>
    cases items with
    | nil => exact readsBack_of_inline (fun _ ↦ rfl) (fun _ ↦ rfl) fun _ _ _ _ ↦ rfl
    | cons x xs => exact readsBack_array ih
  | @object members hnames _ ih =>
    cases members with
    | nil => exact readsBack_of_inline (fun _ ↦ rfl) (fun _ ↦ rfl) fun _ _ _ _ ↦ rfl
    | cons member ms => exact readsBack_object hnames ih

/-- A document that is an object with members is read back. -/
theorem read?_print (h : Writable (.object (member :: ms))) :
    read? (print (.object (member :: ms))) = some (.object (member :: ms)) := by
  cases h with
  | object hnames hvalues =>
    have hread : readBlock 0 (block 0 (.object (member :: ms))).length
        (block 0 (.object (member :: ms)) ++ []) = some (.object (member :: ms), []) :=
      readBlock_object hnames (fun m hm ↦ (hvalues m hm).readsBack) le_rfl .done
    rw [List.append_nil] at hread
    rw [read?, print, String.length_ofList, String.toList_ofList, hread]

end StoryGraph.Yaml
