import Mathlib.Data.String.Basic
import StoryGraph.Proofs.Lexemes

namespace StoryGraph.Json

open Numeric

variable {layout : Layout} {blanks rest cs : List Char} {c : Char} {depth level : Nat} {form : Form}
  {value : Json}

theorem skipBlanks_append (h : ∀ c ∈ blanks, isBlank c = true) (cs : List Char) :
    skipBlanks (blanks ++ cs) = skipBlanks cs :=
  List.dropWhile_append_of_pos h

theorem skipBlanks_cons (h : isBlank c = false) : skipBlanks (c :: cs) = c :: cs := by
  simp [skipBlanks, h]

structure Layout.Blank (layout : Layout) : Prop where
  lineBreak : ∀ level, ∀ c ∈ layout.lineBreak level, isBlank c = true
  afterColon : ∀ c ∈ layout.afterColon, isBlank c = true

theorem blank_compact : Layout.compact.Blank := ⟨nofun, nofun⟩

theorem blank_indented : Layout.indented.Blank where
  lineBreak := by
    intro level c hc
    rcases List.mem_cons.mp hc with rfl | hspace
    · rfl
    · rw [List.eq_of_mem_replicate hspace]
      rfl
  afterColon := by
    intro c hc
    rw [List.mem_singleton.mp hc]
    rfl

theorem endsNumber_cons (hdigit : isDigit c = false) (hmark : c ∉ ['.', 'e', 'E']) :
    EndsNumber (c :: rest) := by
  intro c' hc'
  cases hc'
  simpa [hdigit] using hmark

theorem endsNumber_append (hblanks : ∀ c ∈ blanks, isBlank c = true) (h : EndsNumber rest) :
    EndsNumber (blanks ++ rest) := by
  cases blanks with
  | nil => exact h
  | cons c blanks =>
    have hc : isBlank c = true := hblanks c List.mem_cons_self
    simp only [isBlank, Bool.or_eq_true, beq_iff_eq] at hc
    rcases hc with ((rfl | rfl) | rfl) | rfl <;> exact endsNumber_cons rfl (by decide)

structure Closes (close : Char) : Prop where
  notBlank : isBlank close = false
  notComma : close ≠ ','
  endsNumber : ∀ rest, EndsNumber (close :: rest)

theorem closes_list : Closes ']' := ⟨rfl, by decide, fun _ ↦ endsNumber_cons rfl (by decide)⟩

theorem closes_object : Closes '}' := ⟨rfl, by decide, fun _ ↦ endsNumber_cons rfl (by decide)⟩

section Items

variable {α : Type} {item : List Char → Step α} {write : α → List Char} {close : Char}
  {atEnd other : Cause} {gap last : List Char} {a : α} {items : List α}

def separated (gap : List Char) (write : α → List Char) (items : List α) : List Char :=
  items.flatMap fun a ↦ ',' :: (gap ++ write a)

/-- A written item is read back, and it begins like one: neither with a blank nor by closing the
brackets. -/
structure ReadsBack (item : List Char → Step α) (write : α → List Char) (close : Char) (a : α) :
    Prop where
  begins : ∃ c cs, write a = c :: cs ∧ isBlank c = false ∧ c ≠ close
  read : ∀ rest, EndsNumber rest → item (write a ++ rest) = .ok (a, rest)

theorem ReadsBack.skipBlanks (h : ReadsBack item write close a)
    (hgap : ∀ c ∈ gap, isBlank c = true) (rest : List Char) :
    skipBlanks (gap ++ (write a ++ rest)) = write a ++ rest := by
  obtain ⟨c, cs, hwrite, hc, _⟩ := h.begins
  rw [skipBlanks_append hgap, hwrite, List.cons_append, skipBlanks_cons hc]

theorem ReadsBack.head?_ne (h : ReadsBack item write close a) (rest : List Char) :
    (write a ++ rest).head? ≠ some close := by
  obtain ⟨c, cs, hwrite, _, hc⟩ := h.begins
  simpa [hwrite] using hc

theorem length_le_length_separated (gap : List Char) (write : α → List Char) (items : List α) :
    items.length ≤ (separated gap write items).length := by
  induction items with
  | nil => exact Nat.zero_le _
  | cons a items ih =>
    unfold separated at ih ⊢
    rw [List.flatMap_cons, List.length_append, List.length_cons, List.length_cons]
    omega

theorem length_le_length_separated_of_mem (gap : List Char) (write : α → List Char)
    (h : a ∈ items) : (write a).length ≤ (separated gap write items).length := by
  obtain ⟨before, after, rfl⟩ := List.append_of_mem h
  simp only [separated, List.flatMap_append, List.flatMap_cons, List.length_append,
    List.length_cons]
  omega

theorem endsNumber_separated (hclose : Closes close) (hlast : ∀ c ∈ last, isBlank c = true)
    (gap : List Char) (write : α → List Char) (items : List α) (rest : List Char) :
    EndsNumber (separated gap write items ++ (last ++ close :: rest)) := by
  cases items with
  | nil =>
    change EndsNumber (last ++ close :: rest)
    exact endsNumber_append hlast (hclose.endsNumber rest)
  | cons b items => exact endsNumber_cons rfl (by decide)

theorem readItems_separated (hclose : Closes close) (hgap : ∀ c ∈ gap, isBlank c = true)
    (hlast : ∀ c ∈ last, isBlank c = true) {bound : List Char} {done : List α}
    (hitems : ∀ b ∈ a :: items, ReadsBack item write close b)
    (hbound : items.length < bound.length) :
    readItems item close atEnd other bound done
        (write a ++ (separated gap write items ++ (last ++ close :: rest))) =
      .ok (done.reverse ++ a :: items, rest) := by
  -- The bound loses a character with each item, and every item has at least one.
  induction items generalizing a bound done with
  | nil =>
    cases bound with
    | nil => cases hbound
    | cons b bound =>
      have ha := (hitems a List.mem_cons_self).read _
        (endsNumber_separated hclose hlast gap write [] rest)
      have hskip : skipBlanks (separated gap write [] ++ (last ++ close :: rest)) = close :: rest :=
        (skipBlanks_append hlast _).trans (skipBlanks_cons hclose.notBlank)
      rw [readItems, ha]
      simp only [hskip, if_true, List.reverse_cons]
  | cons b items ih =>
    cases bound with
    | nil => cases hbound
    | cons head bound =>
      have ha := (hitems a List.mem_cons_self).read _
        (endsNumber_separated hclose hlast gap write (b :: items) rest)
      have hb := hitems b (List.mem_cons_of_mem _ List.mem_cons_self)
      have hseparated : separated gap write (b :: items) ++ (last ++ close :: rest) =
          ',' :: (gap ++ (write b ++ (separated gap write items ++ (last ++ close :: rest)))) := by
        simp [separated]
      have hcomma : isBlank ',' = false := rfl
      rw [hseparated] at ha ⊢
      rw [readItems, ha]
      simp only [skipBlanks_cons hcomma, if_neg hclose.notComma.symm, if_true, hb.skipBlanks hgap,
        if_neg (hb.head?_ne _)]
      rw [ih (fun b' hb' ↦ hitems b' (List.mem_cons_of_mem _ hb')) (Nat.lt_of_succ_lt_succ hbound),
        List.reverse_cons, List.append_assoc, List.singleton_append]

theorem readBracketed_separated (hclose : Closes close) (hgap : ∀ c ∈ gap, isBlank c = true)
    (hlast : ∀ c ∈ last, isBlank c = true)
    (hitems : ∀ b ∈ a :: items, ReadsBack item write close b) (rest : List Char) :
    readBracketed item close atEnd other
        (gap ++ (write a ++ (separated gap write items ++ (last ++ close :: rest)))) =
      .ok (a :: items, rest) := by
  have ha := hitems a List.mem_cons_self
  obtain ⟨c, cs, hwrite, _, hc⟩ := ha.begins
  have hlength := length_le_length_separated gap write items
  have hbound : items.length <
      (write a ++ (separated gap write items ++ (last ++ close :: rest))).length := by
    simp only [hwrite, List.length_append, List.length_cons]
    omega
  have hread : readItems item close atEnd other
      (write a ++ (separated gap write items ++ (last ++ close :: rest))) []
      (write a ++ (separated gap write items ++ (last ++ close :: rest))) =
        .ok (a :: items, rest) :=
    readItems_separated hclose hgap hlast hitems hbound
  rw [readBracketed, ha.skipBlanks hgap]
  rw [hwrite, List.cons_append] at hread ⊢
  simp only [if_neg hc]
  exact hread

end Items

def Number.Exact : Number → Prop
  | integer n => -0x8000000000000000 ≤ n ∧ n ≤ greatestWord
  | binary _ => False

theorem Number.Exact.exists_digits {number : Number} (h : number.Exact) :
    ∃ n, (ofWhole false n = some number ∧ number.text.toList = Nat.toDigits 10 n) ∨
      (ofWhole true n = some number ∧ number.text.toList = '-' :: Nat.toDigits 10 n) := by
  cases number with
  | binary x => exact h.elim
  | integer n =>
    obtain ⟨hleast, hgreatest⟩ := h
    cases n with
    | ofNat n =>
      have hn : n ≤ greatestWord := Int.ofNat_le.mp hgreatest
      exact ⟨n, .inl ⟨by simp [ofWhole, hn], Nat.toList_repr⟩⟩
    | negSucc n =>
      have hn : n + 1 ≤ 0x8000000000000000 := by omega
      refine ⟨n + 1, .inr ⟨?_, ?_⟩⟩
      · rw [ofWhole, if_pos rfl, if_pos ⟨Nat.succ_pos n, hn⟩]
        rfl
      · change ("-" ++ (n + 1).repr).toList = _
        simp [Nat.toList_repr]

theorem isBlank_of_isDigit (h : isDigit c = true) : isBlank c = false := by
  cases hblank : isBlank c with
  | false => rfl
  | true =>
    simp only [isBlank, Bool.or_eq_true, beq_iff_eq] at hblank
    rcases hblank with ((rfl | rfl) | rfl) | rfl <;> cases h

theorem readValue_digits {n : Nat} {number : Number} (hnumber : ofWhole false n = some number)
    (h : EndsNumber rest) :
    readValue depth form (Nat.toDigits 10 n ++ rest) = .ok (.number number, rest) := by
  have hread := readNumber_toDigits h hnumber
  obtain ⟨c, digits, hdigits, hdigit⟩ := exists_toDigits_eq_cons n
  rw [hdigits, List.cons_append] at hread ⊢
  unfold readValue
  rw [skipBlanks_cons (isBlank_of_isDigit hdigit)]
  split
  case h_9 heq =>
    cases heq
    rw [if_pos hdigit, hread]
    rfl
  -- No other value begins with a digit.
  all_goals next heq => cases heq <;> cases hdigit

theorem readValue_append (h : ∀ c ∈ blanks, isBlank c = true) (cs : List Char) :
    readValue depth form (blanks ++ cs) = readValue depth form cs := by
  unfold readValue
  rw [skipBlanks_append h]

/-- A value of a form, with at most `depth` brackets open inside each other, whose numbers are
integers of 64 bits. -/
def Readable : Nat → Form → Json → Prop
  | _, _, .null | _, _, .bool _ | _, _, .string _ => True
  | _, _, .number n => n.Exact
  | depth + 1, form, .array items => ∀ item ∈ items, Readable depth form.item item
  | depth + 1, form, .object members => ∀ member ∈ members, ∃ field,
      form.member? member.1 = some field ∧ Readable depth field member.2
  | 0, _, .array _ | 0, _, .object _ => False

theorem readable_number {number : Number} :
    Readable depth form (.number number) ↔ number.Exact := by
  cases depth <;> rfl

theorem writeItems_eq_separated (layout : Layout) (level : Nat) (items : List Json) :
    writeItems layout level items =
      separated (layout.lineBreak level) (write layout level) items := by
  induction items with
  | nil => rfl
  | cons item items ih =>
    rw [writeItems, ih]
    simp [separated]

theorem writeMembers_eq_separated (layout : Layout) (level : Nat) (members : Members) :
    writeMembers layout level members =
      separated (layout.lineBreak level) (writeMember layout level) members := by
  induction members with
  | nil => rfl
  | cons member members ih =>
    rw [writeMembers, ih]
    simp [separated]

theorem exists_write_eq_cons (h : Readable depth form value) (layout : Layout) (level : Nat) :
    ∃ c cs, write layout level value = c :: cs ∧ isBlank c = false ∧ c ≠ ']' := by
  cases value with
  | null => exact ⟨_, _, rfl, rfl, by decide⟩
  | bool b => cases b <;> exact ⟨_, _, rfl, rfl, by decide⟩
  | string s => exact ⟨_, _, rfl, rfl, by decide⟩
  | array items => cases items <;> exact ⟨_, _, rfl, rfl, by decide⟩
  | object members => cases members <;> exact ⟨_, _, rfl, rfl, by decide⟩
  | number n =>
    obtain ⟨n, ⟨_, htext⟩ | ⟨_, htext⟩⟩ := Number.Exact.exists_digits (readable_number.mp h)
    · obtain ⟨c, digits, hdigits, hdigit⟩ := exists_toDigits_eq_cons n
      refine ⟨c, digits, htext.trans hdigits, isBlank_of_isDigit hdigit, ?_⟩
      rintro rfl
      cases hdigit
    · exact ⟨_, _, htext, rfl, by decide⟩

theorem readMember_writeMember (hlayout : layout.Blank) {name : String} {field : Form}
    (hfield : form.member? name = some field)
    (hvalue : ∀ rest, EndsNumber rest →
      readValue depth field (write layout level value ++ rest) = .ok (value, rest))
    (hrest : EndsNumber rest) :
    readMember (fun name ↦ (form.member? name).map (readValue depth))
        (writeMember layout level (name, value) ++ rest) = .ok ((name, value), rest) := by
  have hcolon : isBlank ':' = false := rfl
  have hname := readString_escaped name
    (':' :: (layout.afterColon ++ (write layout level value ++ rest)))
  have htext : writeMember layout level (name, value) ++ rest =
      '"' :: (name.toList.flatMap escapeChar ++
        '"' :: ':' :: (layout.afterColon ++ (write layout level value ++ rest))) := by
    simp [writeMember, quoted]
  rw [htext, readMember, hname]
  simp only [Step.andThen, skipBlanks_cons hcolon, hfield, Option.map_some,
    readValue_append hlayout.afterColon, hvalue rest hrest]

theorem readValue_number {number : Number} (h : number.Exact) (hrest : EndsNumber rest) :
    readValue depth form (number.text.toList ++ rest) = .ok (.number number, rest) := by
  obtain ⟨n, ⟨hnumber, htext⟩ | ⟨hnumber, htext⟩⟩ := h.exists_digits
  · rw [htext, readValue_digits hnumber hrest]
  · have hread := readNumber_toDigits hrest hnumber
    rw [htext, List.cons_append, readValue]
    change (readNumber true (Nat.toDigits 10 n ++ rest)).andThen _ = _
    rw [hread]
    rfl

theorem readValue_quoted (s : String) (rest : List Char) :
    readValue depth form (quoted s ++ rest) = .ok (.string s, rest) := by
  have hread := readString_escaped s rest
  have htext : quoted s ++ rest = '"' :: (s.toList.flatMap escapeChar ++ '"' :: rest) := by
    simp [quoted]
  rw [htext, readValue]
  change (readString (s.toList.flatMap escapeChar ++ '"' :: rest)).andThen _ = _
  rw [hread]
  rfl

theorem readValue_items (hlayout : layout.Blank) {item : Json} {items : List Json}
    (hitems : ∀ b ∈ item :: items,
      ReadsBack (readValue depth form.item) (write layout (level + 1)) ']' b) (rest : List Char) :
    readValue (depth + 1) form (write layout level (.array (item :: items)) ++ rest) =
      .ok (.array (item :: items), rest) := by
  have hread : readBracketed (readValue depth form.item) ']' .endOfList .expectedListEnd _ = _ :=
    readBracketed_separated closes_list (hlayout.lineBreak (level + 1)) (hlayout.lineBreak level)
      hitems rest
  have htext : write layout level (.array (item :: items)) ++ rest =
      '[' :: (layout.lineBreak (level + 1) ++ (write layout (level + 1) item ++
        (separated (layout.lineBreak (level + 1)) (write layout (level + 1)) items ++
          (layout.lineBreak level ++ ']' :: rest)))) := by
    simp [write, writeItems_eq_separated]
  rw [htext]
  change (readBracketed (readValue depth form.item) ']' _ _ _).andThen _ = _
  rw [hread]
  rfl

theorem readValue_members (hlayout : layout.Blank) {member : String × Json} {members : Members}
    (hmembers : ∀ b ∈ member :: members,
      ReadsBack (readMember fun name ↦ (form.member? name).map (readValue depth))
        (writeMember layout (level + 1)) '}' b) (rest : List Char) :
    readValue (depth + 1) form (write layout level (.object (member :: members)) ++ rest) =
      .ok (.object (member :: members), rest) := by
  have hread : readBracketed (readMember fun name ↦ (form.member? name).map (readValue depth)) '}'
      .endOfObject .expectedObjectEnd _ = _ :=
    readBracketed_separated closes_object (hlayout.lineBreak (level + 1)) (hlayout.lineBreak level)
      hmembers rest
  have htext : write layout level (.object (member :: members)) ++ rest =
      '{' :: (layout.lineBreak (level + 1) ++ (writeMember layout (level + 1) member ++
        (separated (layout.lineBreak (level + 1)) (writeMember layout (level + 1)) members ++
          (layout.lineBreak level ++ '}' :: rest)))) := by
    simp [write, writeMembers_eq_separated]
  rw [htext]
  change (readBracketed (readMember _) '}' _ _ _).andThen _ = _
  rw [hread]
  rfl

/-- Reading what was written gives the value back and leaves what stands behind it. -/
theorem readValue_write (hlayout : layout.Blank) : ∀ (depth : Nat) (form : Form) (value : Json)
    (level : Nat) (rest : List Char), Readable depth form value → EndsNumber rest →
    readValue depth form (write layout level value ++ rest) = .ok (value, rest)
  | _, _, .null, _, _, _, _ => by
    unfold readValue
    rfl
  | _, _, .bool true, _, _, _, _ => by
    unfold readValue
    rfl
  | _, _, .bool false, _, _, _, _ => by
    unfold readValue
    rfl
  | _, _, .string s, _, rest, _, _ => readValue_quoted s rest
  | _, _, .number n, _, rest, h, hrest => readValue_number (readable_number.mp h) hrest
  | _ + 1, _, .array [], _, _, _, _ => rfl
  | _ + 1, _, .object [], _, _, _, _ => rfl
  | depth + 1, form, .array (item :: items), level, rest, h, _ => by
    refine readValue_items hlayout ?_ rest
    intro b hb
    refine ⟨exists_write_eq_cons (h b hb) layout (level + 1), ?_⟩
    intro rest hrest
    exact readValue_write hlayout depth form.item b (level + 1) rest (h b hb) hrest
  | depth + 1, form, .object (member :: members), level, rest, h, _ => by
    refine readValue_members hlayout ?_ rest
    intro b hb
    obtain ⟨name, value⟩ := b
    obtain ⟨field, hfield, hvalue⟩ := h _ hb
    have hread : ∀ rest, EndsNumber rest →
        readValue depth field (write layout (level + 1) value ++ rest) = .ok (value, rest) :=
      fun rest ↦ readValue_write hlayout depth field value (level + 1) rest hvalue
    exact ⟨⟨'"', _, rfl, rfl, by decide⟩, fun _ ↦ readMember_writeMember hlayout hfield hread⟩

theorem parseAs_write (hlayout : layout.Blank) (h : Readable maxDepth form value) :
    parseAs form (String.ofList (write layout 0 value)) = .ok value := by
  have hread := readValue_write hlayout maxDepth form value 0 [] h endsNumber_nil
  rw [List.append_nil] at hread
  rw [parseAs, readText, String.toList_ofList, hread]
  rfl

theorem parseAs_pretty (h : Readable maxDepth form value) : parseAs form value.pretty = .ok value :=
  parseAs_write blank_indented h

theorem parseAs_compact (h : Readable maxDepth form value) :
    parseAs form value.compact = .ok value :=
  parseAs_write blank_compact h

section Readable

variable {members members' : Members} {name : String} {α : Type} {write : α → Json}

def AllReadable (depth : Nat) (form : Form) (members : Members) : Prop :=
  ∀ member ∈ members, ∃ field, form.member? member.1 = some field ∧ Readable depth field member.2

theorem readable_object :
    Readable (depth + 1) form (.object members) ↔ AllReadable depth form members := Iff.rfl

theorem allReadable_nil : AllReadable depth form [] := nofun

theorem allReadable_cons {field : Form} (hfield : form.member? name = some field) :
    AllReadable depth form ((name, value) :: members) ↔
      Readable depth field value ∧ AllReadable depth form members := by
  simp [AllReadable, hfield]

theorem allReadable_whole_cons :
    AllReadable depth .whole ((name, value) :: members) ↔
      Readable depth .whole value ∧ AllReadable depth .whole members :=
  allReadable_cons rfl

theorem Form.member?_record {names : List String} (h : name ∈ names) :
    (record names).member? name = some .whole := by
  have hfound : ((names.map fun other ↦ (other, whole)).find? fun field ↦ field.1 == name).isSome :=
    List.find?_isSome.mpr ⟨_, List.mem_map_of_mem h, beq_self_eq_true name⟩
  obtain ⟨field, hfield⟩ := Option.isSome_iff_exists.mp hfound
  obtain ⟨_, _, rfl⟩ := List.mem_map.mp (List.mem_of_find?_eq_some hfield)
  rw [record, member?, hfield]
  rfl

theorem readable_record {names : List String} (hnames : names = members.map Prod.fst)
    (h : AllReadable depth .whole members) :
    Readable (depth + 1) (.record names) (.object members) := by
  intro member hmember
  obtain ⟨field, hfield, hvalue⟩ := h member hmember
  obtain rfl : Form.whole = field := Option.some.inj hfield
  have hname : member.1 ∈ names := hnames ▸ List.mem_map_of_mem hmember
  exact ⟨.whole, Form.member?_record hname, hvalue⟩

theorem allReadable_append :
    AllReadable depth form (members ++ members') ↔
      AllReadable depth form members ∧ AllReadable depth form members' :=
  List.forall_mem_append

theorem allReadable_map_toList {item : Option α} {field : Form}
    (hfield : form.member? name = some field) (h : ∀ a, Readable depth field (write a)) :
    AllReadable depth form (item.map fun a ↦ (name, write a)).toList := by
  intro member hmember
  obtain ⟨a, _, rfl⟩ := Option.map_eq_some_iff.mp (Option.mem_toList.mp hmember)
  exact ⟨field, hfield, h a⟩

theorem readable_string {s : String} : Readable depth form (.string s) := by
  cases depth <;> trivial

theorem readable_array_map {items : List α} (h : ∀ a ∈ items, Readable depth form.item (write a)) :
    Readable (depth + 1) form (.array (items.map write)) := by
  intro value hvalue
  obtain ⟨a, ha, rfl⟩ := List.mem_map.mp hvalue
  exact h a ha

end Readable

theorem length_le_length_write_array (layout : Layout) (level : Nat) (items : List Json) :
    items.length ≤ (write layout level (.array items)).length := by
  cases items with
  | nil => exact Nat.zero_le _
  | cons item items =>
    have hlength := length_le_length_separated (layout.lineBreak (level + 1))
      (write layout (level + 1)) items
    simp only [write, writeItems_eq_separated, List.length_cons, List.length_append]
    omega

theorem length_write_le_of_mem_items (layout : Layout) (level : Nat) {items : List Json}
    (h : value ∈ items) :
    (write layout (level + 1) value).length ≤ (write layout level (.array items)).length := by
  cases items with
  | nil => cases h
  | cons item items =>
    simp only [write, writeItems_eq_separated, List.length_cons, List.length_append]
    rcases List.mem_cons.mp h with rfl | htail
    · omega
    · have hseparated := length_le_length_separated_of_mem (layout.lineBreak (level + 1))
        (write layout (level + 1)) htail
      omega

theorem length_write_le_of_mem (layout : Layout) (level : Nat) {name : String} {members : Members}
    (h : (name, value) ∈ members) :
    (write layout (level + 1) value).length ≤ (write layout level (.object members)).length := by
  have hmember : (write layout (level + 1) value).length ≤
      (writeMember layout (level + 1) (name, value)).length := by
    simp only [writeMember, List.length_append, List.length_cons]
    omega
  cases members with
  | nil => cases h
  | cons member members =>
    simp only [write, writeMembers_eq_separated, List.length_cons, List.length_append]
    rcases List.mem_cons.mp h with rfl | htail
    · omega
    · have hseparated := length_le_length_separated_of_mem (layout.lineBreak (level + 1))
        (writeMember layout (level + 1)) htail
      omega

theorem length_le_utf8ByteSize_ofList (cs : List Char) :
    cs.length ≤ (String.ofList cs).utf8ByteSize := by
  rw [String.utf8ByteSize_ofList]
  induction cs with
  | nil => exact Nat.zero_le _
  | cons c cs ih =>
    have hpos := c.utf8Size_pos
    rw [String.utf8Len_cons, List.length_cons]
    omega

end StoryGraph.Json
