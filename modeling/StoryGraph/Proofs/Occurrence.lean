import Mathlib.Data.List.Nodup
import StoryGraph.Draft.Occurrence

namespace StoryGraph.Occurrence

variable {α : Type}

/-- The item at a position carries a name that no later item carries. -/
structure IsLast (items : List (String × α)) (position : Nat) (name : String) (item : α) :
    Prop where
  found : items[position]? = some (name, item)
  final : ∀ later other, position < later → items[later]? ≠ some (name, other)

variable {items : List (String × α)} {position : Nat} {name : String} {item : α}

theorem IsLast.mem (h : IsLast items position name item) : (name, item) ∈ items :=
  List.mem_of_getElem? h.found

theorem IsLast.name_mem (h : IsLast items position name item) : name ∈ items.map Prod.fst :=
  List.mem_map.mpr ⟨_, h.mem, rfl⟩

theorem IsLast.unique {position' : Nat} {item' : α} (h : IsLast items position name item)
    (h' : IsLast items position' name item') : position = position' ∧ item = item' := by
  have hle : ¬ position' < position := fun hlt ↦ h'.final _ _ hlt h.found
  have hle' : ¬ position < position' := fun hlt ↦ h.final _ _ hlt h'.found
  obtain rfl : position = position' := by omega
  have heq := h.found.symm.trans h'.found
  simp only [Option.some.injEq, Prod.mk.injEq, true_and] at heq
  exact ⟨rfl, heq⟩

theorem IsLast.exists_and_iff (h : IsLast items position name item) {P : α → Prop} :
    (∃ position item, IsLast items position name item ∧ P item) ↔ P item := by
  constructor
  · intro hexists
    obtain ⟨position', item', hlast, hitem⟩ := hexists
    obtain ⟨rfl, rfl⟩ := h.unique hlast
    exact hitem
  · intro hitem
    exact ⟨position, item, h, hitem⟩

@[simp]
theorem isLast_cons_succ {head : String × α} :
    IsLast (head :: items) (position + 1) name item ↔ IsLast items position name item := by
  constructor
  · intro h
    refine ⟨by simpa using h.found, ?_⟩
    intro later other hlt
    simpa using h.final (later + 1) other (by omega)
  · intro h
    refine ⟨by simpa using h.found, ?_⟩
    intro later other hlt
    cases later with
    | zero => omega
    | succ later => simpa using h.final later other (by omega)

@[simp]
theorem isLast_cons_zero {head : String × α} :
    IsLast (head :: items) 0 name item ↔ head = (name, item) ∧ name ∉ items.map Prod.fst := by
  constructor
  · intro h
    refine ⟨by simpa using h.found, ?_⟩
    intro hmem
    obtain ⟨⟨_, other⟩, hother, rfl⟩ := List.mem_map.mp hmem
    obtain ⟨later, hlater⟩ := List.mem_iff_getElem?.mp hother
    exact h.final (later + 1) other (by omega) (by simpa using hlater)
  · intro h
    obtain ⟨rfl, hmem⟩ := h
    refine ⟨rfl, ?_⟩
    intro later other hlt hother
    cases later with
    | zero => omega
    | succ later =>
      rw [List.getElem?_cons_succ] at hother
      exact hmem (List.mem_map.mpr ⟨_, List.mem_of_getElem? hother, rfl⟩)

theorem isLast_iff_split :
    IsLast items position name item ↔ ∃ before after,
      items = before ++ (name, item) :: after ∧ before.length = position ∧
        name ∉ after.map Prod.fst := by
  constructor
  · intro h
    obtain ⟨hlt, hget⟩ := List.getElem?_eq_some_iff.mp h.found
    refine ⟨items.take position, items.drop (position + 1), ?_, ?_, ?_⟩
    · rw [← hget, ← List.drop_eq_getElem_cons hlt, List.take_append_drop]
    · rw [List.length_take]
      omega
    · intro hmem
      obtain ⟨⟨_, other⟩, hother, rfl⟩ := List.mem_map.mp hmem
      obtain ⟨later, hlater⟩ := List.mem_iff_getElem?.mp hother
      rw [List.getElem?_drop] at hlater
      exact h.final _ other (by omega) hlater
  · intro h
    obtain ⟨before, after, rfl, rfl, hafter⟩ := h
    induction before with
    | nil => exact isLast_cons_zero.mpr ⟨rfl, hafter⟩
    | cons head before ih => exact isLast_cons_succ.mpr ih

/-- Looking up a name answers with its last item and with the name at the position after it. -/
theorem last?_eq_some_iff {follower : Option String} :
    last? name items = some (item, follower) ↔
      ∃ position, IsLast items position name item ∧
        items[position + 1]?.map Prod.fst = follower := by
  induction items with
  | nil =>
    constructor
    · intro h
      cases h
    · intro h
      obtain ⟨_, hlast, _⟩ := h
      simpa using hlast.mem
  | cons head items ih =>
    obtain ⟨other, first⟩ := head
    -- The last item stands at the head, or it is the last one of the rest.
    rw [last?, ← Nat.or_exists_add_one]
    simp only [isLast_cons_zero, isLast_cons_succ, List.getElem?_cons_succ, ← ih]
    cases hlast : last? name items with
    | some found =>
      have hmem : name ∈ items.map Prod.fst := isSome_last?.mp (by rw [hlast]; rfl)
      simp [hmem]
    | none =>
      have hmem : name ∉ items.map Prod.fst := by
        intro h
        have hsome := isSome_last?.mpr h
        simp [hlast] at hsome
      by_cases hname : other = name
      · simp [hname, hmem, List.head?_eq_getElem?]
      · simp [hname]

theorem exists_isLast (h : name ∈ items.map Prod.fst) :
    ∃ position item, IsLast items position name item := by
  obtain ⟨⟨item, follower⟩, hlast⟩ := Option.isSome_iff_exists.mp (isSome_last?.mpr h)
  obtain ⟨position, hposition, _⟩ := last?_eq_some_iff.mp hlast
  exact ⟨position, item, hposition⟩

theorem distinct_filter (p : String → Bool) (names : List String) :
    distinct (names.filter p) = (distinct names).filter p := by
  induction names with
  | nil => rfl
  | cons name names ih =>
    by_cases hp : p name = true
    · simp [distinct, hp, ih, List.filter_filter, Bool.and_comm]
    · have hcomm : ((distinct names).filter (· ≠ name)).filter p = (distinct names).filter p := by
        rw [List.filter_filter]
        apply List.filter_congr
        intro other _
        by_cases hname : other = name <;> simp [hname, hp]
      rw [List.filter_cons_of_neg hp, ih, distinct, List.filter_cons_of_neg hp, hcomm]

theorem distinct_eq_eraseDups : ∀ names : List String, distinct names = names.eraseDups
  | [] => rfl
  | name :: names => by
    -- The library drops the later occurrences before it goes on, not after.
    rw [distinct, List.eraseDups_cons, ← distinct_filter,
      distinct_eq_eraseDups (names.filter (· ≠ name))]
    congr 3
    funext other
    simp only [ne_eq, decide_not]
    rfl
termination_by names => names.length
decreasing_by
  have := List.length_filter_le (fun other ↦ decide (other ≠ name)) names
  simp only [List.length_cons]
  omega

/-- The items whose names do not come again, in their order. -/
def finals : List (String × α) → List (String × α)
  | [] => []
  | item :: items => if item.1 ∈ items.map Prod.fst then finals items else item :: finals items

/-- The last item under each name, with the name of the item behind it, in the order in which the
names first occur. -/
def lasts (items : List (String × α)) : List (String × α × Option String) :=
  (distinct (items.map Prod.fst)).filterMap fun name ↦ (last? name items).map (name, ·)

theorem mem_finals_iff :
    (name, item) ∈ finals items ↔ ∃ position, IsLast items position name item := by
  induction items with
  | nil =>
    constructor
    · intro h
      cases h
    · intro h
      obtain ⟨_, hlast⟩ := h
      simpa using hlast.mem
  | cons head items ih =>
    rw [finals, ← Nat.or_exists_add_one]
    simp only [isLast_cons_zero, isLast_cons_succ, ← ih]
    by_cases hmem : head.1 ∈ items.map Prod.fst
    · rw [if_pos hmem]
      constructor
      · intro h
        exact .inr h
      · intro h
        obtain ⟨rfl, hfinal⟩ | h := h
        · exact absurd hmem hfinal
        · exact h
    · rw [if_neg hmem, List.mem_cons, eq_comm]
      apply or_congr_left
      constructor
      · intro h
        subst h
        exact ⟨rfl, hmem⟩
      · intro h
        exact h.1

theorem map_fst_finals_subset : (finals items).map Prod.fst ⊆ items.map Prod.fst := by
  intro name hname
  obtain ⟨⟨_, item⟩, hitem, rfl⟩ := List.mem_map.mp hname
  obtain ⟨_, hlast⟩ := mem_finals_iff.mp hitem
  exact hlast.name_mem

theorem nodup_map_fst_finals (items : List (String × α)) :
    ((finals items).map Prod.fst).Nodup := by
  induction items with
  | nil => exact List.nodup_nil
  | cons head items ih =>
    rw [finals]
    split_ifs with hmem
    · exact ih
    · exact List.nodup_cons.mpr ⟨fun h ↦ hmem (map_fst_finals_subset h), ih⟩

theorem map_fst_lasts (items : List (String × α)) :
    (lasts items).map Prod.fst = distinct (items.map Prod.fst) := by
  rw [lasts, List.map_filterMap]
  refine Eq.trans (List.filterMap_congr ?_) List.filterMap_some
  intro name hname
  obtain ⟨found, hfound⟩ := Option.isSome_iff_exists.mp (isSome_last?.mpr (mem_distinct.mp hname))
  simp [hfound]

theorem mem_lasts_iff {follower : Option String} :
    (name, item, follower) ∈ lasts items ↔ ∃ position, IsLast items position name item ∧
      items[position + 1]?.map Prod.fst = follower := by
  rw [← last?_eq_some_iff, lasts, List.mem_filterMap]
  constructor
  · intro h
    obtain ⟨_, _, hfound⟩ := h
    obtain ⟨_, hlast, heq⟩ := Option.map_eq_some_iff.mp hfound
    cases heq
    exact hlast
  · intro h
    have hmem : name ∈ items.map Prod.fst := isSome_last?.mp (by rw [h]; rfl)
    exact ⟨name, mem_distinct.mpr hmem, by rw [h]; rfl⟩

theorem map_lasts_perm_finals (items : List (String × α)) :
    ((lasts items).map fun entry ↦ (entry.1, entry.2.1)).Perm (finals items) := by
  have hlasts : ((lasts items).map fun entry ↦ (entry.1, entry.2.1)).Nodup := by
    apply List.Nodup.of_map Prod.fst
    rw [List.map_map]
    change ((lasts items).map Prod.fst).Nodup
    rw [map_fst_lasts]
    exact nodup_distinct _
  rw [List.perm_ext_iff_of_nodup hlasts ((nodup_map_fst_finals items).of_map Prod.fst)]
  rintro ⟨name, item⟩
  rw [mem_finals_iff, List.mem_map]
  constructor
  · intro h
    obtain ⟨⟨_, _, follower⟩, hentry, heq⟩ := h
    cases heq
    obtain ⟨position, hlast, _⟩ := mem_lasts_iff.mp hentry
    exact ⟨position, hlast⟩
  · intro h
    obtain ⟨position, hlast⟩ := h
    exact ⟨(name, item, _), mem_lasts_iff.mpr ⟨position, hlast, rfl⟩, rfl⟩

section Replacing

variable {before after : List (String × α)} {old new : α} {id : String}

theorem isLast_iff_names :
    IsLast items position name item ↔ items[position]? = some (name, item) ∧
      ∀ later, position < later → (items.map Prod.fst)[later]? ≠ some name := by
  constructor
  · intro h
    refine ⟨h.found, ?_⟩
    intro later hlt hname
    rw [List.getElem?_map] at hname
    obtain ⟨⟨_, other⟩, hother, rfl⟩ := Option.map_eq_some_iff.mp hname
    exact h.final later other hlt hother
  · intro h
    refine ⟨h.1, ?_⟩
    intro later other hlt hother
    exact h.2 later hlt (by rw [List.getElem?_map, hother]; rfl)

theorem map_fst_replaced (old new : α) :
    (before ++ (id, new) :: after).map Prod.fst = (before ++ (id, old) :: after).map Prod.fst := by
  simp

theorem isLast_replaced (hne : name ≠ id) :
    IsLast (before ++ (id, new) :: after) position name item ↔
      IsLast (before ++ (id, old) :: after) position name item := by
  rw [isLast_iff_names, isLast_iff_names, map_fst_replaced old new]
  apply and_congr_left'
  rcases Nat.lt_trichotomy position before.length with hlt | rfl | hlt
  · simp [List.getElem?_append_left hlt]
  · simp [hne.symm]
  · obtain ⟨rest, hrest⟩ := Nat.exists_eq_add_one.mpr (Nat.sub_pos_of_lt hlt)
    rw [List.getElem?_append_right (Nat.le_of_lt hlt),
      List.getElem?_append_right (Nat.le_of_lt hlt), hrest]
    rfl

/-- Nobody looks at an item whose name comes again. -/
theorem last?_overwritten (hagain : id ∈ after.map Prod.fst) :
    last? name (before ++ (id, new) :: after) = last? name (before ++ (id, old) :: after) := by
  induction before with
  | nil =>
    simp only [List.nil_append, last?]
    cases hlast : last? name after with
    | some found => rfl
    | none =>
      have hne : id ≠ name := by
        intro heq
        rw [heq, ← isSome_last?, hlast] at hagain
        cases hagain
      rw [if_neg hne, if_neg hne]
  | cons head before ih =>
    have hhead : (before ++ (id, new) :: after).head?.map Prod.fst =
        (before ++ (id, old) :: after).head?.map Prod.fst := by
      cases before <;> rfl
    simp only [List.cons_append, last?, ih, hhead]

theorem lasts_overwritten (hagain : id ∈ after.map Prod.fst) :
    lasts (before ++ (id, new) :: after) = lasts (before ++ (id, old) :: after) := by
  rw [lasts, lasts, map_fst_replaced old new]
  apply List.filterMap_congr
  intro name _
  rw [last?_overwritten hagain]

theorem finals_overwritten (hagain : id ∈ after.map Prod.fst) :
    finals (before ++ (id, new) :: after) = finals (before ++ (id, old) :: after) := by
  induction before with
  | nil => simp only [List.nil_append, finals, if_pos hagain]
  | cons head before ih =>
    simp only [List.cons_append, finals, ih, map_fst_replaced old new]

end Replacing

section Mapping

variable {β : Type} {rename : String → String}

theorem distinct_map (hrename : Function.Injective rename) (names : List String) :
    distinct (names.map rename) = (distinct names).map rename := by
  induction names with
  | nil => rfl
  | cons name names ih =>
    have hkept : ((distinct names).map rename).filter (· ≠ rename name) =
        ((distinct names).filter (· ≠ name)).map rename := by
      rw [List.filter_map]
      congr 1
      apply List.filter_congr
      intro other _
      simp [hrename.eq_iff]
    rw [List.map_cons, distinct, distinct, ih, hkept, List.map_cons]

theorem last?_map (hrename : Function.Injective rename) (change : α → β) (name : String)
    (items : List (String × α)) :
    last? (rename name) (items.map (Prod.map rename change)) =
      (last? name items).map (Prod.map change (Option.map rename)) := by
  induction items with
  | nil => rfl
  | cons head items ih =>
    obtain ⟨other, item⟩ := head
    rw [List.map_cons, Prod.map_apply, last?, last?, ih]
    cases last? name items with
    | some found => rfl
    | none =>
      by_cases hname : other = name
      · simp [hname, Function.comp_def]
      · simp [hname, hrename.eq_iff]

/-- The last items are found by comparing names, never by what the names are. -/
theorem lasts_map (hrename : Function.Injective rename) (change : α → β)
    (items : List (String × α)) :
    lasts (items.map (Prod.map rename change)) =
      (lasts items).map (Prod.map rename (Prod.map change (Option.map rename))) := by
  have hnames : (items.map (Prod.map rename change)).map Prod.fst =
      (items.map Prod.fst).map rename := by
    rw [List.map_map, List.map_map]
    rfl
  rw [lasts, lasts, hnames, distinct_map hrename, List.filterMap_map, List.map_filterMap]
  apply List.filterMap_congr
  intro name _
  simp only [Function.comp_apply, last?_map hrename]
  cases last? name items <;> rfl

theorem mapIdx_map {α' β' : Type} {make : Nat → α → β} {make' : Nat → α' → β'} {change : α → α'}
    {change' : β → β'} (h : ∀ index item, make' index (change item) = change' (make index item))
    (items : List α) : (items.map change).mapIdx make' = (items.mapIdx make).map change' := by
  apply List.ext_getElem?
  intro index
  rw [List.getElem?_mapIdx, List.getElem?_map, List.getElem?_map, List.getElem?_mapIdx]
  cases items[index]? with
  | none => rfl
  | some item => exact congrArg some (h index item)

end Mapping

end StoryGraph.Occurrence
