import Mathlib.Algebra.Field.Rat
import Mathlib.Data.List.Nodup
import StoryGraph.Proofs.DraftText

namespace StoryGraph

namespace Json

/-- No object in a value has two members of the same name. -/
inductive Distinct : Json → Prop where
  | null : Distinct null
  | bool (b : Bool) : Distinct (bool b)
  | number (n : Number) : Distinct (number n)
  | string (s : String) : Distinct (string s)
  | array (items : List Json) (each : ∀ item ∈ items, Distinct item) : Distinct (array items)
  | object (members : Members) (names : (members.map Prod.fst).Nodup)
    (each : ∀ member ∈ members, Distinct member.2) : Distinct (object members)

attribute [simp] Distinct.null Distinct.bool Distinct.number Distinct.string

def Number.value : Number → ℚ
  | integer n => n
  | binary x => (if x.negative then -1 else 1) * x.mantissa * 2 ^ x.exponent

theorem Number.isZero_iff (n : Number) : n.isZero = true ↔ n.value = 0 := by
  cases n with
  | integer n => simp [isZero, value]
  | binary x =>
    have hpower : (2 : ℚ) ^ x.exponent ≠ 0 := zpow_ne_zero _ (by decide)
    cases hsign : x.negative <;> simp [isZero, Numeric.Binary64.isZero, value, hsign, hpower]

variable {α : Type} {members inner : Members} {name name' : String} {value : Json}

@[simp]
theorem distinct_array {items : List Json} :
    Distinct (.array items) ↔ ∀ item ∈ items, Distinct item := by
  refine ⟨fun h ↦ ?_, .array items⟩
  cases h with
  | array _ each => exact each

@[simp]
theorem distinct_object :
    Distinct (.object members) ↔
      (members.map Prod.fst).Nodup ∧ ∀ member ∈ members, Distinct member.2 := by
  refine ⟨fun h ↦ ?_, fun h ↦ .object members h.1 h.2⟩
  cases h with
  | object _ names each => exact ⟨names, each⟩

theorem Distinct.names (h : Distinct (.object members)) : (members.map Prod.fst).Nodup :=
  (distinct_object.mp h).1

theorem Distinct.of_mem (h : Distinct (.object members)) (hmem : (name, value) ∈ members) :
    Distinct value :=
  (distinct_object.mp h).2 _ hmem

theorem members?_eq_some_iff : value.members? = some members ↔ value = .object members := by
  cases value <;> simp [members?]

namespace Members

theorem mem_of_get?_eq_some (h : get? members name = some value) : (name, value) ∈ members := by
  obtain ⟨member, hfind, rfl⟩ := Option.map_eq_some_iff.mp h
  have hname : member.1 = name := by simpa using List.find?_some hfind
  have hmem : member ∈ members := List.mem_reverse.mp (List.mem_of_find?_eq_some hfind)
  rwa [← hname]

theorem isSome_get?_iff : (get? members name).isSome ↔ ∃ value, (name, value) ∈ members := by
  rw [get?, Option.isSome_map, List.find?_isSome]
  constructor
  · rintro ⟨⟨other, value⟩, hmem, hname⟩
    rw [beq_iff_eq] at hname
    exact ⟨value, hname ▸ List.mem_reverse.mp hmem⟩
  · rintro ⟨value, hmem⟩
    exact ⟨_, List.mem_reverse.mpr hmem, beq_self_eq_true name⟩

theorem get?_eq_some_iff (h : (members.map Prod.fst).Nodup) :
    get? members name = some value ↔ (name, value) ∈ members := by
  refine ⟨mem_of_get?_eq_some, fun hmem ↦ ?_⟩
  obtain ⟨value', hget⟩ := Option.isSome_iff_exists.mp (isSome_get?_iff.mpr ⟨value, hmem⟩)
  have hsame : (name, value') = (name, value) :=
    List.inj_on_of_nodup_map h (mem_of_get?_eq_some hget) hmem rfl
  rwa [(Prod.mk.inj hsame).2] at hget

theorem get?_filter {p : String → Bool} (h : p name = true) :
    get? (members.filter fun m ↦ p m.1) name = get? members name := by
  induction members with
  | nil => rfl
  | cons member members ih =>
    obtain ⟨other, value⟩ := member
    rw [List.filter_cons]
    split_ifs with hp
    · rw [get?_cons, get?_cons, ih]
    · have hne : other ≠ name := fun heq ↦ hp (heq ▸ h)
      rw [ih, get?_cons, if_neg hne, Option.or_none]

theorem get?_rename {f : String → String} (h : ∀ m ∈ members, f m.1 = name ↔ m.1 = name') :
    get? (members.map fun m ↦ (f m.1, m.2)) name = get? members name' := by
  induction members with
  | nil => rfl
  | cons member members ih =>
    obtain ⟨other, value⟩ := member
    obtain ⟨hhead, htail⟩ := List.forall_mem_cons.mp h
    simp only [List.map_cons, get?_cons, ih htail, hhead]

theorem get?_change {change : String → Json → Json} :
    get? (members.map fun m ↦ (m.1, change m.1 m.2)) name =
      (get? members name).map (change name) := by
  induction members with
  | nil => rfl
  | cons member members ih =>
    obtain ⟨other, value⟩ := member
    rw [List.map_cons, get?_cons, get?_cons, ih, Option.map_or]
    by_cases hname : other = name <;> simp [hname]

end Members

variable (names : List String) (change : String → Json → Json)

namespace Members

def known (members : Members) : Members := members.filter fun m ↦ names.contains m.1

def pruned (members : Members) : Members :=
  (known names members).map fun m ↦ (m.1, change m.1 m.2)

/-- Takes one more member, unless its name is unknown. A known name is refused the second time. -/
def accept (taken : Members) (member : String × Json) : Except String Members :=
  if names.contains member.1 then
    if (taken.get? member.1).isSome then .error s!"duplicate field `{member.1}`"
    else .ok (taken ++ [member])
  else .ok taken

def acceptAll (members : Members) : Except String Members := members.foldlM (accept names) []

variable {names change}

theorem get?_known (h : name ∈ names) : get? (known names members) name = get? members name :=
  get?_filter (List.contains_iff_mem.mpr h)

theorem get?_pruned (h : name ∈ names) :
    get? (pruned names change members) name = (get? members name).map (change name) := by
  rw [pruned, get?_change, get?_known h]

theorem foldlM_accept {taken : Members} (h : ((taken ++ members).map Prod.fst).Nodup) :
    members.foldlM (accept names) taken = .ok (taken ++ known names members) := by
  -- What is taken and what is left have no name in common at any time.
  induction members generalizing taken with
  | nil => simp [known, pure, Except.pure]
  | cons member members ih =>
    have hnew : (taken.get? member.1).isSome = false := by
      rw [Bool.eq_false_iff, ne_eq, isSome_get?_iff]
      rintro ⟨value, hmem⟩
      rw [List.map_append, List.nodup_append] at h
      exact h.2.2 member.1 (List.mem_map.mpr ⟨_, hmem, rfl⟩) member.1 (by simp) rfl
    rw [List.foldlM_cons, accept]
    by_cases hknown : names.contains member.1 = true
    · have hnext : ((taken ++ [member] ++ members).map Prod.fst).Nodup := by
        rwa [List.append_assoc, List.singleton_append]
      rw [if_pos hknown, hnew, if_neg Bool.false_ne_true]
      refine (ih hnext).trans ?_
      rw [known, known, List.filter_cons, if_pos hknown, List.append_assoc, List.singleton_append]
    · have hnext : ((taken ++ members).map Prod.fst).Nodup := by
        refine h.sublist (List.Sublist.map _ ?_)
        exact (List.Sublist.refl taken).append (List.sublist_cons_self member members)
      rw [if_neg hknown]
      refine (ih hnext).trans ?_
      rw [known, known, List.filter_cons, if_neg hknown]

theorem acceptAll_eq (h : (members.map Prod.fst).Nodup) :
    acceptAll names members = .ok (known names members) := by
  have haccept : members.foldlM (accept names) [] = .ok ([] ++ known names members) :=
    foldlM_accept (by rwa [List.nil_append])
  exact haccept

end Members

def pruned : Json → Json
  | object members => object (Members.pruned names change members)
  | value => value

def eachItem (change : Json → Json) : Json → Json
  | array items => array (items.map change)
  | value => value

variable {names change}

theorem members?_pruned (value : Json) :
    (value.pruned names change).members? = value.members?.map (Members.pruned names change) := by
  cases value <;> rfl

theorem entries_eachItem_pruned (value : Json) :
    (value.eachItem (pruned names change)).entries =
      value.entries.map (Members.pruned names change) := by
  cases value with
  | array items =>
    rw [eachItem, entries, entries, List.filterMap_map, List.map_filterMap]
    exact List.filterMap_congr fun item _ ↦ members?_pruned item
  | _ => rfl

end Json

end StoryGraph
