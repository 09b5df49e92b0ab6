import Mathlib.Data.List.Induction
import StoryGraph.Proofs.Findings

namespace StoryGraph

section Neighbours

variable {α : Type} {items : List α} {item : α}

theorem zip_tail_concat : (items ++ [item]).zip (items ++ [item]).tail =
    items.zip items.tail ++ (items.getLast?.map (·, item)).toList := by
  induction items with
  | nil => rfl
  | cons head items ih =>
    cases items with
    | nil => rfl
    | cons next items =>
      change (head, next) :: ((next :: items) ++ [item]).zip ((next :: items) ++ [item]).tail = _
      rw [ih]
      rfl

theorem isChain_zip_tail (items : List α) :
    (items.zip items.tail).IsChain fun pair next ↦ next.1 = pair.2 := by
  induction items with
  | nil => exact .nil
  | cons head items ih =>
    cases items with
    | nil => exact .nil
    | cons next items =>
      cases items with
      | nil => exact .singleton _
      | cons third items => exact .cons_cons rfl ih

end Neighbours

namespace Occurrence

variable {name other : String} {names : List String}

theorem lastIndex?_eq_getLast? (name : String) (names : List String) :
    lastIndex? name names = (names.findIdxs (· = name)).getLast? := by
  induction names with
  | nil => rfl
  | cons other names ih =>
    have hshift : names.findIdxs (· = name) 1 = (names.findIdxs (· = name)).map (· + 1) :=
      List.findIdxs_start
    rw [lastIndex?, ih, List.findIdxs_cons, hshift]
    by_cases hother : other = name
    · cases hlast : (names.findIdxs (· = name)).getLast? with
      | some position => simp [hother, List.getLast?_cons, hlast]
      | none => simp [hother, List.getLast?_cons, hlast]
    · cases hlast : (names.findIdxs (· = name)).getLast? with
      | some position => simp [hother, hlast]
      | none => simp [hother, hlast]

/-- For each occurrence of a name after its first, the position of the one before it and its own. -/
def repetitions (name : String) (names : List String) : List (Nat × Nat) :=
  names.zipIdx.filterMap fun (other, position) ↦
    if other = name then (lastIndex? name (names.take position)).map (·, position) else none

theorem repetitions_concat : repetitions name (names ++ [other]) = repetitions name names ++
    if other = name then ((lastIndex? name names).map (·, names.length)).toList else [] := by
  have hnames : (names.zipIdx.filterMap fun (occurrence, position) ↦
      if occurrence = name then
        (lastIndex? name ((names ++ [other]).take position)).map (·, position)
      else none) = repetitions name names := by
    apply List.filterMap_congr
    rintro ⟨occurrence, position⟩ hmem
    have hle : position ≤ names.length := Nat.le_of_lt (List.snd_lt_of_mem_zipIdx hmem)
    simp only [List.take_append_of_le_length hle]
  rw [repetitions, List.zipIdx_append, List.filterMap_append, hnames]
  by_cases hother : other = name
  · cases hlast : lastIndex? name names <;> simp [hother, hlast]
  · simp [hother]

theorem repetitions_eq_zip (name : String) (names : List String) : repetitions name names =
    (names.findIdxs (· = name)).zip (names.findIdxs (· = name)).tail := by
  induction names using List.reverseRecOn with
  | nil => rfl
  | append_singleton names other ih =>
    rw [repetitions_concat, ih, List.findIdxs_append, lastIndex?_eq_getLast?]
    by_cases hother : other = name
    · simp [hother, zip_tail_concat]
    · simp [hother]

end Occurrence

namespace Draft

open Occurrence (IsLast)

variable {draft : Draft} {id : String} {position : Nat}

theorem positionsOf_eq_findIdxs (draft : Draft) (id : String) :
    draft.positionsOf id = draft.scenes.findIdxs fun scene ↦ scene.name? = some id := by
  rw [List.findIdxs_eq_filterMap_zipIdx, positionsOf]
  apply List.filterMap_congr
  rintro ⟨scene, position⟩ _
  by_cases h : scene.name? = some id <;> simp [h]

theorem unnamedPositions_eq_findIdxs (draft : Draft) :
    draft.unnamedPositions = draft.scenes.findIdxs fun scene ↦ scene.name? = none := by
  rw [List.findIdxs_eq_filterMap_zipIdx, unnamedPositions]
  apply List.filterMap_congr
  rintro ⟨scene, position⟩ _
  by_cases h : scene.name? = none <;> simp [h]

theorem count_ids (draft : Draft) (id : String) :
    draft.ids.count id = draft.scenes.countP fun scene ↦ scene.name? = some id := by
  rw [ids_eq_filterMap, List.count_filterMap]
  apply List.countP_congr
  intro scene _
  rw [beq_iff_eq, decide_eq_true_eq]
  exact Iff.rfl

theorem length_positionsOf (draft : Draft) (id : String) :
    (draft.positionsOf id).length = draft.ids.count id := by
  rw [positionsOf_eq_findIdxs, List.length_findIdxs, count_ids]

theorem mem_findIdxs_name? {name : Option String} :
    position ∈ draft.scenes.findIdxs (fun scene ↦ scene.name? = name) ↔
      ∃ scene, draft.scenes[position]? = some scene ∧ scene.name? = name := by
  rw [List.mem_findIdxs_iff_exists_getElem_pos]
  simp only [decide_eq_true_eq, List.getElem?_eq_some_iff]
  constructor
  · intro h
    obtain ⟨hlt, hname⟩ := h
    exact ⟨_, ⟨hlt, rfl⟩, hname⟩
  · intro h
    obtain ⟨_, ⟨hlt, rfl⟩, hname⟩ := h
    exact ⟨hlt, hname⟩

theorem mem_positionsOf :
    position ∈ draft.positionsOf id ↔
      ∃ scene, draft.scenes[position]? = some scene ∧ scene.name? = some id := by
  rw [positionsOf_eq_findIdxs, mem_findIdxs_name?]

theorem mem_unnamedPositions :
    position ∈ draft.unnamedPositions ↔
      ∃ scene, draft.scenes[position]? = some scene ∧ scene.name? = none := by
  rw [unnamedPositions_eq_findIdxs, mem_findIdxs_name?]

theorem pairwise_positionsOf (draft : Draft) (id : String) :
    (draft.positionsOf id).Pairwise (· < ·) := by
  rw [positionsOf_eq_findIdxs]
  exact List.pairwise_findIdxs

def OccursAfter (draft : Draft) (position : Nat) (id : String) : Prop :=
  ∃ later other, position < later ∧ draft.scenes[later]? = some other ∧ other.name? = some id

/-- The scene at this position of the draft has the id, and no later scene has it. -/
structure IsUsed (draft : Draft) (position : Nat) (id : String) (scene : Scene) : Prop where
  found : draft.scenes[position]? = some scene
  name : scene.name? = some id
  final : ¬ draft.OccursAfter position id

variable {scene : Scene}

theorem exists_split_scenes (hfound : draft.scenes[position]? = some scene) :
    ∃ before after, draft.scenes = before ++ scene :: after ∧ before.length = position ∧
      ∀ id, id ∈ after.filterMap Scene.name? ↔ draft.OccursAfter position id := by
  obtain ⟨hlt, rfl⟩ := List.getElem?_eq_some_iff.mp hfound
  refine ⟨draft.scenes.take position, draft.scenes.drop (position + 1), ?_, ?_, ?_⟩
  · rw [← List.drop_eq_getElem_cons hlt, List.take_append_drop]
  · rw [List.length_take]
    omega
  · intro id
    rw [List.mem_filterMap]
    constructor
    · intro h
      obtain ⟨other, hother, hname⟩ := h
      obtain ⟨offset, hoffset⟩ := List.mem_iff_getElem?.mp hother
      rw [List.getElem?_drop] at hoffset
      exact ⟨_, other, by omega, hoffset, hname⟩
    · intro h
      obtain ⟨later, other, hlater, hother, hname⟩ := h
      refine ⟨other, List.mem_iff_getElem?.mpr ⟨later - (position + 1), ?_⟩, hname⟩
      rw [List.getElem?_drop, Nat.add_sub_cancel' hlater]
      exact hother

theorem IsUsed.exists_isLast (h : draft.IsUsed position id scene) :
    ∃ place, IsLast draft.named place id scene := by
  obtain ⟨hid, hne⟩ := filled_eq_some_iff.mp h.name
  obtain ⟨before, after, hsplit, _, hafter⟩ := exists_split_scenes h.found
  refine exists_isLast_named_iff.mpr ⟨hne, hid, before, after, hsplit, ?_⟩
  intro other hother hsame
  have hname : other.name? = some id := filled_eq_some_iff.mpr ⟨hsame, hne⟩
  exact h.final ((hafter id).mp (List.mem_filterMap.mpr ⟨other, hother, hname⟩))

theorem exists_isUsed_of_getLast? (h : (draft.positionsOf id).getLast? = some position) :
    ∃ scene, draft.IsUsed position id scene := by
  obtain ⟨scene, hfound, hname⟩ := mem_positionsOf.mp (List.mem_of_getLast? h)
  refine ⟨scene, hfound, hname, ?_⟩
  intro hafter
  obtain ⟨later, other, hlt, hother, hsame⟩ := hafter
  have hlater : later ∈ draft.positionsOf id := mem_positionsOf.mpr ⟨other, hother, hsame⟩
  obtain ⟨start, hstart⟩ := List.getLast?_eq_some_iff.mp h
  have hascending := draft.pairwise_positionsOf id
  rw [hstart, List.pairwise_append] at hascending
  rw [hstart, List.mem_append, List.mem_singleton] at hlater
  rcases hlater with hmem | rfl
  · exact Nat.lt_asymm hlt (hascending.2.2 later hmem position (List.mem_singleton_self _))
  · exact Nat.lt_irrefl _ hlt

end Draft

end StoryGraph
