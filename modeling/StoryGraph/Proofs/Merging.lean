import Mathlib.Data.List.Basic
import StoryGraph.Proofs.Occurrence
import StoryGraph.Proofs.Resolution
import StoryGraph.Script.Normalize

namespace StoryGraph.Draft

open Occurrence (IsLast)
open Reference (Available)

variable {settings : Settings} {draft : Draft} {id : String} {label : Label}

theorem ids_eq_filterMap (draft : Draft) :
    draft.ids = draft.scenes.filterMap fun scene ↦ filled scene.id := by
  unfold ids named
  rw [List.map_filterMap]
  apply List.filterMap_congr
  intro scene _
  simp [Scene.name?, Function.comp_def]

theorem mem_filterMap_name? {scenes : List Scene} {scene : Scene} (h : scene ∈ scenes)
    (hname : scene.name? = some id) :
    (id, scene) ∈ scenes.filterMap fun scene ↦ scene.name?.map (·, scene) := by
  refine List.mem_filterMap.mpr ⟨scene, h, ?_⟩
  rw [hname]
  rfl

/-- A named scene is the last under its id if and only if no later scene of the draft has that id;
scenes without an id do not count. -/
theorem exists_isLast_named_iff {scene : Scene} :
    (∃ position, IsLast draft.named position id scene) ↔
      id ≠ "" ∧ scene.id = some id ∧ ∃ before after, draft.scenes = before ++ scene :: after ∧
        ∀ later ∈ after, later.id ≠ some id := by
  constructor
  · intro h
    obtain ⟨position, hlast⟩ := h
    obtain ⟨_, after, hsplit, _, hafter⟩ := Occurrence.isLast_iff_split.mp hlast
    -- The named scenes split at this one, so the scenes do: first before it, then behind the scenes
    -- without an id that stand in front of it.
    obtain ⟨before', rest, hscenes, _, hrest⟩ := List.filterMap_eq_append_iff.mp hsplit
    obtain ⟨between, scene', after', rfl, _, hscene, rfl⟩ := List.filterMap_eq_cons_iff.mp hrest
    obtain ⟨_, hid, heq⟩ := Option.map_eq_some_iff.mp hscene
    cases heq
    obtain ⟨hid, hne⟩ := filled_eq_some_iff.mp hid
    refine ⟨hne, hid, before' ++ between, after', by simp [hscenes], ?_⟩
    intro later hlater hsame
    have hname : later.name? = some id := filled_eq_some_iff.mpr ⟨hsame, hne⟩
    have hnamed := mem_filterMap_name? hlater hname
    exact hafter (List.mem_map.mpr ⟨_, hnamed, rfl⟩)
  · intro h
    obtain ⟨hne, hid, before, after, hscenes, hafter⟩ := h
    have hname : scene.name? = some id := filled_eq_some_iff.mpr ⟨hid, hne⟩
    have hnamed : draft.named = (before.filterMap fun scene ↦ scene.name?.map (·, scene)) ++
        (id, scene) :: after.filterMap fun scene ↦ scene.name?.map (·, scene) := by
      simp [named, hscenes, hname]
    refine ⟨_, Occurrence.isLast_iff_split.mpr ⟨_, _, hnamed, rfl, ?_⟩⟩
    intro hmem
    obtain ⟨⟨_, later⟩, hlater, rfl⟩ := List.mem_map.mp hmem
    obtain ⟨_, hmem', hlater⟩ := List.mem_filterMap.mp hlater
    obtain ⟨_, hlaterName, heq⟩ := Option.map_eq_some_iff.mp hlater
    cases heq
    exact hafter later hmem' (filled_eq_some_iff.mp hlaterName).1

theorem ids_eq_nil_iff :
    draft.ids = [] ↔ ∀ scene ∈ draft.scenes, scene.id = none ∨ scene.id = some "" := by
  rw [ids_eq_filterMap, List.filterMap_eq_nil_iff]
  apply forall₂_congr
  intro scene _
  cases scene.id <;> simp [filled, Option.filter]

def Has (draft : Draft) : Label → Prop := Available ⟨draft.ids⟩ draft.hasEnding

theorem mergedScenes_eq_map (settings : Settings) (draft : Draft) :
    draft.mergedScenes settings = (Occurrence.lasts draft.named).map fun entry ↦
      entry.2.1.normalize settings entry.1 entry.2.2 := by
  rw [mergedScenes, Occurrence.lasts, List.map_filterMap]
  apply List.filterMap_congr
  intro id _
  cases Occurrence.last? id draft.named <;> rfl

theorem map_id_mergedScenes (settings : Settings) (draft : Draft) :
    (draft.mergedScenes settings).map Script.Scene.id = Occurrence.distinct draft.ids := by
  rw [mergedScenes_eq_map, List.map_map]
  exact Occurrence.map_fst_lasts draft.named

theorem map_next_normalize (settings : Settings) (id : String) (scene : Scene)
    (follower : Option String) :
    (scene.normalize settings id follower).choices.map Script.Choice.next =
      scene.choices.map fun choice ↦ filled choice.next := by
  apply List.ext_getElem?
  intro index
  simp only [Scene.normalize, List.getElem?_map, List.getElem?_mapIdx, Option.map_map]
  rfl

def scriptScene (settings : Settings) (draft : Draft) (position : Nat) (id : String)
    (scene : Scene) : Script.Scene :=
  scene.normalize settings id (draft.named[position + 1]?.map Prod.fst)

/-- A scene of the script is the normal form of the last scene under its id, with the id that
follows there. -/
theorem mem_mergedScenes_iff {scene : Script.Scene} :
    scene ∈ draft.mergedScenes settings ↔ ∃ position original,
      IsLast draft.named position scene.id original ∧
        scene = draft.scriptScene settings position scene.id original := by
  rw [mergedScenes_eq_map, List.mem_map]
  constructor
  · intro h
    obtain ⟨⟨id, original, follower⟩, hentry, rfl⟩ := h
    obtain ⟨position, hposition, rfl⟩ := Occurrence.mem_lasts_iff.mp hentry
    exact ⟨position, original, hposition, rfl⟩
  · intro h
    obtain ⟨position, original, hposition, heq⟩ := h
    exact ⟨(scene.id, original, _), Occurrence.mem_lasts_iff.mpr ⟨position, hposition, rfl⟩,
      heq.symm⟩

theorem scriptScene_mem (settings : Settings) {position : Nat} {scene : Scene}
    (h : IsLast draft.named position id scene) :
    draft.scriptScene settings position id scene ∈ draft.mergedScenes settings :=
  mem_mergedScenes_iff.mpr ⟨position, scene, h, rfl⟩

theorem mem_ids_index_normalize : id ∈ (draft.normalize settings).index.ids ↔ id ∈ draft.ids := by
  change id ∈ (draft.mergedScenes settings).map Script.Scene.id ↔ _
  rw [map_id_mergedScenes, Occurrence.mem_distinct]

@[simp]
theorem hasEnding_normalize : (draft.normalize settings).hasEnding = draft.hasEnding := by
  simp [Script.hasEnding, normalize, hasEnding]

theorem available_normalize :
    Available (draft.normalize settings).index (draft.normalize settings).hasEnding label ↔
      draft.Has label := by
  cases label with
  | cover => exact Iff.rfl
  | ending => rw [hasEnding_normalize]; exact Iff.rfl
  | scene id => exact mem_ids_index_normalize

theorem startLabel_of_mem (h : draft.startScene = some id) (hid : id ∈ draft.ids) :
    draft.startLabel = some (.scene id) := by
  simp [startLabel, h, Option.filter, hid]

theorem startLabel_of_not_mem (h : draft.startScene.filter draft.ids.contains = none) :
    draft.startLabel = match draft.ids.head? with
      | some id => some (.scene id)
      | none => if draft.hasEnding then some .ending else none := by
  cases hhead : draft.ids.head? <;> simp [startLabel, h, hhead]

theorem has_of_startLabel_eq_some (h : draft.startLabel = some label) : draft.Has label := by
  cases hdeclared : draft.startScene.filter draft.ids.contains with
  | some id =>
    obtain ⟨hsome, hid⟩ := Option.filter_eq_some_iff.mp hdeclared
    have hmem : id ∈ draft.ids := by simpa using hid
    rw [startLabel_of_mem hsome hmem] at h
    cases h
    exact hmem
  | none =>
    rw [startLabel_of_not_mem hdeclared] at h
    cases hhead : draft.ids.head? with
    | some id =>
      rw [hhead] at h
      cases h
      exact List.mem_of_head? hhead
    | none =>
      cases hending : draft.hasEnding <;> simp only [hhead, hending] at h
      · cases h
      · cases h
        exact hending

theorem startLabel_eq_none_iff :
    draft.startLabel = none ↔ draft.ids = [] ∧ draft.hasEnding = false := by
  cases hids : draft.ids with
  | nil =>
    have hdeclared : draft.startScene.filter draft.ids.contains = none := by simp [hids]
    rw [startLabel_of_not_mem hdeclared, hids]
    cases draft.hasEnding <;> simp
  | cons id ids =>
    cases hdeclared : draft.startScene.filter draft.ids.contains with
    | some declared => simp [startLabel, hdeclared]
    | none => simp [startLabel_of_not_mem hdeclared, hids]

end StoryGraph.Draft
