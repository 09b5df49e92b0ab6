import StoryGraph.Proofs.Continuations
import StoryGraph.Proofs.Positions

namespace StoryGraph

namespace Occurrence

variable {name other : String} {names : List String} {position : Nat}

theorem lastIndex?_concat : lastIndex? name (names ++ [other]) =
    if other = name then some names.length else lastIndex? name names := by
  rw [lastIndex?_eq_getLast?, lastIndex?_eq_getLast?, List.findIdxs_append]
  by_cases hother : other = name <;> simp [hother]

theorem getElem?_concat_of_ne (h : other ≠ name) (place : Nat) :
    (names ++ [other])[place]? = some name ↔ names[place]? = some name := by
  rcases Nat.lt_trichotomy place names.length with hlt | rfl | hlt
  · rw [List.getElem?_append_left hlt]
  · simp [h]
  · rw [List.getElem?_eq_none (by simp; omega), List.getElem?_eq_none (by omega)]

theorem lastIndex?_eq_some_iff : lastIndex? name names = some position ↔
    names[position]? = some name ∧ ∀ later, position < later → names[later]? ≠ some name := by
  induction names using List.reverseRecOn with
  | nil => simp [lastIndex?]
  | append_singleton names other ih =>
    rw [lastIndex?_concat]
    by_cases hother : other = name
    · subst hother
      rw [if_pos rfl, Option.some.injEq]
      constructor
      · rintro rfl
        refine ⟨List.getElem?_concat_length, ?_⟩
        intro later hlt hlater
        have hle := (List.getElem?_eq_some_iff.mp hlater).1
        rw [List.length_append, List.length_singleton] at hle
        omega
      · rintro ⟨hfound, hfinal⟩
        have hle := (List.getElem?_eq_some_iff.mp hfound).1
        rw [List.length_append, List.length_singleton] at hle
        by_contra hne
        exact hfinal names.length (by omega) List.getElem?_concat_length
    · simp only [if_neg hother, ih, ne_eq, getElem?_concat_of_ne hother]

theorem lastIndex?_eq_some_iff_of_nodup (h : names.Nodup) :
    lastIndex? name names = some position ↔ names[position]? = some name := by
  rw [lastIndex?_eq_some_iff, and_iff_left_iff_imp]
  intro hfound later hlt hlater
  have hle := (List.getElem?_eq_some_iff.mp hfound).1
  have heq := (List.getElem?_inj hle h).mp (hfound.trans hlater.symm)
  omega

theorem exists_isLast_of_lastIndex? {α : Type} {items : List (String × α)}
    (h : lastIndex? name (items.map Prod.fst) = some position) :
    ∃ item, IsLast items position name item := by
  obtain ⟨hfound, hfinal⟩ := lastIndex?_eq_some_iff.mp h
  rw [List.getElem?_map] at hfound
  obtain ⟨⟨_, item⟩, hitem, rfl⟩ := Option.map_eq_some_iff.mp hfound
  exact ⟨item, isLast_iff_names.mpr ⟨hitem, hfinal⟩⟩

theorem mem_lasts_concat_iff {α : Type} {items : List (String × α)} {item found : α} :
    (other, found, none) ∈ lasts (items ++ [(name, item)]) ↔ other = name ∧ found = item := by
  rw [mem_lasts_iff]
  constructor
  · rintro ⟨position, hlast, hend⟩
    have hlt := (List.getElem?_eq_some_iff.mp hlast.found).1
    have hle := List.getElem?_eq_none_iff.mp (Option.map_eq_none_iff.mp hend)
    rw [List.length_append, List.length_singleton] at hlt hle
    obtain rfl : position = items.length := by omega
    have heq := hlast.found
    rw [List.getElem?_concat_length] at heq
    cases heq
    exact ⟨rfl, rfl⟩
  · rintro ⟨rfl, rfl⟩
    refine ⟨items.length, isLast_iff_split.mpr ⟨items, [], rfl, rfl, List.not_mem_nil⟩, ?_⟩
    rw [List.getElem?_eq_none (by simp)]
    rfl

theorem map_fst_lasts_without_follower {α : Type} (items : List (String × α)) :
    ((lasts items).filter fun entry ↦ entry.2.2 = none).map Prod.fst =
      (items.map Prod.fst).getLast?.toList := by
  rcases List.eq_nil_or_concat' items with rfl | ⟨items, ⟨name, item⟩, rfl⟩
  · rfl
  · have hnodup : (((lasts (items ++ [(name, item)])).filter fun entry ↦
        entry.2.2 = none).map Prod.fst).Nodup := by
      have hnames := nodup_distinct ((items ++ [(name, item)]).map Prod.fst)
      rw [← map_fst_lasts] at hnames
      exact hnames.sublist (List.filter_sublist.map Prod.fst)
    rw [List.map_append, List.map_singleton, List.getLast?_concat, Option.toList_some]
    refine List.perm_singleton.mp ((List.perm_ext_iff_of_nodup hnodup
      (List.nodup_singleton name)).mpr ?_)
    intro other
    simp only [List.mem_map, List.mem_filter, decide_eq_true_eq, List.mem_singleton]
    constructor
    · rintro ⟨⟨_, found, follower⟩, ⟨hentry, rfl⟩, rfl⟩
      exact (mem_lasts_concat_iff.mp hentry).1
    · rintro rfl
      exact ⟨(other, item, none), ⟨mem_lasts_concat_iff.mpr ⟨rfl, rfl⟩, rfl⟩, rfl⟩

theorem distinct_concat : distinct (names ++ [name]) =
    if name ∈ names then distinct names else distinct names ++ [name] := by
  induction names with
  | nil => rfl
  | cons head names ih =>
    rw [List.cons_append, distinct, distinct, ih]
    by_cases hhead : name = head
    · subst hhead
      by_cases hmem : name ∈ names <;> simp [hmem]
    · by_cases hmem : name ∈ names <;> simp [hhead, hmem]

end Occurrence

/-- None of the names, references and captions of a scene is the empty text. -/
structure Script.Scene.Filled (scene : Script.Scene) : Prop where
  id : scene.id ≠ ""
  next : scene.next ≠ some ""
  speaker : ∀ line ∈ scene.lines, line.speaker ≠ some ""
  caption : ∀ choice ∈ scene.choices, choice.caption ≠ ""
  target : ∀ choice ∈ scene.choices, choice.next ≠ some ""

namespace SceneIndex

def entered (ids : List String) : Std.HashMap String Nat :=
  ids.zipIdx.foldl (fun positions entry ↦ positions.insert entry.1 entry.2) ∅

theorem entered_concat (ids : List String) (id : String) :
    entered (ids ++ [id]) = (entered ids).insert id ids.length := by
  rw [entered, List.zipIdx_append, List.foldl_append, Nat.zero_add]
  rfl

theorem getElem?_insert_lastIndex? {positions : Std.HashMap String Nat} {ids : List String}
    (h : ∀ other, positions[other]? = Occurrence.lastIndex? other ids) (id other : String) :
    (positions.insert id ids.length)[other]? = Occurrence.lastIndex? other (ids ++ [id]) := by
  rw [Std.HashMap.getElem?_insert, h, Occurrence.lastIndex?_concat]
  simp only [beq_iff_eq]

theorem getElem?_entered (ids : List String) (id : String) :
    (entered ids)[id]? = Occurrence.lastIndex? id ids := by
  induction ids using List.reverseRecOn generalizing id with
  | nil => rw [entered]; simp [Occurrence.lastIndex?]
  | append_singleton ids last ih => rw [entered_concat, getElem?_insert_lastIndex? ih]

end SceneIndex

namespace Draft

open Occurrence (IsLast)

structure Merging where
  scenes : List Script.Scene
  positions : Std.HashMap String Nat

/-- Takes one more id. An id that has its scene is passed over, and so would be one that was never
entered. The scene of another id is made from what stands at its last position, and there is no
answer if nothing stands there. -/
def Merging.take (settings : Settings) (draft : Draft) (merging : Merging) (id : String) :
    Option Merging :=
  if merging.positions.contains id then some merging
  else
    match (SceneIndex.entered draft.ids)[id]? with
    | none => some merging
    | some last => draft.named[last]?.map fun (_, scene) ↦
      ⟨merging.scenes ++ [scene.normalize settings id (draft.named[last + 1]?.map Prod.fst)],
        merging.positions.insert id merging.scenes.length⟩

def merge? (settings : Settings) (draft : Draft) : Option Merging :=
  draft.ids.foldlM (Merging.take settings draft) ⟨[], ∅⟩

variable {settings : Settings} {draft : Draft} {merging : Merging} {seen : List String}
  {id : String}

/-- After these ids, each of them has its scene, and each scene its position. -/
structure Merging.Covers (settings : Settings) (draft : Draft) (seen : List String)
    (merging : Merging) : Prop where
  scenes : merging.scenes = (Occurrence.distinct seen).filterMap fun id ↦
    (Occurrence.last? id draft.named).map fun (scene, follower) ↦
      scene.normalize settings id follower
  ids : merging.scenes.map Script.Scene.id = Occurrence.distinct seen
  positions : ∀ id, merging.positions[id]? =
    Occurrence.lastIndex? id (merging.scenes.map Script.Scene.id)

theorem Merging.Covers.contains_iff (h : merging.Covers settings draft seen) :
    merging.positions.contains id = true ↔ id ∈ seen := by
  rw [Std.HashMap.contains_eq_isSome_getElem?, h.positions, Occurrence.isSome_lastIndex?, h.ids,
    Occurrence.mem_distinct]

theorem Merging.Covers.exists_take (h : merging.Covers settings draft seen)
    (hid : id ∈ draft.ids) :
    ∃ next, merging.take settings draft id = some next ∧
      next.Covers settings draft (seen ++ [id]) := by
  by_cases hseen : id ∈ seen
  · refine ⟨merging, if_pos (h.contains_iff.mpr hseen), ?_, ?_, h.positions⟩
    · rw [Occurrence.distinct_concat, if_pos hseen]
      exact h.scenes
    · rw [Occurrence.distinct_concat, if_pos hseen]
      exact h.ids
  · obtain ⟨last, hlast⟩ := Option.isSome_iff_exists.mp (Occurrence.isSome_lastIndex?.mpr hid)
    obtain ⟨scene, hscene⟩ := Occurrence.exists_isLast_of_lastIndex? hlast
    have hentered : (SceneIndex.entered draft.ids)[id]? = some last :=
      (SceneIndex.getElem?_entered _ _).trans hlast
    have hfound : Occurrence.last? id draft.named =
        some (scene, draft.named[last + 1]?.map Prod.fst) :=
      Occurrence.last?_eq_some_iff.mpr ⟨last, hscene, rfl⟩
    refine ⟨⟨merging.scenes ++ [draft.scriptScene settings last id scene],
      merging.positions.insert id merging.scenes.length⟩, ?_, ?_, ?_, ?_⟩
    · rw [take, if_neg (mt h.contains_iff.mp hseen)]
      simp only [hentered, hscene.found]
      rfl
    · rw [Occurrence.distinct_concat, if_neg hseen, List.filterMap_append, ← h.scenes]
      simp only [List.filterMap_cons, hfound]
      rfl
    · rw [Occurrence.distinct_concat, if_neg hseen, List.map_append, h.ids]
      rfl
    · intro other
      rw [List.map_append]
      have hinsert := SceneIndex.getElem?_insert_lastIndex? h.positions id other
      rwa [List.length_map] at hinsert

theorem Merging.Covers.exists_foldlM (h : merging.Covers settings draft seen)
    {ids : List String} (hids : ∀ id ∈ ids, id ∈ draft.ids) :
    ∃ last, ids.foldlM (Merging.take settings draft) merging = some last ∧
      last.Covers settings draft (seen ++ ids) := by
  induction ids generalizing merging seen with
  | nil => exact ⟨merging, rfl, by rwa [List.append_nil]⟩
  | cons id ids ih =>
    obtain ⟨hid, hids⟩ := List.forall_mem_cons.mp hids
    obtain ⟨next, hnext, hcovers⟩ := h.exists_take hid
    obtain ⟨last, hlast, hcovers⟩ := ih hcovers hids
    refine ⟨last, ?_, ?_⟩
    · rw [List.foldlM_cons, hnext]
      exact hlast
    · rwa [List.append_assoc, List.singleton_append] at hcovers

/-- The pass has an answer, and makes the scenes of the script with their positions. -/
theorem exists_merge? (settings : Settings) (draft : Draft) :
    ∃ merging, draft.merge? settings = some merging ∧
      merging.scenes = (draft.normalize settings).scenes ∧
      ∀ id, merging.positions[id]? = (draft.normalize settings).index.position? id := by
  have hstart : Merging.Covers settings draft [] ⟨[], ∅⟩ :=
    ⟨rfl, rfl, fun id ↦ by simp [Occurrence.lastIndex?]⟩
  obtain ⟨merging, hmerge, hcovers⟩ := hstart.exists_foldlM fun _ hid ↦ hid
  have hscenes : merging.scenes = (draft.normalize settings).scenes := hcovers.scenes
  refine ⟨merging, hmerge, hscenes, ?_⟩
  intro id
  rw [hcovers.positions, hscenes]
  rfl

theorem position?_index_normalize_iff {position : Nat} :
    (draft.normalize settings).index.position? id = some position ↔
      ∃ scene, (draft.normalize settings).scenes[position]? = some scene ∧ scene.id = id := by
  have hnodup : ((draft.normalize settings).scenes.map Script.Scene.id).Nodup := by
    change ((draft.mergedScenes settings).map Script.Scene.id).Nodup
    rw [map_id_mergedScenes]
    exact Occurrence.nodup_distinct draft.ids
  rw [SceneIndex.position?, Script.index, Occurrence.lastIndex?_eq_some_iff_of_nodup hnodup,
    List.getElem?_map, Option.map_eq_some_iff]

theorem isSome_position?_index_normalize :
    ((draft.normalize settings).index.position? id).isSome ↔ id ∈ draft.ids := by
  rw [SceneIndex.position?, Occurrence.isSome_lastIndex?, mem_ids_index_normalize]

/-- Each position of the list of scenes is that of one id, and no other number is. -/
theorem existsUnique_position?_iff {position : Nat} :
    (∃! id, (draft.normalize settings).index.position? id = some position) ↔
      position < (draft.normalize settings).scenes.length := by
  simp only [position?_index_normalize_iff]
  constructor
  · intro h
    obtain ⟨id, ⟨scene, hscene, _⟩, _⟩ := h
    exact (List.getElem?_eq_some_iff.mp hscene).1
  · intro hlt
    refine ⟨_, ⟨_, List.getElem?_eq_getElem hlt, rfl⟩, ?_⟩
    rintro id ⟨scene, hscene, rfl⟩
    rw [List.getElem?_eq_getElem hlt] at hscene
    rw [Option.some.inj hscene]

/-- Looking up an id answers with the scene that is made from its last occurrence. -/
theorem scene?_normalize_eq_some_iff {scene : Script.Scene} :
    (draft.normalize settings).scene? id = some scene ↔ ∃ position original,
      IsLast draft.named position id original ∧
        scene = draft.scriptScene settings position id original := by
  have hmem : (draft.normalize settings).scene? id = some scene ↔
      scene ∈ draft.mergedScenes settings ∧ scene.id = id := by
    rw [Script.scene?, Option.bind_eq_some_iff]
    constructor
    · rintro ⟨position, hposition, hscene⟩
      obtain ⟨found, hfound, rfl⟩ := position?_index_normalize_iff.mp hposition
      cases hfound.symm.trans hscene
      exact ⟨List.mem_of_getElem? hscene, rfl⟩
    · rintro ⟨hscene, rfl⟩
      obtain ⟨position, hposition⟩ := List.mem_iff_getElem?.mp hscene
      exact ⟨position, position?_index_normalize_iff.mpr ⟨scene, hposition, rfl⟩, hposition⟩
  rw [hmem, mem_mergedScenes_iff]
  constructor
  · rintro ⟨⟨position, original, hlast, hscene⟩, rfl⟩
    exact ⟨position, original, hlast, hscene⟩
  · rintro ⟨position, original, hlast, rfl⟩
    exact ⟨⟨position, original, hlast, rfl⟩, rfl⟩

/-- What follows the last occurrence of an id is another id, and it has a scene. -/
theorem fallback_of_mem_mergedScenes {scene : Script.Scene}
    (hscene : scene ∈ draft.mergedScenes settings) (h : scene.fallback = some id) :
    id ∈ draft.ids ∧ id ≠ scene.id := by
  obtain ⟨position, original, hlast, heq⟩ := mem_mergedScenes_iff.mp hscene
  rw [heq] at h
  obtain ⟨⟨_, follower⟩, hfollower, rfl⟩ := Option.map_eq_some_iff.mp h
  refine ⟨List.mem_map.mpr ⟨_, List.mem_of_getElem? hfollower, rfl⟩, ?_⟩
  rintro rfl
  exact hlast.final _ follower (Nat.lt_succ_self position) hfollower

theorem ids_without_fallback (settings : Settings) (draft : Draft) :
    ((draft.mergedScenes settings).filter fun scene ↦ scene.fallback = none).map
      Script.Scene.id = draft.ids.getLast?.toList := by
  rw [mergedScenes_eq_map, List.filter_map, List.map_map]
  exact Occurrence.map_fst_lasts_without_follower draft.named

theorem ne_some_empty_filled (text : Option String) : filled text ≠ some "" := by
  intro h
  exact (filled_eq_some_iff.mp h).2 rfl

theorem orElse_ne_empty {text : Option String} {standing : String} (h : standing ≠ "") :
    orElse text standing ≠ "" := by
  rw [orElse]
  cases htext : filled text with
  | none => exact h
  | some word => exact (filled_eq_some_iff.mp htext).2

theorem captionFor_ne_empty (settings : Settings) (index : Nat) :
    settings.captionFor index ≠ "" := by
  intro h
  have hlength := congrArg String.length h
  simp [Settings.captionFor] at hlength

theorem filled_scriptScene {position : Nat} {original : Scene}
    (h : IsLast draft.named position id original) :
    (draft.scriptScene settings position id original).Filled where
  id := by
    obtain ⟨hne, _⟩ := exists_isLast_named_iff.mp ⟨position, h⟩
    exact hne
  next := ne_some_empty_filled _
  speaker := by
    intro line hline
    obtain ⟨original, _, rfl⟩ := List.mem_map.mp hline
    exact ne_some_empty_filled _
  caption := by
    intro choice hchoice
    obtain ⟨index, hindex, rfl⟩ := List.mem_mapIdx.mp hchoice
    exact orElse_ne_empty (captionFor_ne_empty settings index)
  target := by
    intro choice hchoice
    obtain ⟨index, hindex, rfl⟩ := List.mem_mapIdx.mp hchoice
    exact ne_some_empty_filled _

/-- A normalized draft is in canonical form. The pass that makes its scenes gives them the positions
that entering their ids gives. Ids and positions are paired one to one; under each id stands what
its last occurrence says, with standing captions for its choices where it has none, and the id
behind that occurrence as its fallback, which is another id of the draft. Only the id at the end of
the draft has no fallback, and no name, reference or caption is empty. -/
theorem normalize_canonical (settings : Settings) (draft : Draft) :
    (∃ merging, draft.merge? settings = some merging ∧
        merging.scenes = (draft.normalize settings).scenes ∧
        (∀ id, merging.positions[id]? = (draft.normalize settings).index.position? id) ∧
        merging.positions.Equiv
          (SceneIndex.entered ((draft.normalize settings).scenes.map Script.Scene.id))) ∧
      (∀ id position, (draft.normalize settings).index.position? id = some position ↔
        ∃ scene, (draft.normalize settings).scenes[position]? = some scene ∧ scene.id = id) ∧
      (∀ position, (∃! id, (draft.normalize settings).index.position? id = some position) ↔
        position < (draft.normalize settings).scenes.length) ∧
      (∀ id, ((draft.normalize settings).index.position? id).isSome ↔ id ∈ draft.ids) ∧
      (∀ id scene, (draft.normalize settings).scene? id = some scene ↔
        ∃ position original, IsLast draft.named position id original ∧
          scene = {
            id
            background := original.background
            accent := original.accent
            lines := original.dialogue.map fun line ↦ ⟨filled line.speaker, line.text.getD ""⟩
            choices := original.choices.mapIdx fun index choice ↦
              ⟨(filled choice.label).getD s!"{settings.choiceCaption} {index + 1}",
                filled choice.next⟩
            next := filled original.next
            fallback := draft.named[position + 1]?.map Prod.fst }) ∧
      (∀ scene ∈ (draft.normalize settings).scenes,
        (∃ position original, IsLast draft.named position scene.id original ∧
          scene.fallback = draft.named[position + 1]?.map Prod.fst) ∧
        (∀ id, scene.fallback = some id →
          ((draft.normalize settings).index.position? id).isSome ∧ id ≠ scene.id) ∧
        scene.Filled) ∧
      ((draft.normalize settings).scenes.filter fun scene ↦ scene.fallback = none).map
        Script.Scene.id = draft.ids.getLast?.toList := by
  refine ⟨?_, fun _ _ ↦ position?_index_normalize_iff, fun _ ↦ existsUnique_position?_iff,
    fun _ ↦ isSome_position?_index_normalize, fun _ _ ↦ scene?_normalize_eq_some_iff, ?_,
    ids_without_fallback settings draft⟩
  · obtain ⟨merging, hmerge, hscenes, hpositions⟩ := exists_merge? settings draft
    refine ⟨merging, hmerge, hscenes, hpositions, ?_⟩
    apply Std.HashMap.Equiv.of_forall_getElem?_eq
    intro id
    rw [hpositions, SceneIndex.getElem?_entered]
    rfl
  · intro scene hscene
    obtain ⟨position, original, hlast, heq⟩ := mem_mergedScenes_iff.mp hscene
    refine ⟨⟨position, original, hlast, congrArg Script.Scene.fallback heq⟩, ?_, ?_⟩
    · intro id hid
      obtain ⟨hmem, hne⟩ := fallback_of_mem_mergedScenes hscene hid
      exact ⟨isSome_position?_index_normalize.mpr hmem, hne⟩
    · rw [heq]
      exact filled_scriptScene hlast

theorem normalize_canonical_rewrittenHub :
    ∃ scene ∈ (rewrittenHub.normalize {}).scenes, scene.fallback = some "hub" ∧
      ((rewrittenHub.normalize {}).index.position? "hub").isSome ∧ "hub" ≠ scene.id ∧
      scene.Filled := by
  obtain ⟨_, _, _, _, _, hscenes, _⟩ := normalize_canonical {} rewrittenHub
  have hshop : (⟨"shop", none, none, [], [], none, some "hub"⟩ : Script.Scene) ∈
      (rewrittenHub.normalize {}).scenes := by decide
  obtain ⟨_, hfallback, hfilled⟩ := hscenes _ hshop
  obtain ⟨hsome, hne⟩ := hfallback "hub" rfl
  exact ⟨_, hshop, rfl, hsome, hne, hfilled⟩

end Draft

end StoryGraph
