import StoryGraph.Proofs.Continuations
import StoryGraph.Proofs.Positions

namespace StoryGraph.Draft

open Occurrence (IsLast)

def withScene (draft : Draft) (position : Nat) (scene : Scene) : Draft :=
  { draft with scenes := draft.scenes.set position scene }

/-- The drafts differ in nothing but what is written under their ids. -/
structure SameOutline (draft other : Draft) : Prop where
  version : other.version = draft.version
  cover : other.cover = draft.cover
  ids : other.ids = draft.ids
  ending : other.ending = draft.ending
  startScene : other.startScene = draft.startScene

variable {settings : Settings} {draft other : Draft} {position : Nat} {id : String}
  {scene replacement : Scene} {choice : Choice} {reference : Option String} {label : Label}
  {node : Node}

/-- Of the scene behind, a scene sees the id only. -/
theorem onward_eq_getD (draft : Draft) (position : Nat) (scene : Scene) :
    draft.onward position scene = (draft.honoured? scene.next).getD
      ((draft.ids[position + 1]?.map Label.scene).getD
        (if draft.ending.isSome then .ending else .cover)) := by
  rw [Draft.onward, ids, List.getElem?_map]
  cases draft.honoured? scene.next with
  | some label => rfl
  | none => cases draft.named[position + 1]? <;> rfl

namespace SameOutline

theorem hasEnding (h : SameOutline draft other) : other.hasEnding = draft.hasEnding := by
  rw [Draft.hasEnding, Draft.hasEnding, h.ending]

theorem startLabel (h : SameOutline draft other) : other.startLabel = draft.startLabel := by
  rw [Draft.startLabel, Draft.startLabel, h.startScene, h.ids, h.hasEnding]

theorem honoured? (h : SameOutline draft other) :
    other.honoured? reference = draft.honoured? reference := by
  rw [Draft.honoured?, Draft.honoured?, h.ids, h.ending]

theorem labels_compile (h : SameOutline draft other) (settings : Settings) :
    (other.compile settings).labels = (draft.compile settings).labels := by
  rw [labels_compile_eq_distinct, labels_compile_eq_distinct, h.ids, h.hasEnding]

theorem coverNode (h : SameOutline draft other) (settings : Settings) :
    (other.normalize settings).coverNode = (draft.normalize settings).coverNode := by
  have hcover : (other.normalize settings).cover = (draft.normalize settings).cover := by
    simp only [normalize, h.cover]
  rw [Script.coverNode, Script.coverNode, coverContinuation_normalize, coverContinuation_normalize,
    h.startLabel, hcover]

theorem onward (h : SameOutline draft other) :
    other.onward position scene = draft.onward position scene := by
  rw [onward_eq_getD, onward_eq_getD, h.honoured?, h.ids, h.ending]

theorem choiceTarget (h : SameOutline draft other) :
    other.choiceTarget position scene choice = draft.choiceTarget position scene choice := by
  rw [Draft.choiceTarget, Draft.choiceTarget, h.honoured?, h.onward, h.ending]

theorem sceneNode (h : SameOutline draft other) (settings : Settings) (position : Nat) (id : String)
    (scene : Scene) :
    (other.normalize settings).sceneNode (other.scriptScene settings position id scene) =
      (draft.normalize settings).sceneNode (draft.scriptScene settings position id scene) := by
  have hcontinuation : (other.normalize settings).sceneContinuation
      (other.scriptScene settings position id scene) =
        (draft.normalize settings).sceneContinuation
          (draft.scriptScene settings position id scene) := by
    simp only [sceneContinuation_normalize, h.choiceTarget, h.onward]
  rw [Script.sceneNode, Script.sceneNode, hcontinuation]
  rfl

end SameOutline

theorem exists_scenes_withScene (hfound : draft.scenes[position]? = some scene)
    (replacement : Scene) : ∃ before after, draft.scenes = before ++ scene :: after ∧
      (draft.withScene position replacement).scenes = before ++ replacement :: after ∧
      ∀ id, id ∈ after.filterMap Scene.name? ↔ draft.OccursAfter position id := by
  obtain ⟨before, after, hsplit, rfl, hafter⟩ := exists_split_scenes hfound
  refine ⟨before, after, hsplit, ?_, hafter⟩
  rw [withScene, hsplit]
  simp

theorem sameOutline_withScene (hfound : draft.scenes[position]? = some scene)
    (hid : replacement.id = scene.id) :
    SameOutline draft (draft.withScene position replacement) := by
  refine ⟨rfl, rfl, ?_, rfl, rfl⟩
  obtain ⟨before, after, hdraft, hedited, _⟩ := exists_scenes_withScene hfound replacement
  rw [ids_eq_filterMap, ids_eq_filterMap, hedited, hdraft]
  simp only [List.filterMap_append, List.filterMap_cons, hid]

theorem exists_named_withScene (hfound : draft.scenes[position]? = some scene)
    (hname : scene.name? = some id) (hid : replacement.id = scene.id) :
    ∃ before after, draft.named = before ++ (id, scene) :: after ∧
      (draft.withScene position replacement).named = before ++ (id, replacement) :: after ∧
      (id ∈ after.map Prod.fst ↔ draft.OccursAfter position id) := by
  obtain ⟨before, after, hdraft, hedited, hafter⟩ := exists_scenes_withScene hfound replacement
  have hname' : replacement.name? = some id := by
    rw [Scene.name?, hid]
    exact hname
  have hnames : (after.filterMap fun scene ↦ scene.name?.map (·, scene)).map Prod.fst =
      after.filterMap Scene.name? := by
    rw [List.map_filterMap]
    apply List.filterMap_congr
    intro scene _
    simp [Function.comp_def]
  refine ⟨before.filterMap fun scene ↦ scene.name?.map (·, scene),
    after.filterMap fun scene ↦ scene.name?.map (·, scene), ?_, ?_, ?_⟩
  · rw [named, hdraft, List.filterMap_append, List.filterMap_cons, hname]
    rfl
  · rw [named, hedited, List.filterMap_append, List.filterMap_cons, hname']
    rfl
  · rw [hnames, hafter]

theorem IsUsed.exists_isLast_withScene (h : draft.IsUsed position id scene)
    (hid : replacement.id = scene.id) : ∃ place, IsLast draft.named place id scene ∧
      IsLast (draft.withScene position replacement).named place id replacement := by
  obtain ⟨before, after, hdraft, hedited, hafter⟩ := exists_named_withScene h.found h.name hid
  have hfinal : id ∉ after.map Prod.fst := mt hafter.mp h.final
  exact ⟨before.length, Occurrence.isLast_iff_split.mpr ⟨before, after, hdraft, rfl, hfinal⟩,
    Occurrence.isLast_iff_split.mpr ⟨before, after, hedited, rfl, hfinal⟩⟩

theorem mem_nodes_compile_iff :
    node ∈ (draft.compile settings).nodes ↔ node = (draft.normalize settings).coverNode ∨
      (∃ position id scene, IsLast draft.named position id scene ∧
        (draft.normalize settings).sceneNode (draft.scriptScene settings position id scene) =
          node) ∨
      ∃ ending, draft.ending = some ending ∧
        Script.endingNode (ending.normalize settings) = node := by
  have hscenes : (∃ scene ∈ (draft.normalize settings).scenes,
      (draft.normalize settings).sceneNode scene = node) ↔
      ∃ position id scene, IsLast draft.named position id scene ∧
        (draft.normalize settings).sceneNode (draft.scriptScene settings position id scene) =
          node := by
    constructor
    · intro h
      obtain ⟨scene, hscene, rfl⟩ := h
      obtain ⟨position, original, hlast, heq⟩ := mem_mergedScenes_iff.mp hscene
      exact ⟨position, scene.id, original, hlast, congrArg _ heq.symm⟩
    · intro h
      obtain ⟨position, id, scene, hlast, rfl⟩ := h
      exact ⟨_, scriptScene_mem settings hlast, rfl⟩
  rw [compile, Script.mem_nodes_compile, hscenes]
  simp only [normalize, Option.map_eq_some_iff, exists_exists_and_eq_and]

/-- The nodes of the other labels do not depend on what is written in a scene. -/
theorem get?_withScene_of_ne (settings : Settings) (hfound : draft.scenes[position]? = some scene)
    (hname : scene.name? = some id) (hid : replacement.id = scene.id) (hne : label ≠ .scene id) :
    ((draft.withScene position replacement).compile settings).get? label =
      (draft.compile settings).get? label := by
  have houtline := sameOutline_withScene hfound hid
  obtain ⟨before, after, hdraft, hedited, _⟩ := exists_named_withScene hfound hname hid
  ext node
  rw [Graph.get?_eq_some_iff (nodup_labels_compile _ _),
    Graph.get?_eq_some_iff (nodup_labels_compile _ _)]
  apply and_congr_left
  rintro rfl
  rw [mem_nodes_compile_iff, mem_nodes_compile_iff, houtline.coverNode, houtline.ending]
  apply or_congr_right
  apply or_congr_left
  apply exists₃_congr
  intro place other original
  rw [houtline.sceneNode]
  apply and_congr_left
  rintro rfl
  have hother : other ≠ id := fun heq ↦ hne (congrArg Label.scene heq)
  rw [hdraft, hedited]
  exact Occurrence.isLast_replaced hother

theorem IsUsed.exists_get?_withScene (settings : Settings) (h : draft.IsUsed position id scene)
    (replacement : Scene) (hid : replacement.id = scene.id) : ∃ place,
      (draft.compile settings).get? (.scene id) = some ((draft.normalize settings).sceneNode
        (draft.scriptScene settings place id scene)) ∧
      ((draft.withScene position replacement).compile settings).get? (.scene id) =
        some ((draft.normalize settings).sceneNode
          (draft.scriptScene settings place id replacement)) := by
  obtain ⟨place, hlast, hlast'⟩ := h.exists_isLast_withScene hid
  refine ⟨place, get?_scene_compile settings hlast, ?_⟩
  rw [get?_scene_compile settings hlast', (sameOutline_withScene h.found hid).sceneNode]

def branchOf (settings : Settings) (draft : Draft) (place : Nat) (scene : Scene) (index : Nat)
    (choice : Choice) : Branch :=
  ⟨index, (filled choice.label).getD s!"{settings.choiceCaption} {index + 1}",
    draft.choiceTarget place scene choice⟩

theorem sceneNode_of_choices (settings : Settings) (draft : Draft) (place : Nat) (id : String)
    (scene : Scene) (hchoices : scene.choices ≠ []) :
    (draft.normalize settings).sceneNode (draft.scriptScene settings place id scene) =
      ⟨.scene id, .scene ⟨scene.background, scene.accent, scene.dialogue.map Line.normalize⟩,
        .menu (scene.choices.mapIdx (draft.branchOf settings place scene))⟩ :=
  congrArg (Node.mk _ _)
    ((sceneContinuation_normalize settings draft place id).trans (if_pos hchoices))

theorem choiceTarget_of_honoured {place : Nat} (h : draft.honoured? choice.next ≠ none) :
    draft.choiceTarget place replacement choice = draft.choiceTarget place scene choice := by
  obtain ⟨label, hlabel⟩ := Option.ne_none_iff_exists'.mp h
  rw [choiceTarget, choiceTarget, hlabel]

/-- Whatever is written in the scene that is used for an id, the graph keeps its labels, its start
and all other nodes. Of the node of the scene, another choice changes the branch of that choice and
no more; and as long as there are choices, another reference of the scene changes nothing but the
targets of the branches whose own references are not honoured. -/
theorem compile_withScene (settings : Settings) (h : draft.IsUsed position id scene) :
    (∀ replacement : Scene, replacement.id = scene.id →
      ((draft.withScene position replacement).compile settings).labels =
          (draft.compile settings).labels ∧
        ((draft.withScene position replacement).compile settings).start =
          (draft.compile settings).start ∧
        ∀ label, label ≠ .scene id →
          ((draft.withScene position replacement).compile settings).get? label =
            (draft.compile settings).get? label) ∧
      (∀ index choice, index < scene.choices.length → ∃ node branches branch,
        (draft.compile settings).get? (.scene id) = some node ∧
          node.continuation = .menu branches ∧
          ((draft.withScene position
            { scene with choices := scene.choices.set index choice }).compile settings).get?
              (.scene id) = some { node with continuation := .menu (branches.set index branch) }) ∧
      (∀ next, scene.choices ≠ [] → ∃ node branches branches',
        (draft.compile settings).get? (.scene id) = some node ∧
          node.continuation = .menu branches ∧
          ((draft.withScene position { scene with next }).compile settings).get? (.scene id) =
            some { node with continuation := .menu branches' } ∧
          branches.length = scene.choices.length ∧ branches'.length = scene.choices.length ∧
          ∀ (index : Nat) (choice : Choice), scene.choices[index]? = some choice →
            ∃ branch target, branches[index]? = some branch ∧
              branches'[index]? = some { branch with target } ∧
              (draft.honoured? choice.next ≠ none → target = branch.target)) := by
  refine ⟨?_, ?_, ?_⟩
  · intro replacement hid
    have houtline := sameOutline_withScene h.found hid
    refine ⟨houtline.labels_compile settings, houtline.startLabel, ?_⟩
    intro label hne
    exact get?_withScene_of_ne settings h.found h.name hid hne
  · intro index choice hindex
    have hchoices : scene.choices ≠ [] := List.ne_nil_of_length_pos (by omega)
    have hchoices' : scene.choices.set index choice ≠ [] := by simpa using hchoices
    obtain ⟨place, hnode, hnode'⟩ := h.exists_get?_withScene settings
      { scene with choices := scene.choices.set index choice } rfl
    rw [sceneNode_of_choices settings draft place id scene hchoices] at hnode
    rw [sceneNode_of_choices settings draft place id _ hchoices', List.mapIdx_set] at hnode'
    exact ⟨_, _, _, hnode, rfl, hnode'⟩
  · intro next hchoices
    obtain ⟨place, hnode, hnode'⟩ := h.exists_get?_withScene settings { scene with next } rfl
    rw [sceneNode_of_choices settings draft place id scene hchoices] at hnode
    rw [sceneNode_of_choices settings draft place id { scene with next } hchoices] at hnode'
    refine ⟨_, _, _, hnode, rfl, hnode', by simp, by simp, ?_⟩
    intro index choice hchoice
    refine ⟨draft.branchOf settings place scene index choice,
      draft.choiceTarget place { scene with next } choice, ?_, ?_, choiceTarget_of_honoured⟩
    · rw [List.getElem?_mapIdx, hchoice]
      rfl
    · rw [List.getElem?_mapIdx, hchoice]
      rfl

theorem isUsed_rewrittenHub : rewrittenHub.IsUsed 2 "hub" ⟨some "hub", none, none, [],
    [⟨none, some "attic"⟩, ⟨some "Shop", some "shop"⟩], some "cover"⟩ := by
  refine ⟨rfl, by decide, ?_⟩
  intro h
  obtain ⟨later, other, hlt, hother, _⟩ := h
  rw [List.getElem?_eq_none hlt] at hother
  cases hother

theorem compile_withScene_rewrittenHub :
    ((rewrittenHub.withScene 2 ⟨some "hub", some "night", none, [], [], none⟩).compile {}).get?
        (.scene "shop") = (rewrittenHub.compile {}).get? (.scene "shop") ∧
      ∃ node branches branch, (rewrittenHub.compile {}).get? (.scene "hub") = some node ∧
        node.continuation = .menu branches ∧
        ((rewrittenHub.withScene 2 ⟨some "hub", none, none, [],
          [⟨none, some "shop"⟩, ⟨some "Shop", some "shop"⟩], some "cover"⟩).compile {}).get?
            (.scene "hub") = some { node with continuation := .menu (branches.set 0 branch) } := by
  obtain ⟨hother, hchoice, _⟩ := compile_withScene {} isUsed_rewrittenHub
  obtain ⟨_, _, hshop⟩ := hother ⟨some "hub", some "night", none, [], [], none⟩ rfl
  exact ⟨hshop (.scene "shop") (by decide), hchoice 0 ⟨none, some "shop"⟩ (by decide)⟩

end StoryGraph.Draft
