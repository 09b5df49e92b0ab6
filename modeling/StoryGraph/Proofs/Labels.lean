import Mathlib.Data.List.Nodup
import StoryGraph.Graph.Compile
import StoryGraph.Proofs.Merging

namespace StoryGraph

namespace Graph

variable {graph : Graph} {label : Label} {node : Node}

theorem label_mem_labels (h : node ∈ graph.nodes) : node.label ∈ graph.labels :=
  List.mem_map.mpr ⟨node, h, rfl⟩

theorem mem_of_get?_eq_some (h : graph.get? label = some node) :
    node ∈ graph.nodes ∧ node.label = label := by
  have hlabel := List.find?_some h
  exact ⟨List.mem_of_find?_eq_some h, by simpa using hlabel⟩

theorem get?_eq_some_iff (hnodup : graph.labels.Nodup) :
    graph.get? label = some node ↔ node ∈ graph.nodes ∧ node.label = label := by
  constructor
  · intro h
    exact mem_of_get?_eq_some h
  · intro h
    obtain ⟨hnode, rfl⟩ := h
    have hsome : (graph.get? node.label).isSome := by
      simpa [contains] using graph.contains_eq_true.mpr (label_mem_labels hnode)
    obtain ⟨found, hfound⟩ := Option.isSome_iff_exists.mp hsome
    obtain ⟨hmem, hlabel⟩ := mem_of_get?_eq_some hfound
    have heq : found = node := List.inj_on_of_nodup_map hnodup hmem hnode hlabel
    rw [hfound, heq]

/-- Every target is a label of the graph. -/
def Closed (graph : Graph) : Prop := ∀ target ∈ graph.targets, target ∈ graph.labels

theorem Closed.dangling_eq_nil (h : graph.Closed) : graph.dangling = [] := by
  simpa [dangling, Closed] using h

end Graph

namespace Script

variable {script : Script} {node : Node}

theorem mem_nodes_compile :
    node ∈ script.compile.nodes ↔ node = script.coverNode ∨
      (∃ scene ∈ script.scenes, script.sceneNode scene = node) ∨
      ∃ card, script.ending = some card ∧ endingNode card = node := by
  simp [compile]

theorem labels_compile (script : Script) :
    script.compile.labels = .cover :: ((script.scenes.map Scene.id).map .scene ++
      if script.hasEnding then [.ending] else []) := by
  cases hending : script.ending <;>
    simp [Graph.labels, compile, hasEnding, hending, coverNode, endingNode, sceneNode,
      Function.comp_def]

theorem exists_resolve_of_mem_targets {scene : Scene} {target : Label}
    (h : target ∈ (script.sceneContinuation scene).targets) :
    ∃ candidate fallback, target = script.resolve candidate fallback := by
  unfold sceneContinuation at h
  split at h
  · obtain ⟨branch, hbranch, rfl⟩ := List.mem_map.mp h
    obtain ⟨index, hindex, rfl⟩ := List.mem_mapIdx.mp hbranch
    exact ⟨_, _, rfl⟩
  · split at h <;> exact ⟨_, _, List.mem_singleton.mp h⟩

theorem sceneContinuation_ne_terminal (script : Script) (scene : Scene) :
    script.sceneContinuation scene ≠ .terminal := by
  unfold sceneContinuation
  split_ifs <;> simp

end Script

namespace Draft

open Occurrence (IsLast)

variable {settings : Settings} {draft : Draft} {label : Label} {node : Node}

theorem labels_compile_eq_distinct (settings : Settings) (draft : Draft) :
    (draft.compile settings).labels = .cover :: ((Occurrence.distinct draft.ids).map .scene ++
      if draft.hasEnding then [.ending] else []) := by
  rw [compile, Script.labels_compile, hasEnding_normalize]
  change _ :: (((draft.mergedScenes settings).map Script.Scene.id).map _ ++ _) = _
  rw [map_id_mergedScenes]

theorem nodup_labels_compile (settings : Settings) (draft : Draft) :
    (draft.compile settings).labels.Nodup := by
  have hscenes : ((Occurrence.distinct draft.ids).map Label.scene).Nodup :=
    (Occurrence.nodup_distinct draft.ids).map fun _ _ h ↦ Label.scene.inj h
  rw [labels_compile_eq_distinct, List.nodup_cons]
  cases draft.hasEnding <;> simp [List.nodup_append, hscenes]

theorem mem_labels_compile : label ∈ (draft.compile settings).labels ↔ draft.Has label := by
  rw [labels_compile_eq_distinct]
  cases label with
  | cover => simp [Has, Reference.Available]
  | ending => simp [Has, Reference.Available]
  | scene id => simp [Has, Reference.Available, Occurrence.mem_distinct]

theorem coverContinuation_normalize (settings : Settings) (draft : Draft) :
    (draft.normalize settings).coverContinuation = match draft.startLabel with
      | some target => .proceed (draft.normalize settings).cover.cta target
      | none => .terminal := by
  unfold Script.coverContinuation
  change (match draft.startLabel with | some _ => _ | none => _) = _
  cases hstart : draft.startLabel with
  | some target => rfl
  | none =>
    rw [hasEnding_normalize, (startLabel_eq_none_iff.mp hstart).2]
    rfl

theorem get?_cover_compile (settings : Settings) (draft : Draft) :
    (draft.compile settings).get? .cover = some (draft.normalize settings).coverNode :=
  (Graph.get?_eq_some_iff (nodup_labels_compile settings draft)).mpr
    ⟨Script.mem_nodes_compile.mpr (.inl rfl), rfl⟩

theorem get?_scene_compile (settings : Settings) {id : String} {position : Nat} {scene : Scene}
    (h : IsLast draft.named position id scene) :
    (draft.compile settings).get? (.scene id) =
      some ((draft.normalize settings).sceneNode
        (draft.scriptScene settings position id scene)) := by
  have hmem := scriptScene_mem settings h
  exact (Graph.get?_eq_some_iff (nodup_labels_compile settings draft)).mpr
    ⟨Script.mem_nodes_compile.mpr (.inr (.inl ⟨_, hmem, rfl⟩)), rfl⟩

/-- Resolution, the start and the way back from the ending all stay within the story. -/
theorem has_of_mem_targets {target : Label} (hnode : node ∈ (draft.compile settings).nodes)
    (h : target ∈ node.continuation.targets) : draft.Has target := by
  rcases Script.mem_nodes_compile.mp hnode with rfl | ⟨scene, _, rfl⟩ | ⟨card, _, rfl⟩
  · change target ∈ (draft.normalize settings).coverContinuation.targets at h
    rw [coverContinuation_normalize] at h
    cases hstart : draft.startLabel with
    | some start =>
      rw [hstart] at h
      rw [List.mem_singleton.mp h]
      exact has_of_startLabel_eq_some hstart
    | none => simp [hstart, Continuation.targets] at h
  · obtain ⟨candidate, fallback, rfl⟩ := Script.exists_resolve_of_mem_targets h
    exact available_normalize.mp Reference.available_resolve
  · rw [List.mem_singleton.mp h]
    trivial

/-- A compiled graph never leads out of itself. Its start is the one target of the cover, and it is
missing exactly when the cover leads nowhere: when the draft names no scene and has no ending. -/
theorem compile_closed (settings : Settings) (draft : Draft) :
    (draft.compile settings).Closed ∧ (draft.compile settings).dangling = [] ∧
      (∀ label, (draft.compile settings).start = some label →
        label ∈ (draft.compile settings).labels) ∧
      (∃ cover, (draft.compile settings).get? .cover = some cover ∧
        cover.continuation.targets = (draft.compile settings).start.toList ∧
        ((draft.compile settings).start = none ↔ cover.continuation = .terminal)) ∧
      ((draft.compile settings).start = none ↔
        (∀ scene ∈ draft.scenes, scene.id = none ∨ scene.id = some "") ∧ draft.ending = none) := by
  have hclosed : (draft.compile settings).Closed := by
    intro target htarget
    obtain ⟨node, hnode, hmem⟩ := List.mem_flatMap.mp htarget
    exact mem_labels_compile.mpr (has_of_mem_targets hnode hmem)
  have hstart : (draft.compile settings).start = draft.startLabel := rfl
  refine ⟨hclosed, hclosed.dangling_eq_nil, ?_, ⟨_, get?_cover_compile settings draft, ?_, ?_⟩, ?_⟩
  · intro label h
    rw [hstart] at h
    exact mem_labels_compile.mpr (has_of_startLabel_eq_some h)
  · change (draft.normalize settings).coverContinuation.targets = _
    rw [coverContinuation_normalize, hstart]
    cases draft.startLabel <;> rfl
  · change _ ↔ (draft.normalize settings).coverContinuation = _
    rw [coverContinuation_normalize, hstart]
    cases draft.startLabel <;> simp
  · rw [hstart, startLabel_eq_none_iff, ids_eq_nil_iff]
    simp [hasEnding]

theorem node_of_label_eq_scene {id : String} (hnode : node ∈ (draft.compile settings).nodes)
    (h : node.label = .scene id) : ∃ position scene, IsLast draft.named position id scene ∧
      node = (draft.normalize settings).sceneNode
        (draft.scriptScene settings position id scene) := by
  rcases Script.mem_nodes_compile.mp hnode with rfl | ⟨scene, hscene, rfl⟩ | ⟨card, _, rfl⟩
  · cases h
  · cases h
    obtain ⟨position, original, hlast, heq⟩ := mem_mergedScenes_iff.mp hscene
    exact ⟨position, original, hlast, congrArg _ heq⟩
  · cases h

/-- The labels of a compiled graph are the cover, the ids of the draft in the order of their first
occurrences, and the ending if the draft has one. None is repeated, and each shows what it stands
for: a scene shows what was last written under its id. -/
theorem compile_labels (settings : Settings) (draft : Draft) :
    (draft.compile settings).labels = .cover ::
        ((draft.scenes.filterMap fun scene ↦ filled scene.id).eraseDups.map .scene ++
          if draft.ending.isSome then [.ending] else []) ∧
      (draft.compile settings).labels.Nodup ∧
      (∀ label node, (draft.compile settings).get? label = some node ↔
        node ∈ (draft.compile settings).nodes ∧ node.label = label) ∧
      (∀ node ∈ (draft.compile settings).nodes, node.label = .cover →
        node.content = .cover ((draft.cover.getD Cover.missing).normalize settings)) ∧
      (∀ node ∈ (draft.compile settings).nodes, node.label = .ending →
        ∃ ending, draft.ending = some ending ∧
          node.content = .ending (ending.normalize settings) ∧
          node.continuation.targets = [.cover]) ∧
      (∀ node ∈ (draft.compile settings).nodes, ∀ id, node.label = .scene id →
        ∃ before scene after, draft.scenes = before ++ scene :: after ∧ scene.id = some id ∧
          (∀ later ∈ after, later.id ≠ some id) ∧
          node.content = .scene ⟨scene.background, scene.accent,
            scene.dialogue.map fun line ↦ ⟨filled line.speaker, line.text.getD ""⟩⟩) := by
  have hnodup := nodup_labels_compile settings draft
  refine ⟨?_, hnodup, fun label node ↦ Graph.get?_eq_some_iff hnodup, ?_, ?_, ?_⟩
  · rw [labels_compile_eq_distinct, Occurrence.distinct_eq_eraseDups, ids_eq_filterMap]
    rfl
  · intro node hnode h
    rcases Script.mem_nodes_compile.mp hnode with rfl | ⟨scene, _, rfl⟩ | ⟨card, _, rfl⟩
    · rfl
    · cases h
    · cases h
  · intro node hnode h
    rcases Script.mem_nodes_compile.mp hnode with rfl | ⟨scene, _, rfl⟩ | ⟨card, hcard, rfl⟩
    · cases h
    · cases h
    · obtain ⟨ending, hending, rfl⟩ := Option.map_eq_some_iff.mp hcard
      exact ⟨ending, hending, rfl, rfl⟩
  · intro node hnode id h
    obtain ⟨position, scene, hlast, rfl⟩ := node_of_label_eq_scene hnode h
    obtain ⟨_, hid, before, after, hscenes, hafter⟩ := exists_isLast_named_iff.mp ⟨_, hlast⟩
    exact ⟨before, scene, after, hscenes, hid, hafter, rfl⟩

example : (compile {} ⟨none, none, [⟨some "ending", none, none, [], [], none⟩,
    ⟨some "", none, none, [], [], none⟩, ⟨some "cover", none, none, [], [], none⟩,
    ⟨some "ending", none, none, [], [], none⟩], some ⟨none, none, none, none⟩, none⟩).labels =
    [.cover, .scene "ending", .scene "cover", .ending] := by decide

end Draft

end StoryGraph
